import Mathlib.Data.List.Induction

namespace BracketDecoration.History

variable {α : Type} {older before after : List α} {newest entry : α}

theorem nil_ne_append_cons : [] ≠ before ++ entry :: after :=
  (List.append_ne_nil_of_right_ne_nil before (List.cons_ne_nil entry after)).symm

/-- An entry is the newest one, or it is among the older ones and the newest comes after it. -/
theorem concat_eq_append_cons_iff :
    older ++ [newest] = before ++ entry :: after ↔
      (before = older ∧ entry = newest ∧ after = []) ∨
        ∃ rest, older = before ++ entry :: rest ∧ after = rest ++ [newest] := by
  constructor
  · intro cut
    rcases List.eq_nil_or_concat after with rfl | ⟨rest, final, rfl⟩
    · obtain ⟨rfl, same⟩ := List.append_inj' cut rfl
      exact Or.inl ⟨rfl, (List.cons.inj same).1.symm, rfl⟩
    · rw [List.concat_eq_append, ← List.cons_append, ← List.append_assoc] at cut
      obtain ⟨rfl, same⟩ := List.append_inj' cut rfl
      obtain ⟨rfl, _nil⟩ := List.cons.inj same
      exact Or.inr ⟨rest, rfl, List.concat_eq_append⟩
  · rintro (⟨rfl, rfl, rfl⟩ | ⟨rest, rfl, rfl⟩)
    · rfl
    · rw [List.append_assoc, List.cons_append]

end BracketDecoration.History
