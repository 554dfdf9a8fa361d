import BracketDecoration.Proofs.Settings.Concatenation

namespace BracketDecoration.Settings.Config

theorem empty_merge (upper : Config) : empty.merge upper = upper := by
  cases upper
  simp only [merge, empty, Layer.empty_overlay, List.nil_append]

private theorem language?_empty (grammar : String) : empty.language? grammar = none := rfl

theorem language?_merge (lower upper : Config) (grammar : String) :
    (lower.merge upper).language? grammar =
      (lower.language? grammar).merge Layer.overlay (upper.language? grammar) := by
  rw [language?_eq, language?_eq lower, language?_eq upper, languageLayers_merge]
  by_cases below : lower.languageLayers grammar = []
  · rw [below, List.nil_append, if_pos rfl, Option.merge_none_left]
  · by_cases above : upper.languageLayers grammar = []
    · rw [above, List.append_nil, if_neg below, if_pos rfl, Option.merge_none_right]
    · have named : lower.languageLayers grammar ++ upper.languageLayers grammar ≠ [] :=
        List.append_ne_nil_of_left_ne_nil below _
      rw [if_neg below, if_neg above, if_neg named, Layer.stack_append]
      rfl

/-- Configurations are merged in any grouping, an empty one makes no difference, and the layers that two
configurations have for a grammar are put over each other if both have one. -/
theorem merge_monoid (bottom middle top : Config) (grammar : String) :
    (bottom.merge middle).merge top = bottom.merge (middle.merge top) ∧
      empty.merge bottom = bottom ∧ bottom.merge empty = bottom ∧
      empty.language? grammar = none ∧
      (bottom.merge middle).language? grammar =
        match bottom.language? grammar, middle.language? grammar with
        | none, none => none
        | some lower, none => some lower
        | none, some upper => some upper
        | some lower, some upper => some (lower.overlay upper) := by
  refine ⟨merge_assoc bottom middle top, empty_merge bottom, merge_empty bottom,
    language?_empty grammar, ?_⟩
  rw [language?_merge]
  cases bottom.language? grammar with
  | none =>
      cases middle.language? grammar with
      | none => rfl
      | some upper => rfl
  | some lower =>
      cases middle.language? grammar with
      | none => rfl
      | some upper => rfl

end BracketDecoration.Settings.Config
