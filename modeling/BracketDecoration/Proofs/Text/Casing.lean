import BracketDecoration.Text.Lowercase

/-!
Small letters beyond ASCII stay beyond ASCII, but for the sign of the unit kelvin, which becomes the letter k. So
a text has a word of ASCII letters without a k for its lower case exactly if it is that word but for the case of
its ASCII letters.
-/

namespace BracketDecoration.Text

/-- What a character beyond ASCII may have among its small letters. -/
def isForeign (char : Char) : Bool :=
  0x80 ≤ char.toNat || char = 'k'

def CodeRun.isForeign (run : CodeRun CodeChange) : Bool :=
  (List.range' run.first (run.last + 1 - run.first)).all fun code =>
    (run.value.codes run.first code).any fun small => Text.isForeign (Char.ofNat small)

def isForeignRow (row : List Char) : Bool :=
  ((splitAt ' ' row).filterMap (CodeRun.ofWord? CodeChange.ofSign?)).all CodeRun.isForeign

theorem isForeignRow_toList {row : List Char} (checked : isForeignRow row = true) :
    isForeignRow (String.ofList row).toList = true := by
  rw [String.toList_ofList]
  exact checked

private theorem ChangeTable.isForeign_of_mem {rows : List String}
    (checked : ∀ row ∈ rows, isForeignRow row.toList = true) :
    ∀ run ∈ ofRows rows, run.isForeign = true := by
  intro run member
  obtain ⟨row, present, read⟩ := List.mem_flatMap.mp member
  exact List.all_eq_true.mp (checked row present) run read

private theorem isForeign_of_mem_smallLetters : ∀ run ∈ smallLetters, run.isForeign = true := by
  refine ChangeTable.isForeign_of_mem ?_
  simp only [List.forall_mem_cons, List.not_mem_nil, false_imp_iff, implies_true, and_true]
  repeat' apply And.intro
  all_goals exact isForeignRow_toList (by decide +kernel)

private theorem exists_isForeign_lowerChar {char : Char} (beyond : 0x80 ≤ char.toNat) :
    ∃ small ∈ lowerChar char, isForeign small = true := by
  unfold lowerChar ChangeTable.change? CodeTable.run?
  rw [if_neg (by omega)]
  cases found : smallLetters.find? fun run => run.covers char with
  | none =>
      have foreign : isForeign char = true := by
        simp only [isForeign, beyond, decide_true, Bool.true_or]
      exact ⟨char, List.mem_singleton_self char, foreign⟩
  | some run =>
      have covered : run.covers char = true := by simpa only using List.find?_some found
      have checked := isForeign_of_mem_smallLetters run (List.mem_of_find?_eq_some found)
      simp only [CodeRun.covers, Bool.and_eq_true, decide_eq_true_eq] at covered
      have placed : char.toNat ∈ List.range' run.first (run.last + 1 - run.first) := by
        rw [List.mem_range'_1]
        omega
      obtain ⟨small, member, foreign⟩ :=
        List.any_eq_true.mp (List.all_eq_true.mp checked char.toNat placed)
      exact ⟨Char.ofNat small, List.mem_map_of_mem member, foreign⟩

private theorem toLower_of_beyond {char : Char} (beyond : 0x80 ≤ char.toNat) : char.toLower = char := by
  have above : ¬(char.val ≥ 'A'.val ∧ char.val ≤ 'Z'.val) := by
    rintro ⟨_lower, upper⟩
    have small : char.toNat ≤ 0x5A := upper
    omega
  exact dif_neg above

/-- Neither way to lower the text can bring a foreign character into the word, and for ASCII they are the
same. -/
theorem lowerAfter_eq_iff {word : List Char} (plain : ∀ letter ∈ word, isForeign letter = false)
    (before chars : List Char) : lowerAfter before chars = word ↔ chars.map Char.toLower = word := by
  induction chars generalizing before word with
  | nil => exact Iff.rfl
  | cons char rest ih =>
      rw [List.map_cons, lowerAfter]
      by_cases beyond : 0x80 ≤ char.toNat
      · have lowered : ∃ small ∈ if char = 'Σ' then [lowerSigma before rest] else lowerChar char,
            isForeign small = true := by
          by_cases sigma : char = 'Σ'
          · rw [if_pos sigma]
            refine ⟨lowerSigma before rest, List.mem_singleton_self _, ?_⟩
            unfold lowerSigma
            split <;> rfl
          · rw [if_neg sigma]
            exact exists_isForeign_lowerChar beyond
        have foreign : isForeign char = true := by
          simp only [isForeign, beyond, decide_true, Bool.true_or]
        obtain ⟨small, member, other⟩ := lowered
        constructor
        · rintro rfl
          rw [plain small (List.mem_append_left _ member)] at other
          cases other
        · rintro rfl
          have native := plain char.toLower List.mem_cons_self
          rw [toLower_of_beyond beyond, foreign] at native
          cases native
      · have unlike : char ≠ 'Σ' := by
          rintro rfl
          exact beyond (by decide)
        rw [if_neg unlike, lowerChar, if_pos (by omega), List.singleton_append]
        cases word with
        | nil => exact ⟨nofun, nofun⟩
        | cons letter letters =>
            rw [List.cons.injEq, List.cons.injEq,
              ih (fun other member => plain other (List.mem_cons_of_mem letter member))]

theorem lowercase_eq_iff {word : String} (plain : ∀ letter ∈ word.toList, isForeign letter = false)
    (text : String) : lowercase text = word ↔ text.toList.map Char.toLower = word.toList := by
  rw [← lowerAfter_eq_iff plain [] text.toList]
  constructor
  · rintro rfl
    rw [lowercase, String.toList_ofList]
  · intro lowered
    rw [lowercase, lowered, String.ofList_toList]

end BracketDecoration.Text
