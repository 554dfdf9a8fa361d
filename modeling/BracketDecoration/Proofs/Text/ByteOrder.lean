import BracketDecoration.Text.Bytes

namespace BracketDecoration.Text

/-- The bytes of a code: the first of them tells how many there are, and the digits of the code in base 64
follow it. -/
inductive Encoded (code : Nat) : List UInt8 → Prop where
  | one (bounded : code < 0x80) : Encoded code [.ofNat code]
  | two (reached : 0x80 ≤ code) (bounded : code < 0x800) :
      Encoded code [.ofNat (code / 64 % 32 + 192), .ofNat (code % 64 + 128)]
  | three (reached : 0x800 ≤ code) (bounded : code < 0x10000) :
      Encoded code [.ofNat (code / 4096 % 16 + 224), .ofNat (code / 64 % 64 + 128),
        .ofNat (code % 64 + 128)]
  | four (reached : 0x10000 ≤ code) (bounded : code < 0x110000) :
      Encoded code [.ofNat (code / 262144 % 8 + 240), .ofNat (code / 4096 % 64 + 128),
        .ofNat (code / 64 % 64 + 128), .ofNat (code % 64 + 128)]

private theorem encoded_charBytes (char : Char) : Encoded char.toNat (charBytes char) := by
  have valid : char.toNat.isValidChar := char.valid
  unfold Nat.isValidChar at valid
  change Encoded char.toNat
    (if char.toNat ≤ 127 then _ else if char.toNat ≤ 2047 then _ else if char.toNat ≤ 65535 then _ else _)
  by_cases one : char.toNat ≤ 127
  · rw [if_pos one]
    exact .one (by omega)
  · rw [if_neg one]
    by_cases two : char.toNat ≤ 2047
    · rw [if_pos two]
      exact .two (by omega) (by omega)
    · rw [if_neg two]
      by_cases three : char.toNat ≤ 65535
      · rw [if_pos three]
        exact .three (by omega) (by omega)
      · rw [if_neg three]
        exact .four (by omega) (by omega)

private theorem ofNat_cons_lt {low high : Nat} {lowRest highRest : List UInt8} (bounded : high < 256)
    (ordered : low ≤ high) (tied : low = high → lowRest < highRest) :
    UInt8.ofNat low :: lowRest < UInt8.ofNat high :: highRest := by
  rw [List.cons_lt_cons_iff]
  rcases Nat.lt_or_eq_of_le ordered with smaller | same
  · left
    rw [UInt8.lt_iff_toNat_lt, UInt8.toNat_ofNat_of_lt' bounded,
      UInt8.toNat_ofNat_of_lt' (Nat.lt_trans smaller bounded)]
    exact smaller
  · exact Or.inr ⟨congrArg UInt8.ofNat same, tied same⟩

private theorem Encoded.append_lt {low high : Nat} {lowBytes highBytes : List UInt8}
    (lower : Encoded low lowBytes) (upper : Encoded high highBytes) (less : low < high)
    (lowRest highRest : List UInt8) : lowBytes ++ lowRest < highBytes ++ highRest := by
  -- The first bytes decide between different lengths, and for the same length the first digits that differ.
  cases lower with
  | one bounded =>
      cases upper with
      | _ => exact ofNat_cons_lt (by omega) (by omega) fun _ => by omega
  | two reached bounded =>
      cases upper with
      | one => omega
      | two =>
          refine ofNat_cons_lt (by omega) (by omega) fun first => ?_
          exact ofNat_cons_lt (by omega) (by omega) fun second => by omega
      | three | four => exact ofNat_cons_lt (by omega) (by omega) fun _ => by omega
  | three reached bounded =>
      cases upper with
      | one | two => omega
      | three =>
          refine ofNat_cons_lt (by omega) (by omega) fun first => ?_
          refine ofNat_cons_lt (by omega) (by omega) fun second => ?_
          exact ofNat_cons_lt (by omega) (by omega) fun third => by omega
      | four => exact ofNat_cons_lt (by omega) (by omega) fun _ => by omega
  | four reached bounded =>
      cases upper with
      | one | two | three => omega
      | four =>
          refine ofNat_cons_lt (by omega) (by omega) fun first => ?_
          refine ofNat_cons_lt (by omega) (by omega) fun second => ?_
          refine ofNat_cons_lt (by omega) (by omega) fun third => ?_
          exact ofNat_cons_lt (by omega) (by omega) fun fourth => by omega

private theorem Encoded.nil_lt {code : Nat} {bytes : List UInt8} (encoded : Encoded code bytes)
    (rest : List UInt8) : [] < bytes ++ rest := by
  cases encoded with
  | _ => exact List.nil_lt_cons _ _

theorem bytes_lt_of_lt {left right : List Char} (less : left < right) : bytes left < bytes right := by
  induction left generalizing right with
  | nil =>
      cases right with
      | nil => exact absurd less (List.lt_irrefl [])
      | cons char rest => exact (encoded_charBytes char).nil_lt (bytes rest)
  | cons first rest ih =>
      cases right with
      | nil => exact absurd less (List.not_lt_nil _)
      | cons other others =>
          change charBytes first ++ bytes rest < charBytes other ++ bytes others
          rcases List.cons_lt_cons_iff.mp less with smaller | ⟨rfl, later⟩
          · exact (encoded_charBytes first).append_lt (encoded_charBytes other) smaller _ _
          · exact List.append_left_lt (ih later)

end BracketDecoration.Text
