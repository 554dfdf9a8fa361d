/-!
How alike two words are, after Jaro and Winkler: a number from zero to one.

Two equal characters match if they are not too far apart. The score weighs the share of matched characters
in either word with the share of them that stand in the same order, and gains from a common beginning.
-/

namespace BracketDecoration.Text

/-- The first position from `position` on where an unused `wanted` stands, within `span` characters. -/
def findUnused (wanted : Char) : Nat → List (Char × Bool) → Nat → Option Nat
  | position, (char, used) :: rest, span + 1 =>
    if char = wanted && !used then some position else findUnused wanted (position + 1) rest span
  | _, _, _ => none

/-- The matched characters of the first word, and the second word with its matched characters marked. -/
def matchChars (reach : Nat) : Nat → List Char → List (Char × Bool) → List Char × List (Char × Bool)
  | _, [], marked => ([], marked)
  | index, char :: rest, marked =>
    let low := index - reach
    let high := index + reach + 1
    match findUnused char low (marked.drop low) (high - low) with
    | some position =>
      let (matched, final) := matchChars reach (index + 1) rest (marked.set position (char, true))
      (char :: matched, final)
    | none => matchChars reach (index + 1) rest marked

def jaro (left right : List Char) : Float :=
  if left.isEmpty && right.isEmpty then 1.0
  else if left.isEmpty || right.isEmpty then 0.0
  else
    let reach := Nat.max left.length right.length / 2 - 1
    let (matched, marked) := matchChars reach 0 left (right.map (·, false))
    let count := matched.length
    if count = 0 then 0.0
    else
      let counterparts := (marked.filter (·.2)).map (·.1)
      let displaced := (List.zip matched counterparts).countP fun pair => pair.1 ≠ pair.2
      let agreed := count.toFloat
      (agreed / left.length.toFloat + agreed / right.length.toFloat +
        (agreed - (displaced / 2).toFloat) / agreed) / 3.0

def commonStart : List Char → List Char → Nat
  | first :: rest, first' :: rest' => if first = first' then commonStart rest rest' + 1 else 0
  | _, _ => 0

/-- Words that are somewhat alike gain a tenth of what is missing for each of up to four characters that
they begin with in common. -/
def jaroWinkler (left right : List Char) : Float :=
  let base := jaro left right
  if base > 0.7 then
    base + 0.1 * (Nat.min 4 (commonStart left right)).toFloat * (1.0 - base)
  else base

end BracketDecoration.Text
