import BracketDecoration.Text.CodeTable

namespace BracketDecoration.Text

/-- What becomes of the characters of a run. In `pairs` capital letters and their small letters follow each
other in turn. In `each` every character of the run has codes of its own. -/
inductive CodeChange where
  | keep
  | drop
  | forward (distance : Nat)
  | backward (distance : Nat)
  | pairs
  | each (replacements : List (List Nat))
deriving Repr

namespace CodeChange

def codes (first code : Nat) : CodeChange → List Nat
  | .keep => [code]
  | .drop => []
  | .forward distance => [code + distance]
  | .backward distance => [code - distance]
  | .pairs => [if (code - first) % 2 = 0 then code + 1 else code]
  | .each replacements => replacements.getD (code - first) [code]

def ofSign? : List Char → Option CodeChange
  | [] => some .keep
  | ['!'] => some .drop
  | ['/'] => some .pairs
  | '>' :: digits => (natOfDigits? 16 digits).map .forward
  | '<' :: digits => (natOfDigits? 16 digits).map .backward
  | '*' :: replacements =>
    ((splitAt ',' replacements).mapM fun codes => (splitAt '.' codes).mapM (natOfDigits? 16)).map .each
  | _ => none

end CodeChange

abbrev ChangeTable := CodeTable CodeChange

namespace ChangeTable

/-- A word without a sign keeps its characters. The sign `!` drops them, `>` and `<` move them by a distance,
`/` makes capital letters small that take turns with their small letters, and behind `*` the codes for each
character of the run are written. -/
def ofRows (rows : List String) : ChangeTable :=
  CodeTable.ofRows CodeChange.ofSign? rows

def change? (table : ChangeTable) (char : Char) : Option (List Char) :=
  (table.run? char).map fun run => (run.value.codes run.first char.toNat).map Char.ofNat

end ChangeTable

end BracketDecoration.Text
