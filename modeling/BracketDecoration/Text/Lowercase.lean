import BracketDecoration.Text.CaseTable

/-!
Lower case for whole texts, after the Unicode standard. Main definition: `Text.lowercase`.

One letter needs more than a table: the capital sigma becomes the final form of the small letter at the end of a
word.
-/

namespace BracketDecoration.Text

def lowerChar (char : Char) : List Char :=
  if char.toNat < 0x80 then [char.toLower]
  else (smallLetters.change? char).getD [char]

def beginsCased (chars : List Char) : Bool :=
  match chars.dropWhile isCaseIgnorable with
  | first :: _ => isCased first
  | [] => false

/-- The small sigma between what comes before it, last character first, and what comes after it. -/
def lowerSigma (before after : List Char) : Char :=
  if beginsCased before && !beginsCased after then 'ς' else 'σ'

/-- Lower case of `rest`, which stands behind `before`; `before` has its last character first. -/
def lowerAfter (before : List Char) : List Char → List Char
  | [] => []
  | char :: rest =>
    (if char = 'Σ' then [lowerSigma before rest] else lowerChar char) ++ lowerAfter (char :: before) rest

def lowercase (text : String) : String :=
  String.ofList (lowerAfter [] text.toList)

end BracketDecoration.Text
