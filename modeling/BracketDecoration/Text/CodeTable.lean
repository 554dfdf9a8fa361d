import BracketDecoration.Text.Digits
import BracketDecoration.Text.Pieces

/-!
Properties of characters as tables: runs of codes with the value that their characters have.

A table is written in rows of words. A word is the code of a character, or the codes of the first and the last
character of a run with a hyphen between them, in small hexadecimal digits; a sign for the value follows.
-/

namespace BracketDecoration.Text

/-- The codes from `first` to `last` and what their characters have in common. -/
structure CodeRun (Value : Type) where
  first : Nat
  last : Nat
  value : Value

namespace CodeRun

variable {Value : Type}

def covers (run : CodeRun Value) (char : Char) : Bool :=
  run.first ≤ char.toNat && char.toNat ≤ run.last

/-- A digit of a code, in distinction to the letters of signs. -/
def isCodeDigit (char : Char) : Bool :=
  char.isDigit || ('a' ≤ char && char ≤ 'f')

/-- The run that a word stands for; `valueOf?` reads the sign behind the codes. -/
def ofWord? (valueOf? : List Char → Option Value) (word : List Char) : Option (CodeRun Value) :=
  let start := word.takeWhile isCodeDigit
  match word.drop start.length with
  | '-' :: rest =>
    let ending := rest.takeWhile isCodeDigit
    return ⟨← natOfDigits? 16 start, ← natOfDigits? 16 ending, ← valueOf? (rest.drop ending.length)⟩
  | sign => do
    let code ← natOfDigits? 16 start
    return ⟨code, code, ← valueOf? sign⟩

end CodeRun

/-- Runs of which no two share a code. -/
abbrev CodeTable (Value : Type) := List (CodeRun Value)

namespace CodeTable

variable {Value : Type}

def ofRows (valueOf? : List Char → Option Value) (rows : List String) : CodeTable Value :=
  rows.flatMap fun row => (splitAt ' ' row.toList).filterMap (CodeRun.ofWord? valueOf?)

def run? (table : CodeTable Value) (char : Char) : Option (CodeRun Value) :=
  table.find? fun run => run.covers char

def value? (table : CodeTable Value) (char : Char) : Option Value :=
  (table.run? char).map CodeRun.value

end CodeTable

abbrev CodeSet := CodeTable Unit

namespace CodeSet

def ofRows (rows : List String) : CodeSet :=
  CodeTable.ofRows (fun sign => if sign.isEmpty then some () else none) rows

def contains (set : CodeSet) (char : Char) : Bool :=
  (set.run? char).isSome

end CodeSet

end BracketDecoration.Text
