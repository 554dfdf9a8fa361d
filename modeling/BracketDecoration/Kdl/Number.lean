import BracketDecoration.Kdl.Node
import BracketDecoration.Kdl.Scan

/-!
Number literals: an optional sign, then digits of base two, eight or sixteen behind their mark, or a decimal
number. Underscores may stand between and after digits.
-/

namespace BracketDecoration.Kdl

def maxMagnitude : Nat := 0x7fff_ffff_ffff_ffff_ffff_ffff_ffff_ffff

def valueOfDigits (base : Nat) (digits : List Char) : Nat :=
  digits.foldl (fun value digit => match Text.digitOf? base digit with
    | some next => base * value + next
    | none => value) 0

def scanDigits (base : Nat) : (input : List Char) → Option (Scan (List Char) input)
  | first :: inner =>
    if isDigitOf base first then
      let further := fun char => isDigitOf base char || char = '_'
      some ⟨first :: inner.takeWhile further, inner.dropWhile further,
        Nat.lt_succ_of_le (length_dropWhile_le _ _)⟩
    else none
  | [] => none

def integerWithin? (negative : Bool) (magnitude : Nat) : Option Value :=
  if magnitude ≤ maxMagnitude then
    some (.integer (if negative then -(magnitude : Int) else magnitude))
  else none

def baseOfMark? (mark : Char) : Option Nat :=
  if mark = 'x' || mark = 'X' then some 16
  else if mark = 'o' || mark = 'O' then some 8
  else if mark = 'b' || mark = 'B' then some 2
  else none

def isBounded (digits : List Char) : Bool :=
  valueOfDigits 10 digits ≤ maxMagnitude

/-- A fraction, or nothing; a point has to be the beginning of one. -/
def scanFraction? : (input : List Char) → Option (List Char × Remainder input)
  | '.' :: inner => do
    let scan ← scanDigits 10 inner
    if isBounded scan.value then
      some ('.' :: scan.value, ⟨scan.rest, Nat.le_succ_of_le (Nat.le_of_lt scan.shorter)⟩)
    else none
  | input => some ([], .whole input)

def splitSign : (input : List Char) → List Char × Remainder input
  | first :: rest =>
    if isSign first then ([first], (Scan.ofFirst () first rest).remainder) else ([], .whole (first :: rest))
  | [] => ([], .whole [])

def scanExponent? : (input : List Char) → Option (List Char × Remainder input)
  | letter :: inner =>
    if letter = 'e' || letter = 'E' then do
      let (sign, start) := splitSign inner
      let scan ← scanDigits 10 start.val
      if isBounded scan.value then
        some (letter :: (sign ++ scan.value), ⟨scan.rest, by
          have := start.property; have := scan.shorter; simp only [List.length_cons]; omega⟩)
      else none
    else some ([], .whole (letter :: inner))
  | [] => some ([], .whole [])

/-- A decimal number: a float exactly if it has a fraction or an exponent. Each of its three parts is within the
bounds of an integer. -/
def scanDecimal (negative : Bool) (input : List Char) : Option (Scan Value input) := do
  let whole ← scanDigits 10 input
  let value ← integerWithin? negative (valueOfDigits 10 whole.value)
  let (fraction, afterFraction) ← scanFraction? whole.rest
  let (exponent, afterExponent) ← scanExponent? afterFraction.val
  let spelling := (if negative then ['-'] else []) ++ whole.value ++ fraction ++ exponent
  some ⟨if fraction.isEmpty && exponent.isEmpty then value else .float (String.ofList spelling),
    afterExponent.val, by
      have := whole.shorter; have := afterFraction.property; have := afterExponent.property; omega⟩

def scanUnsigned (negative : Bool) : (input : List Char) → Option (Scan Value input)
  | '0' :: mark :: inner =>
    match baseOfMark? mark with
    | some base => do
      let scan ← scanDigits base inner
      let value ← integerWithin? negative (valueOfDigits base scan.value)
      some ⟨value, scan.rest, by have := scan.shorter; simp only [List.length_cons]; omega⟩
    | none => scanDecimal negative ('0' :: mark :: inner)
  | input => scanDecimal negative input

def scanNumber : (input : List Char) → Option (Scan Value input)
  | sign :: inner =>
    if isSign sign then
      (scanUnsigned (sign = '-') inner).map fun scan => scan.within (Nat.le_succ _)
    else scanUnsigned false (sign :: inner)
  | [] => none

end BracketDecoration.Kdl
