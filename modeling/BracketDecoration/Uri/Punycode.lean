/-!
Names beyond ASCII in letters, digits and hyphens (Punycode).

The characters beyond ASCII are taken in order of their codes. Each is written as the number of places that
are passed since the one before it, as a number with digits of varying weight.
-/

namespace BracketDecoration.Uri.Punycode

def digitChar (value : Nat) : Char :=
  if value < 26 then Char.ofNat ('a'.toNat + value) else Char.ofNat ('0'.toNat + (value - 26))

def digitValue? (char : Char) : Option Nat :=
  if 'a' ≤ char ∧ char ≤ 'z' then some (char.toNat - 'a'.toNat)
  else if 'A' ≤ char ∧ char ≤ 'Z' then some (char.toNat - 'A'.toNat)
  else if '0' ≤ char ∧ char ≤ '9' then some (char.toNat - '0'.toNat + 26)
  else none

/-- The least value that does not end a number at the place `place`, between one and twenty-six. -/
def threshold (place bias : Nat) : Nat :=
  max 1 (min 26 (place - bias))

private theorem threshold_bounds (place bias : Nat) : 1 ≤ threshold place bias ∧ threshold place bias ≤ 26 := by
  unfold threshold; omega

def scaleDelta (delta place : Nat) : Nat :=
  if 455 < delta then scaleDelta (delta / 35) (place + 36) else place + 36 * delta / (delta + 38)
termination_by delta
decreasing_by exact Nat.div_lt_self (by omega) (by decide)

/-- The bias for the number after `delta`, when `count` characters have been placed. -/
def adapt (delta count : Nat) (first : Bool) : Nat :=
  let halved := if first then delta / 700 else delta / 2
  scaleDelta (halved + halved / count) 0

def encodeNumber (bias place value : Nat) : List Char :=
  if value < threshold place bias then [digitChar value]
  else
    digitChar (threshold place bias + (value - threshold place bias) % (36 - threshold place bias)) ::
      encodeNumber bias (place + 36) ((value - threshold place bias) / (36 - threshold place bias))
termination_by value
decreasing_by
  have bounds := threshold_bounds place bias
  have := Nat.div_le_self (value - threshold place bias) (36 - threshold place bias)
  omega

structure Encoder where
  output : List Char
  delta : Nat
  bias : Nat
  placed : Nat

def Encoder.pass (code basic : Nat) (state : Encoder) (char : Char) : Encoder :=
  if char.toNat < code then { state with delta := state.delta + 1 }
  else if char.toNat = code then
    ⟨state.output ++ encodeNumber state.bias 36 state.delta, 0,
      adapt state.delta (state.placed + 1) (state.placed = basic), state.placed + 1⟩
  else state

/-- Places the characters of the given codes, which are in ascending order; `next` is the code after the
last one placed. -/
def placeAll (name : List Char) (basic : Nat) : List Nat → Nat → Encoder → Encoder
  | [], _, state => state
  | code :: codes, next, state =>
    let skipped := { state with delta := state.delta + (code - next) * (state.placed + 1) }
    let passed := name.foldl (Encoder.pass code basic) skipped
    placeAll name basic codes (code + 1) { passed with delta := passed.delta + 1 }

def encode (name : List Char) : List Char :=
  let basic := name.filter fun char => char.toNat < 0x80
  let codes := ((name.filter fun char => char.toNat ≥ 0x80).map Char.toNat).eraseDups.mergeSort
  let start := if basic.isEmpty then [] else basic ++ ['-']
  (placeAll name basic.length codes 0x80 ⟨start, 0, 72, basic.length⟩).output

def valueLimit : Nat := 0xffff_ffff

/-- Reads the digits of a number and adds it to `sum`; the rest of the text comes with it. -/
def decodeNumber? (bias : Nat) : Nat → Nat → Nat → List Char → Option (Nat × List Char)
  | _, _, _, [] => none
  | place, weight, sum, char :: rest => do
    let digit ← digitValue? char
    let total := sum + digit * weight
    if valueLimit < total || valueLimit < weight then none
    else if digit < threshold place bias then some (total, rest)
    else decodeNumber? bias (place + 36) (weight * (36 - threshold place bias)) total rest

private theorem decodeNumber?_length {bias place weight sum : Nat} {input : List Char} {result : Nat × List Char}
    (read : decodeNumber? bias place weight sum input = some result) :
    result.2.length < input.length := by
  induction input generalizing place weight sum with
  | nil => cases read
  | cons char rest hypothesis =>
    simp only [decodeNumber?, Option.bind_eq_bind, Option.bind_eq_some_iff] at read
    obtain ⟨digit, _, read⟩ := read
    split at read
    · cases read
    split at read
    · cases read; simp
    · have := hypothesis read
      simp only [List.length_cons]; omega

def decodeRest? (output : List Char) (code index bias : Nat) (input : List Char) : Option (List Char) :=
  match input with
  | [] => some output
  | first :: more =>
    match _shape : decodeNumber? bias 36 1 index (first :: more) with
    | none => none
    | some (total, rest) =>
      let count := output.length + 1
      let next := code + total / count
      let position := total % count
      if next.isValidChar then
        decodeRest? (output.take position ++ Char.ofNat next :: output.drop position) next (position + 1)
          (adapt (total - index) count (index = 0)) rest
      else none
termination_by input.length
decreasing_by exact decodeNumber?_length _shape

/-- The name that a text stands for, if it is the code of one. A hyphen has a character before it. -/
def decode? (text : List Char) : Option (List Char) :=
  let tail := (text.reverse.takeWhile (· ≠ '-')).reverse
  if tail.length = text.length then decodeRest? [] 0x80 0 72 text
  else if tail.length + 1 = text.length then none
  else decodeRest? (text.take (text.length - tail.length - 1)) 0x80 0 72 tail

end BracketDecoration.Uri.Punycode
