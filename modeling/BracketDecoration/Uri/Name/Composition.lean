import BracketDecoration.Uri.Name.CompositionTable

/-!
The composed form of domain names: a letter and the marks behind it become one character wherever there is one.
Main definition: `composed`.

A text is taken apart, its marks are put in order of their classes, and it is put together again. So two
spellings of the same name have one composed form.
-/

namespace BracketDecoration.Uri

namespace Hangul

/-- The first syllable. Behind it the syllables are in order of their leading consonant, vowel and trailing
consonant, of which there are nineteen, twenty-one and twenty-seven. -/
def firstSyllable : Nat := 0xAC00

def firstLeading : Nat := 0x1100

def firstVowel : Nat := 0x1161

def beforeTrailing : Nat := 0x11A7

def index? (char : Char) : Option Nat :=
  if 0xAC00 ≤ char.toNat ∧ char.toNat ≤ 0xD7A3 then some (char.toNat - firstSyllable) else none

def letters (index : Nat) : List Char :=
  let syllable := [Char.ofNat (firstLeading + index / 588), Char.ofNat (firstVowel + index % 588 / 28)]
  if index % 28 = 0 then syllable else syllable ++ [Char.ofNat (beforeTrailing + index % 28)]

def compose? (first second : Char) : Option Char :=
  if 0x1100 ≤ first.toNat ∧ first.toNat ≤ 0x1112 ∧ 0x1161 ≤ second.toNat ∧ second.toNat ≤ 0x1175 then
    some (Char.ofNat (firstSyllable + (first.toNat - firstLeading) * 588 + (second.toNat - firstVowel) * 28))
  else if 0x11A8 ≤ second.toNat ∧ second.toNat ≤ 0x11C2 then
    match index? first with
    | some index =>
      if index % 28 = 0 then some (Char.ofNat (first.toNat + (second.toNat - beforeTrailing))) else none
    | none => none
  else none

end Hangul

def combiningClass (char : Char) : Nat :=
  (combiningClasses.value? char).getD 0

/-- The characters that a character is composed of in the end. A composed character holds at most `depth`
others one in the other. -/
def decompose : Nat → Char → List Char
  | 0, char => [char]
  | depth + 1, char =>
    match Hangul.index? char with
    | some index => Hangul.letters index
    | none =>
      match composedPairs.change? char with
      | some (first :: marks) => decompose depth first ++ marks
      | _ => [char]

def insertMark (char : Char) : List Char → List Char
  | [] => [char]
  | next :: rest =>
    if 0 < combiningClass next ∧ combiningClass next < combiningClass char then next :: insertMark char rest
    else char :: next :: rest

/-- The text with the marks behind each letter in ascending order of their classes; marks of one class keep their
order. -/
def orderMarks (text : List Char) : List Char :=
  text.foldr insertMark []

def compositions : List (Char × List Char) :=
  composedPairs.flatMap fun run =>
    (List.range' run.first (run.last + 1 - run.first)).map fun code =>
      (Char.ofNat code, (run.value.codes run.first code).map Char.ofNat)

def compose? (first second : Char) : Option Char :=
  match Hangul.compose? first second with
  | some syllable => some syllable
  | none => (compositions.find? fun entry => entry.2 = [first, second]).map Prod.fst

/-- Whether a mark is kept from the letter by the marks between them, of which the last is first in the list. -/
def isBlocked (marks : List Char) (char : Char) : Bool :=
  match marks with
  | [] => false
  | last :: _ => combiningClass char ≤ combiningClass last

/-- Puts together a letter, the marks behind it that have been passed over, last first, and the rest. -/
def composeFrom (letter : Char) (marks : List Char) : List Char → List Char
  | [] => letter :: marks.reverse
  | char :: rest =>
    match if isBlocked marks char then none else compose? letter char with
    | some whole => composeFrom whole marks rest
    | none =>
      if combiningClass char = 0 then letter :: (marks.reverse ++ composeFrom char [] rest)
      else composeFrom letter (char :: marks) rest

def composed (text : List Char) : List Char :=
  match orderMarks (text.flatMap (decompose 4)) with
  | [] => []
  | first :: rest => composeFrom first [] rest

end BracketDecoration.Uri
