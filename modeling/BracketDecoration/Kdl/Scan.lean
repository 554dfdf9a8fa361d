import BracketDecoration.Kdl.Character

/-!
Reading from the front of a text. What a scanner returns holds the proof that the rest is shorter, which
is why every loop over scanners ends. Here are the scanners for what separates the words of a document:
spaces, line breaks and comments.
-/

namespace BracketDecoration.Kdl

structure Scan (α : Type) (input : List Char) where
  value : α
  rest : List Char
  shorter : rest.length < input.length

/-- What is left of `input` after a possibly empty part of it. -/
abbrev Remainder (input : List Char) : Type :=
  { rest : List Char // rest.length ≤ input.length }

def Remainder.whole (input : List Char) : Remainder input := ⟨input, Nat.le_refl input.length⟩

def Remainder.within {input inner : List Char} (remainder : Remainder inner)
    (bound : inner.length ≤ input.length) : Remainder input :=
  ⟨remainder.val, Nat.le_trans remainder.property bound⟩

namespace Scan

variable {α β : Type} {input inner : List Char}

def ofFirst (value : α) (first : Char) (rest : List Char) : Scan α (first :: rest) :=
  ⟨value, rest, Nat.lt_succ_self rest.length⟩

def map (change : α → β) (scan : Scan α input) : Scan β input :=
  ⟨change scan.value, scan.rest, scan.shorter⟩

def within (scan : Scan α inner) (bound : inner.length ≤ input.length) : Scan α input :=
  ⟨scan.value, scan.rest, Nat.lt_of_lt_of_le scan.shorter bound⟩

def skipTo (scan : Scan α input) (remainder : Remainder scan.rest) : Scan α input :=
  ⟨scan.value, remainder.val, Nat.lt_of_le_of_lt remainder.property scan.shorter⟩

def remainder (scan : Scan α input) : Remainder input :=
  ⟨scan.rest, Nat.le_of_lt scan.shorter⟩

end Scan

/-- Applies a scanner as often as it succeeds and keeps only what is left. -/
def skipMany {α : Type} (scan : (input : List Char) → Option (Scan α input)) (input : List Char) :
    Remainder input :=
  match scan input with
  | none => .whole input
  | some ⟨_, rest, shorter⟩ => (skipMany scan rest).within (Nat.le_of_lt shorter)
termination_by input.length

theorem length_dropWhile_le {α : Type} (test : α → Bool) (items : List α) :
    (items.dropWhile test).length ≤ items.length :=
  (List.dropWhile_sublist test).length_le

theorem length_of_dropWhile {α : Type} {test : α → Bool} {items rest : List α} {first : α}
    (left : items.dropWhile test = first :: rest) : rest.length < items.length := by
  have bound := length_dropWhile_le test items
  rw [left] at bound
  exact bound

def scanNewline : (input : List Char) → Option (Scan Unit input)
  | '\r' :: '\n' :: rest => some ⟨(), rest, by simp only [List.length_cons]; omega⟩
  | char :: rest => if isNewline char then some (.ofFirst () char rest) else none
  | [] => none

/-- The text after a block comment that is `depth` levels deeper than its first level; comments nest. -/
def closeComment? : Nat → List Char → Option (List Char)
  | 0, '*' :: '/' :: rest => some rest
  | depth + 1, '*' :: '/' :: rest => closeComment? depth rest
  | depth, '/' :: '*' :: rest => closeComment? (depth + 1) rest
  | depth, _ :: rest => closeComment? depth rest
  | _, [] => none

private theorem closeComment?_length {depth : Nat} {input rest : List Char}
    (closed : closeComment? depth input = some rest) : rest.length < input.length := by
  fun_induction closeComment? depth input with
  | case1 rest' => cases closed; simp only [List.length_cons]; omega
  | case2 _ _ hypothesis => have := hypothesis closed; simp only [List.length_cons]; omega
  | case3 _ _ hypothesis => have := hypothesis closed; simp only [List.length_cons]; omega
  | case4 _ _ _ _ _ _ hypothesis => have := hypothesis closed; simp only [List.length_cons]; omega
  | case5 => cases closed

def scanSpace : (input : List Char) → Option (Scan Unit input)
  | '/' :: '*' :: inner =>
    match closed : closeComment? 0 inner with
    | some rest =>
      some ⟨(), rest, by have := closeComment?_length closed; simp only [List.length_cons]; omega⟩
    | none => none
  | char :: rest => if isSpace char then some (.ofFirst () char rest) else none
  | [] => none

def scanLineComment : (input : List Char) → Option (Scan Unit input)
  | '/' :: '/' :: inner =>
    let ending := inner.dropWhile fun char => !isNewline char
    have bound : ending.length ≤ inner.length := length_dropWhile_le _ _
    match scanNewline ending with
    | some ⟨_, rest, shorter⟩ => some ⟨(), rest, by simp only [List.length_cons]; omega⟩
    | none => some ⟨(), ending, by simp only [List.length_cons]; omega⟩
  | _ => none

def scanLineContinuation : (input : List Char) → Option (Scan Unit input)
  | '\\' :: inner =>
    let ⟨ending, bound⟩ := skipMany scanSpace inner
    match ending with
    | [] => some ⟨(), [], by simp⟩
    | char :: after =>
      match scanLineComment (char :: after), scanNewline (char :: after) with
      | some ⟨_, rest, shorter⟩, _ => some ⟨(), rest, by simp only [List.length_cons] at *; omega⟩
      | none, some ⟨_, rest, shorter⟩ => some ⟨(), rest, by simp only [List.length_cons] at *; omega⟩
      | none, none => none
  | _ => none

def scanNodeSpace (input : List Char) : Option (Scan Unit input) :=
  scanSpace input <|> scanLineContinuation input

def scanLineSpace (input : List Char) : Option (Scan Unit input) :=
  scanNodeSpace input <|> scanNewline input <|> scanLineComment input

def skipNodeSpace (input : List Char) : Remainder input :=
  skipMany scanNodeSpace input

def skipLineSpace (input : List Char) : Remainder input :=
  skipMany scanLineSpace input

end BracketDecoration.Kdl
