import BracketDecoration.Glob.Pattern

/-!
Reading a path pattern. Main definition: `Glob.parse`.

A pattern is read from left to right. An open group of alternatives is a frame that holds the parts before
the group and the branches that are complete.
-/

namespace BracketDecoration.Glob

structure Frame where
  before : List Part
  branches : List (List Part)

/-- What has been read. The parts of the branch that is being read are held last part first. -/
structure Progress where
  frames : List Frame
  current : List Part

namespace Progress

def initial : Progress := ⟨[], []⟩

def push (progress : Progress) (part : Part) : Progress :=
  { progress with current := part :: progress.current }

def inGroup (progress : Progress) : Bool :=
  !progress.frames.isEmpty

def openGroup (progress : Progress) : Progress :=
  ⟨⟨progress.current, []⟩ :: progress.frames, []⟩

/-- Outside a group a comma is a literal. -/
def nextBranch (progress : Progress) : Progress :=
  match progress.frames with
  | [] => progress.push (.literal ',')
  | frame :: outer =>
    ⟨{ frame with branches := frame.branches ++ [progress.current.reverse] } :: outer, []⟩

def closeGroup? (progress : Progress) : Option Progress :=
  match progress.frames with
  | [] => none
  | frame :: outer =>
    some ⟨outer, .alternatives (frame.branches ++ [progress.current.reverse]) :: frame.before⟩

def pushTwoStars (progress : Progress) : Progress :=
  (progress.push .anyBytes).push .anyBytes

/-- Puts a recursive part in the place of the separator before it. After another recursive part, which has
taken its separator along, it adds nothing. -/
def pushRecursive (progress : Progress) (part : Part) : Progress :=
  match progress.current with
  | .recursiveStart :: _ | .recursiveEnd :: _ => progress
  | _ :: rest => { progress with current := part :: rest }
  | [] => progress.push part

end Progress

def opensRecursion (inGroup : Bool) : Option Char → Bool
  | some '/' => true
  | some ',' | some '{' => inGroup
  | _ => false

/-- The meaning of two stars in a row. The separator behind them belongs to a recursive part and is left
out of what remains to be read; the character before what remains is returned with it. -/
def readTwoStars (progress : Progress) (before : Option Char) (rest : List Char) :
    Progress × Option Char × List Char :=
  if progress.current.isEmpty then
    match rest with
    | [] => (progress.push .recursiveStart, some '*', [])
    | '/' :: after => (progress.push .recursiveStart, some '/', after)
    | _ => (progress.pushTwoStars, some '*', rest)
  else if !opensRecursion progress.inGroup before then (progress.pushTwoStars, some '*', rest)
  else
    match rest with
    | [] => (progress.pushRecursive .recursiveEnd, some '*', [])
    | '/' :: after => (progress.pushRecursive .recursiveMiddle, some '/', after)
    | next :: _ =>
      if progress.inGroup && (next = ',' || next = '}') then
        (progress.pushRecursive .recursiveEnd, some '*', rest)
      else (progress.pushTwoStars, some '*', rest)

private theorem readTwoStars_length (progress : Progress) (before : Option Char) (rest : List Char) :
    (readTwoStars progress before rest).2.2.length ≤ rest.length := by
  unfold readTwoStars
  repeat' split
  all_goals simp

structure ClassProgress where
  ranges : List (Char × Char)
  inRange : Bool

namespace ClassProgress

/-- Takes in one member: the end of the last range if a dash is before it, else a range of its own. -/
def add (progress : ClassProgress) (member : Char) : Except Fault ClassProgress :=
  match progress.inRange, progress.ranges with
  | true, (first, _) :: rest =>
    if member < first then .error (.invalidRange first member)
    else .ok ⟨(first, member) :: rest, false⟩
  | _, ranges => .ok ⟨(member, member) :: ranges, false⟩

def finish (progress : ClassProgress) : List (Char × Char) :=
  (if progress.inRange then ('-', '-') :: progress.ranges else progress.ranges).reverse

end ClassProgress

def readMembers (progress : ClassProgress) : List Char → Except Fault (List (Char × Char) × List Char)
  | [] => .error .unclosedClass
  | ']' :: rest => .ok (progress.finish, rest)
  | '-' :: rest =>
    if progress.inRange then
      match progress.add '-' with
      | .ok next => readMembers next rest
      | .error fault => .error fault
    else readMembers { progress with inRange := true } rest
  | member :: rest =>
    match progress.add member with
    | .ok next => readMembers next rest
    | .error fault => .error fault

private theorem readMembers_length {progress : ClassProgress} {input : List Char}
    {result : List (Char × Char) × List Char} (read : readMembers progress input = .ok result) :
    result.2.length ≤ input.length := by
  fun_induction readMembers progress input with
  | case1 => cases read
  | case2 => cases read; simp
  | case3 _ _ _ _ _ hypothesis => have := hypothesis read; simp only [List.length_cons]; omega
  | case4 => cases read
  | case5 _ _ _ hypothesis => have := hypothesis read; simp only [List.length_cons]; omega
  | case6 _ _ _ _ _ _ _ hypothesis => have := hypothesis read; simp only [List.length_cons]; omega
  | case7 => cases read

/-- Reads the members of a class of which the first, whatever it is, is a member. -/
def readClassBody : List Char → Except Fault (List (Char × Char) × List Char)
  | [] => .error .unclosedClass
  | first :: rest => readMembers ⟨[(first, first)], false⟩ rest

private theorem readClassBody_length {input : List Char} {result : List (Char × Char) × List Char}
    (read : readClassBody input = .ok result) : result.2.length ≤ input.length := by
  cases input with
  | nil => cases read
  | cons first rest =>
    have := readMembers_length (read : readMembers _ rest = .ok result)
    simp only [List.length_cons]; omega

def readClass : List Char → Except Fault (Part × List Char)
  | '!' :: rest | '^' :: rest => (readClassBody rest).map fun (ranges, after) => (.oneOf true ranges, after)
  | input => (readClassBody input).map fun (ranges, after) => (.oneOf false ranges, after)

private theorem readClass_length {input : List Char} {result : Part × List Char}
    (read : readClass input = .ok result) : result.2.length ≤ input.length := by
  have ofMap : ∀ {negated : Bool} {inner : List Char},
      ((readClassBody inner).map fun (ranges, after) => (Part.oneOf negated ranges, after)) = .ok result →
        result.2.length ≤ inner.length := by
    intro negated inner mapped
    cases found : readClassBody inner with
    | error fault => rw [found] at mapped; cases mapped
    | ok body =>
      rw [found] at mapped
      cases mapped
      exact readClassBody_length found
  unfold readClass at read
  split at read
  · have := ofMap read; simp only [List.length_cons]; omega
  · have := ofMap read; simp only [List.length_cons]; omega
  · exact ofMap read

def readParts (progress : Progress) (before : Option Char) (input : List Char) : Except Fault Progress :=
  match input with
  | [] => .ok progress
  | '?' :: rest => readParts (progress.push .anyByte) (some '?') rest
  | '*' :: '*' :: rest =>
    match _shape : readTwoStars progress before rest with
    | (next, last, after) => readParts next last after
  | '*' :: rest => readParts (progress.push .anyBytes) (some '*') rest
  | '[' :: rest =>
    match _shape : readClass rest with
    | .ok (part, after) => readParts (progress.push part) (some ']') after
    | .error fault => .error fault
  | '{' :: rest => readParts progress.openGroup (some '{') rest
  | '}' :: rest =>
    match progress.closeGroup? with
    | some next => readParts next (some '}') rest
    | none => .error .unopenedAlternatives
  | ',' :: rest => readParts progress.nextBranch (some ',') rest
  | '\\' :: char :: rest => readParts (progress.push (.literal char)) (some char) rest
  | '\\' :: [] => .error .danglingEscape
  | char :: rest => readParts (progress.push (.literal char)) (some char) rest
termination_by input.length
decreasing_by
  · simp only [List.length_cons]; omega
  · have := readTwoStars_length progress before rest
    rw [_shape] at this
    simp only [List.length_cons] at *; omega
  · simp only [List.length_cons]; omega
  · have := readClass_length _shape
    simp only [List.length_cons] at *; omega
  all_goals simp only [List.length_cons]; omega

def parse (source : String) : Except Error Pattern :=
  match readParts .initial none source.toList with
  | .ok progress =>
    if progress.inGroup then .error ⟨source, .unclosedAlternatives⟩
    else .ok ⟨source, progress.current.reverse⟩
  | .error fault => .error ⟨source, fault⟩

end BracketDecoration.Glob
