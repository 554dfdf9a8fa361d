import BracketDecoration.Uri.Percent

namespace BracketDecoration.Uri

/-- Tabs and line breaks count nowhere in an address. -/
def isIgnored (char : Char) : Bool :=
  char = '\t' || char = '\n' || char = '\r'

def counted (text : List Char) : List Char :=
  text.filter fun char => !isIgnored char

def dropCounted : Nat → List Char → List Char
  | 0, text => text
  | _, [] => []
  | count + 1, char :: rest => dropCounted (if isIgnored char then count + 1 else count) rest

def isHere (segment : List Char) : Bool :=
  segment.map Char.toLower ∈ [['.'], ['%', '2', 'e']]

def isAbove (segment : List Char) : Bool :=
  segment.map Char.toLower ∈
    [['.', '.'], ['.', '%', '2', 'e'], ['%', '2', 'e', '.'], ['%', '2', 'e', '%', '2', 'e']]

def isDrive : List Char → Bool
  | [letter, mark] => letter.isAlpha && (mark = ':' || mark = '|')
  | _ => false

/-- A segment that is not left: a drive, which a backslash may follow. -/
def beginsWithDrive (segment : List Char) : Bool :=
  isDrive (segment.take 2) &&
    match segment.drop 2 with
    | [] => true
    | next :: _ => next = '\\'

def segments (backslash : Bool) : List Char → List (List Char)
  | [] => [[]]
  | char :: rest =>
    if char = '/' || (backslash && char = '\\') then [] :: segments backslash rest
    else match segments backslash rest with
      | [] => [[char]]
      | segment :: others => (char :: segment) :: others

/-- A place in a tree: the written segments that lead to it, last first, and whether the first of them was the
drive of a file. -/
structure Place where
  trail : List (List Char)
  onDrive : Bool
deriving DecidableEq, Repr

namespace Place

def root : Place := ⟨[], false⟩

def enter (place : Place) (segment : List Char) : Place :=
  { place with trail := encode .path (counted segment) :: place.trail }

def leave (place : Place) : Place :=
  match place.trail with
  | nearest :: above => if beginsWithDrive nearest then place else { place with trail := above }
  | [] => place

/-- The drive and the name behind it that a segment holds with a tab or a line break between them. -/
def splitDrive? (segment : List Char) : Option (List Char × List Char) :=
  let drive := (counted segment).take 2
  let rest := dropCounted 2 segment
  if isDrive drive && drive.getLast? = some ':' && rest.head?.any isIgnored && !(counted rest).isEmpty then
    some (drive, counted rest)
  else none

/-- The place of files below that a segment names. At the root a drive is written with a colon. -/
def enterFile (place : Place) (segment : List Char) : Place :=
  if place.trail.isEmpty then
    match splitDrive? segment with
    | some (drive, name) => { place with trail := [encode .path name, drive] }
    | none =>
      if isDrive (counted segment) then ⟨[(counted segment).take 1 ++ [':']], true⟩ else place.enter segment
  else place.enter segment

def step (enter : Place → List Char → Place) (place : Place) (segment : List Char) : Place :=
  if isAbove (counted segment) then place.leave
  else if isHere (counted segment) then place
  else enter place segment

/-- The place that segments lead to from the root. Behind a last segment of dots an empty one follows. -/
def follow (enter : Place → List Char → Place) (segments : List (List Char)) : Place :=
  let place := segments.foldl (step enter) root
  match segments.getLast? with
  | some last => if isAbove (counted last) || isHere (counted last) then place.enter [] else place
  | none => place

def text (place : Place) : List Char :=
  '/' :: ['/'].intercalate place.trail.reverse

def fileText (place : Place) : List Char :=
  '/' :: place.text.dropWhile (· = '/')

end Place

def dropSlash (backslash : Bool) (text : List Char) : List Char :=
  match counted text with
  | first :: _ => if first = '/' || (backslash && first = '\\') then dropCounted 1 text else text
  | [] => text

def pathText (backslash : Bool) (text : List Char) : List Char :=
  (Place.follow Place.enter (segments backslash text)).text

end BracketDecoration.Uri
