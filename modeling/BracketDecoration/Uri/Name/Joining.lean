import BracketDecoration.Uri.Name.Composition
import BracketDecoration.Uri.Name.JoiningTable

namespace BracketDecoration.Uri

def joiner : Char := '\u200D'

def nonJoiner : Char := '\u200C'

def viramaClass : Nat := 9

/-- Whether the text, which is read away from the place between two letters, begins with a letter that joins
there. Transparent characters are passed over. -/
def joinsFirst (sides : List Joining) (text : List Char) : Bool :=
  match text.dropWhile fun char => joinings.value? char = some .transparent with
  | [] => false
  | letter :: _ =>
    match joinings.value? letter with
    | some joining => joining ∈ sides
    | none => false

/-- Whether a character may stand between `before`, last character first, and `after`, as far as joining is
concerned. -/
def mayStand (before : List Char) (char : Char) (after : List Char) : Bool :=
  if char = joiner || char = nonJoiner then
    (match before with
      | last :: _ => combiningClass last = viramaClass
      | [] => false) ||
    (char = nonJoiner && joinsFirst [.left, .dual] before && joinsFirst [.right, .dual] after)
  else true

def allMayStand (before : List Char) : List Char → Bool
  | [] => true
  | char :: rest => mayStand before char rest && allMayStand (char :: before) rest

end BracketDecoration.Uri
