import BracketDecoration.Uri.Name.DirectionTable

/-!
Labels of names that hold letters written from right to left. Such labels may not mix directions in ways that
would change the order in which the parts of a name are shown.
-/

namespace BracketDecoration.Uri

def direction (char : Char) : Direction :=
  (directions.value? char).getD .leftToRight

namespace Direction

def isBackward : Direction → Bool
  | .rightToLeft | .arabicLetter | .arabicNumber => true
  | _ => false

def isShared : Direction → Bool
  | .europeanNumber | .europeanSeparator | .commonSeparator | .europeanTerminator | .otherNeutral
  | .boundaryNeutral | .nonspacingMark => true
  | _ => false

def last? (label : List Direction) : Option Direction :=
  label.reverse.find? fun entry => entry ≠ .nonspacingMark

def isForwardLabel (label : List Direction) : Bool :=
  label.all (fun entry => entry = .leftToRight || entry.isShared) &&
    (last? label = some .leftToRight || last? label = some .europeanNumber)

/-- A label from right to left ends in a letter or a number, and has numbers of one kind only. -/
def isBackwardLabel (label : List Direction) : Bool :=
  label.all (fun entry => entry.isBackward || entry.isShared) &&
    (match last? label with
      | some entry => entry.isBackward || entry = .europeanNumber
      | none => false) &&
    !(label.contains .europeanNumber && label.contains .arabicNumber)

def isLabel : List Direction → Bool
  | [] => true
  | .leftToRight :: rest => isForwardLabel (.leftToRight :: rest)
  | .rightToLeft :: rest => isBackwardLabel (.rightToLeft :: rest)
  | .arabicLetter :: rest => isBackwardLabel (.arabicLetter :: rest)
  | _ => false

end Direction

def isBackwardChar (char : Char) : Bool :=
  0x80 ≤ char.toNat && (direction char).isBackward

/-- Whether the labels of a name may stand together: all of them obey the rules if one holds a character that is
written from right to left. -/
def haveDirections (labels : List (List Char)) : Bool :=
  !(labels.any fun label => label.any isBackwardChar) ||
    labels.all fun label => Direction.isLabel (label.map direction)

end BracketDecoration.Uri
