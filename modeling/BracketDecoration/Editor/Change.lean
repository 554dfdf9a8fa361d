namespace BracketDecoration.Editor

structure Position where
  line : Nat
  character : Nat
deriving DecidableEq, Repr

namespace Position

def compare (left right : Position) : Ordering :=
  (Ord.compare left.line right.line).then (Ord.compare left.character right.character)

end Position

/-- The place `stop` is the first that does not belong to the range. -/
structure Range where
  start : Position
  stop : Position
deriving DecidableEq, Repr

namespace Range

def point (position : Position) : Range := ⟨position, position⟩

end Range

structure Change where
  range : Range
  offset : Nat
  length : Nat
  text : String
deriving DecidableEq, Repr

namespace Change

def insert (position : Position) (offset : Nat) (text : String) : Change :=
  ⟨.point position, offset, 0, text⟩

end Change

end BracketDecoration.Editor
