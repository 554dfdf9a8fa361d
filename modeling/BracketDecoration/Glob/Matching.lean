import BracketDecoration.Glob.Pattern
import BracketDecoration.Text.Bytes

/-!
Which paths a pattern matches. Paths are bytes and a pattern has to match the whole of one.

A set of positions in the path is held as one flag for each position, the end included, and every part of
a pattern moves the set: from the positions where the part may begin to those where it may end.
-/

namespace BracketDecoration.Glob

/-- A flag for each position before a byte of the path, and one for the end. -/
abbrev Positions : Type := List Bool

namespace Positions

def start (path : List UInt8) : Positions :=
  true :: path.map fun _ => false

def across (test : UInt8 → Bool) (path : List UInt8) (positions : Positions) : Positions :=
  false :: List.zipWith (fun reached byte => reached && test byte) positions path

/-- Steps over any number of bytes; `reached` tells of a position further left. -/
def onward : Bool → Positions → Positions
  | _, [] => []
  | reached, flag :: rest => (reached || flag) :: onward (reached || flag) rest

def union (left right : Positions) : Positions :=
  List.zipWith (· || ·) left right

def none (positions : Positions) : Positions :=
  positions.map fun _ => false

def reachesEnd (positions : Positions) : Bool :=
  positions.getLastD false

end Positions

/-- Whether a byte lies in a class. A member beyond ASCII adds all its bytes. A range adds all bytes of its
ends but the last byte of its first end and the first byte of its last end, between which it reaches. -/
def inRange (range : Char × Char) (byte : UInt8) : Bool :=
  let first := Text.charBytes range.1
  let last := Text.charBytes range.2
  if range.1 = range.2 then byte ∈ first
  else
    byte ∈ first.dropLast || byte ∈ last.tail ||
      match first.getLast?, last.head? with
      | some low, some high => low ≤ byte && byte ≤ high
      | _, _ => false

def inClass (negated : Bool) (ranges : List (Char × Char)) (byte : UInt8) : Bool :=
  ranges.any (inRange · byte) != negated

def separator : UInt8 := 47

mutual

/-- Whether a part stands for nothing at all: a group all of whose branches do. -/
def Part.isVoid : Part → Bool
  | .alternatives branches => allVoid branches
  | _ => false

def partsVoid : List Part → Bool
  | [] => true
  | part :: rest => part.isVoid && partsVoid rest

def allVoid : List (List Part) → Bool
  | [] => true
  | branch :: rest => partsVoid branch && allVoid rest

end

mutual

def Part.advance (path : List UInt8) : Part → Positions → Positions
  | .literal char, positions =>
    (Text.charBytes char).foldl (fun reached byte => reached.across (· = byte) path) positions
  | .anyByte, positions => positions.across (fun _ => true) path
  | .anyBytes, positions => positions.onward false
  | .recursiveStart, positions =>
    positions.union ((positions.onward false).across (· = separator) path)
  | .recursiveEnd, positions => (positions.across (· = separator) path).onward false
  | .recursiveMiddle, positions =>
    let behind := positions.across (· = separator) path
    behind.union ((behind.onward false).across (· = separator) path)
  | .oneOf negated ranges, positions => positions.across (inClass negated ranges) path
  | .alternatives branches, positions =>
    if allVoid branches then positions else advanceAny path branches positions

def advanceParts (path : List UInt8) : List Part → Positions → Positions
  | [], positions => positions
  | part :: rest, positions => advanceParts path rest (part.advance path positions)

def advanceAny (path : List UInt8) : List (List Part) → Positions → Positions
  | [], positions => positions.none
  | branch :: rest, positions =>
    if partsVoid branch then advanceAny path rest positions
    else (advanceParts path branch positions).union (advanceAny path rest positions)

end

namespace Pattern

/-- Whether the pattern matches the whole path. Two stars alone match every path. -/
def accepts (pattern : Pattern) (path : List UInt8) : Bool :=
  match pattern.parts with
  | [.recursiveStart] => true
  | parts => (advanceParts path parts (.start path)).reachesEnd

end Pattern

end BracketDecoration.Glob
