import BracketDecoration.Text.Bytes

/-!
Percent encoding: bytes that a part of an address may not hold are written as a percent sign and two
hexadecimal digits. A percent sign itself stays as it is.
-/

namespace BracketDecoration.Uri

def isControlByte (byte : UInt8) : Bool :=
  byte < 0x20 || byte ≥ 0x7F

inductive Component where
  | opaquePath
  | userInfo
  | path
  | query
  | specialQuery
  | fragment
deriving DecidableEq, Repr

namespace Component

def reserved : Component → List Char
  | .opaquePath => []
  | .fragment => [' ', '"', '<', '>', '`']
  | .query => [' ', '"', '#', '<', '>']
  | .specialQuery => [' ', '"', '#', '<', '>', '\'']
  | .path => [' ', '"', '<', '>', '`', '#', '?', '{', '}']
  | .userInfo =>
    [' ', '"', '<', '>', '`', '#', '?', '{', '}', '/', ':', ';', '=', '@', '[', '\\', ']', '^', '|']

end Component

def upperHexDigit (value : Nat) : Char :=
  if value < 10 then Char.ofNat ('0'.toNat + value) else Char.ofNat ('A'.toNat + (value - 10))

def encodeByte (byte : UInt8) : List Char :=
  ['%', upperHexDigit (byte.toNat / 16), upperHexDigit (byte.toNat % 16)]

def encodeChar (component : Component) (char : Char) : List Char :=
  if char ∈ component.reserved || (Text.charBytes char).any isControlByte then
    (Text.charBytes char).flatMap encodeByte
  else [char]

def encode (component : Component) (chars : List Char) : List Char :=
  chars.flatMap (encodeChar component)

def percentSign : UInt8 := 37

def hexByteValue? (byte : UInt8) : Option UInt8 :=
  if 48 ≤ byte ∧ byte ≤ 57 then some (byte - 48)
  else if 97 ≤ byte ∧ byte ≤ 102 then some (byte - 87)
  else if 65 ≤ byte ∧ byte ≤ 70 then some (byte - 55)
  else none

/-- The byte that a percent sign and two hexadecimal digits at the beginning spell. -/
def escapedByte? : List UInt8 → Option UInt8
  | mark :: high :: low :: _ =>
    match hexByteValue? high, hexByteValue? low with
    | some upper, some lower => if mark = percentSign then some (16 * upper + lower) else none
    | _, _ => none
  | _ => none

/-- Decodes what stands behind a number of bytes that have been read. -/
def decodeBehind : Nat → List UInt8 → List UInt8
  | _, [] => []
  | read + 1, _ :: rest => decodeBehind read rest
  | 0, byte :: rest =>
    match escapedByte? (byte :: rest) with
    | some spelled => spelled :: decodeBehind 2 rest
    | none => byte :: decodeBehind 0 rest

def decode (bytes : List UInt8) : List UInt8 := decodeBehind 0 bytes

end BracketDecoration.Uri
