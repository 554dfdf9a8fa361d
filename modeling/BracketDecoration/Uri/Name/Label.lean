import BracketDecoration.Uri.Name.Composition
import BracketDecoration.Uri.Name.Direction
import BracketDecoration.Uri.Name.Joining
import BracketDecoration.Uri.Name.MappingTable
import BracketDecoration.Uri.Punycode

/-!
Domain names in letters beyond ASCII. Main definition: `asciiName?`.

A name is mapped to small letters of one spelling and composed. Each of its labels that then holds characters
beyond ASCII is written in a code of letters, digits and hyphens behind a mark.
-/

namespace BracketDecoration.Uri

def isAscii (text : List Char) : Bool :=
  text.all fun char => char.toNat < 0x80

def mapChar? (char : Char) : Option (List Char) :=
  if char.toNat < 0x80 then some [char.toLower] else nameChanges.change? char

def mapName? (name : List Char) : Option (List Char) := do
  let mapped ← name.mapM mapChar?
  return if isAscii mapped.flatten then mapped.flatten else composed mapped.flatten

def codeMark : List Char := ['x', 'n', '-', '-']

def codeLimit : Nat := 2000

def labelLimit : Nat := 1000

/-- The label that a code stands for. It has to be one that would be written in this code: with a character beyond
ASCII, and in the spelling of names. -/
def labelOfCode? (code : List Char) : Option (List Char) := do
  if codeLimit < code.length || code.getLast? = some '-' || !isAscii code then none
  let label ← Punycode.decode? code
  if isAscii label || mapName? label ≠ some label then none else some label

def readLabel? (label : List Char) : Option (List Char) :=
  if codeMark.isPrefixOf label then labelOfCode? (label.drop codeMark.length) else some label

def isWellPlaced (label : List Char) : Bool :=
  isAscii label || (!(label.head?.any fun char => markCodes.contains char) && allMayStand [] label)

def writeLabel? (label : List Char) : Option (List Char) :=
  if isAscii label then some label
  else if labelLimit < label.length then none
  else some (codeMark ++ Punycode.encode label)

def asciiName? (name : List Char) : Option (List Char) := do
  let labels := Text.splitAt '.' (← mapName? name)
  let read ← labels.mapM readLabel?
  if read.all isWellPlaced && haveDirections read then
    return ['.'].intercalate (← labels.mapM writeLabel?)
  else none

end BracketDecoration.Uri
