import BracketDecoration.Settings.Config
import BracketDecoration.Text.Bytes
import BracketDecoration.Text.Lowercase

namespace BracketDecoration.Settings

/-- Whether all kinds of brackets share one cycle of colors or each has its own. -/
inductive ColorMode where
  | consecutive
  | independent
deriving DecidableEq, Repr

namespace ColorMode

def name : ColorMode → String
  | .consecutive => "consecutive"
  | .independent => "independent"

def ofName (written : String) : Except Error ColorMode :=
  let lowered := Text.lowercase written
  if lowered = "consecutive" then .ok .consecutive
  else if lowered = "independent" then .ok .independent
  else .error (.badColorMode lowered)

end ColorMode

structure Snapshot where
  grammar : String
  colors : List String
  unmatchedColor : String
  colorMode : ColorMode
  forceUniqueOpeningColor : Bool
  forceIterationColorCycle : Bool
  highlightActiveScope : Bool
  timeout : Nat
  pairs : List Pair
deriving DecidableEq, Repr

def defaultColors : List String := ["Gold", "Orchid", "LightSkyBlue"]

def defaultUnmatchedColor : String := "Red"

def defaultTimeout : Int := 200

def defaultPairs : List Pair := [⟨"(", ")"⟩, ⟨"[", "]"⟩, ⟨"\x7b", "\x7d"⟩]

def isHexDigit (char : Char) : Bool :=
  char.isDigit || ('a' ≤ char && char ≤ 'f') || ('A' ≤ char && char ≤ 'F')

/-- A color is a name of letters, or a number sign and three, six or eight hexadecimal digits. -/
def isColor (color : String) : Bool :=
  match color.toList with
  | '#' :: digits =>
    let size := (Text.bytes digits).length
    (size = 3 || size = 6 || size = 8) && digits.all isHexDigit
  | name => !name.isEmpty && name.all Char.isAlpha

def checkColor (color : String) : Except Error Unit :=
  if isColor color then .ok () else .error (.badColor color)

def pairFault? (earlier : List Pair) (pair : Pair) : Option PairFault :=
  if pair.opening = "" || pair.closing = "" then some .emptyToken
  else if pair.opening = pair.closing then some .sameTokens
  else if earlier.any fun other => other.opening = pair.opening then some .openingTaken
  else none

def checkPairsAfter (earlier : List Pair) : List Pair → Except Error Unit
  | [] => .ok ()
  | pair :: rest =>
    match pairFault? earlier pair with
    | some fault => .error (.badPair earlier.length fault)
    | none => checkPairsAfter (earlier ++ [pair]) rest

def checkPairs (pairs : List Pair) : Except Error Unit :=
  if pairs.isEmpty then .error .noPairs else checkPairsAfter [] pairs

namespace Snapshot

def ofLayer (grammar : String) (layer : Layer) : Except Error Snapshot := do
  let colors := layer.colors.getD defaultColors
  if colors.isEmpty then throw .noColors
  colors.forM checkColor
  let unmatchedColor := layer.unmatchedColor.getD defaultUnmatchedColor
  checkColor unmatchedColor
  let colorMode ← match layer.colorMode with
    | some written => ColorMode.ofName written
    | none => pure .consecutive
  let timeout := layer.timeout.getD defaultTimeout
  if timeout < 0 ∨ maxTimeout < timeout then throw (.timeoutOutOfRange timeout)
  let pairs := layer.pairs.getD defaultPairs
  checkPairs pairs
  return {
    grammar, colors, unmatchedColor, colorMode
    forceUniqueOpeningColor := layer.forceUniqueOpeningColor.getD false
    forceIterationColorCycle := layer.forceIterationColorCycle.getD false
    highlightActiveScope := layer.highlightActiveScope.getD false
    timeout := timeout.toNat
    pairs }

def resolveAt (config : Config) (grammar : String) (path : List UInt8) : Except Error Snapshot :=
  ofLayer grammar (config.effective grammar path)

end Snapshot

end BracketDecoration.Settings
