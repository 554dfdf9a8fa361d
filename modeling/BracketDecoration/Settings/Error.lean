import BracketDecoration.Glob.Pattern

namespace BracketDecoration.Settings

def maxTimeout : Int := 10000

inductive PairFault where
  | emptyToken
  | sameTokens
  | openingTaken
deriving DecidableEq, Repr

namespace PairFault

def message : PairFault → String
  | .emptyToken => "open and close tokens must not be empty"
  | .sameTokens => "open and close tokens must differ"
  | .openingTaken => "open token is already used by another pair"

end PairFault

inductive Error where
  /-- The text is no KDL document. -/
  | malformed
  /-- A node lacks the argument that it needs. -/
  | missing (field : String)
  | unknownSetting (key : String) (suggestion : Option String)
  | kindMismatch (option expected got : String)
  | badScope (pattern : String) (cause : Glob.Error)
  | badColor (color : String)
  | noColors
  /-- The mode is given in lower case. -/
  | badColorMode (mode : String)
  | badPair (index : Nat) (fault : PairFault)
  | noPairs
  | timeoutOutOfRange (milliseconds : Int)
deriving DecidableEq, Repr

namespace Error

def hint : Option String → String
  | some suggestion => " (did you mean '" ++ suggestion ++ "'?)"
  | none => ""

def message : Error → String
  | .malformed => "settings file is not valid KDL: Failed to parse KDL document"
  | .missing field => "missing " ++ field
  | .unknownSetting key suggestion => "unknown setting: " ++ key ++ hint suggestion
  | .kindMismatch option expected got => "option '" ++ option ++ "' expects " ++ expected ++ ", got " ++ got
  | .badScope pattern cause => "invalid scope pattern '" ++ pattern ++ "': " ++ cause.message
  | .badColor color => "invalid color format: " ++ color
  | .noColors => "colors must contain at least one color"
  | .badColorMode mode =>
    "invalid color mode: " ++ mode ++ " (expected 'consecutive' or 'independent')"
  | .badPair index fault => "invalid bracket pair " ++ toString index ++ ": " ++ fault.message
  | .noPairs => "pairs must contain at least one bracket pair"
  | .timeoutOutOfRange milliseconds =>
    "timeout " ++ toString milliseconds ++ "ms is out of range (0..=" ++ toString maxTimeout ++ ")"

end Error

end BracketDecoration.Settings
