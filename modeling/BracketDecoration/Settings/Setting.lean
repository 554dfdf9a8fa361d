import BracketDecoration.Text.Similarity

namespace BracketDecoration.Settings

inductive Kind where
  | bool
  | int
  | string
  | stringList
  | pairs
deriving DecidableEq, Repr

namespace Kind

def name : Kind → String
  | .bool => "bool"
  | .int => "int"
  | .string => "string"
  | .stringList => "string list"
  | .pairs => "pair block"

end Kind

inductive Setting where
  | colors
  | unmatchedColor
  | colorMode
  | forceUniqueOpeningColor
  | forceIterationColorCycle
  | highlightActiveScope
  | timeout
  | pairs
deriving DecidableEq, Repr

namespace Setting

def all : List Setting :=
  [.colors, .unmatchedColor, .colorMode, .forceUniqueOpeningColor, .forceIterationColorCycle,
    .highlightActiveScope, .timeout, .pairs]

def key : Setting → String
  | .colors => "colors"
  | .unmatchedColor => "unmatched-color"
  | .colorMode => "color-mode"
  | .forceUniqueOpeningColor => "force-unique-opening-color"
  | .forceIterationColorCycle => "force-iteration-color-cycle"
  | .highlightActiveScope => "highlight-active-scope"
  | .timeout => "timeout"
  | .pairs => "pairs"

def kind : Setting → Kind
  | .colors => .stringList
  | .unmatchedColor | .colorMode => .string
  | .forceUniqueOpeningColor | .forceIterationColorCycle | .highlightActiveScope => .bool
  | .timeout => .int
  | .pairs => .pairs

def find? (key : String) : Option Setting :=
  all.find? fun setting => setting.key = key

/-- Replaces the candidate so far by one that is alike enough and no less alike than it. -/
def closer (key : String) (best : Option (Setting × Float)) (setting : Setting) :
    Option (Setting × Float) :=
  let score := Text.jaroWinkler key.toList setting.key.toList
  if score > 0.8 then
    match best with
    | some (_, bestScore) => if score ≥ bestScore then some (setting, score) else best
    | none => some (setting, score)
  else best

/-- The key most like the given one, if any is alike enough; of equally alike keys the last. -/
def suggest? (key : String) : Option String :=
  (all.foldl (closer key) none).map fun candidate => candidate.1.key

end Setting

end BracketDecoration.Settings
