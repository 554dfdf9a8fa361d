namespace BracketDecoration.Settings

structure Pair where
  opening : String
  closing : String
deriving DecidableEq, Repr

structure Layer where
  colors : Option (List String) := none
  unmatchedColor : Option String := none
  colorMode : Option String := none
  forceUniqueOpeningColor : Option Bool := none
  forceIterationColorCycle : Option Bool := none
  highlightActiveScope : Option Bool := none
  timeout : Option Int := none
  pairs : Option (List Pair) := none
deriving DecidableEq, Repr

namespace Layer

def empty : Layer := {}

/-- What `upper` sets counts, and beneath it what `lower` sets. -/
def overlay (lower upper : Layer) : Layer where
  colors := upper.colors.or lower.colors
  unmatchedColor := upper.unmatchedColor.or lower.unmatchedColor
  colorMode := upper.colorMode.or lower.colorMode
  forceUniqueOpeningColor := upper.forceUniqueOpeningColor.or lower.forceUniqueOpeningColor
  forceIterationColorCycle := upper.forceIterationColorCycle.or lower.forceIterationColorCycle
  highlightActiveScope := upper.highlightActiveScope.or lower.highlightActiveScope
  timeout := upper.timeout.or lower.timeout
  pairs := upper.pairs.or lower.pairs

end Layer

end BracketDecoration.Settings
