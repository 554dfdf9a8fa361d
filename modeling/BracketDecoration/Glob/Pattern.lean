namespace BracketDecoration.Glob

/-- A part of a pattern. The three `recursive` parts stem from two stars in a row that stand alone between
separators: at the beginning, at the end and in between. -/
inductive Part where
  | literal (char : Char)
  | anyByte
  | anyBytes
  | recursiveStart
  | recursiveEnd
  | recursiveMiddle
  | oneOf (negated : Bool) (ranges : List (Char × Char))
  | alternatives (branches : List (List Part))
deriving Repr

inductive Fault where
  | unclosedClass
  | invalidRange (first last : Char)
  | unopenedAlternatives
  | unclosedAlternatives
  | danglingEscape
deriving DecidableEq, Repr

structure Error where
  pattern : String
  fault : Fault
deriving DecidableEq, Repr

namespace Fault

def message : Fault → String
  | .unclosedClass => "unclosed character class; missing ']'"
  | .invalidRange first last =>
    "invalid range; '" ++ first.toString ++ "' > '" ++ last.toString ++ "'"
  | .unopenedAlternatives =>
    "unopened alternate group; missing '\x7b' (maybe escape '\x7d' with '[\x7d]'?)"
  | .unclosedAlternatives =>
    "unclosed alternate group; missing '\x7d' (maybe escape '\x7b' with '[\x7b]'?)"
  | .danglingEscape => "dangling '\\'"

end Fault

namespace Error

def message (error : Error) : String :=
  "error parsing glob '" ++ error.pattern ++ "': " ++ error.fault.message

end Error

structure Pattern where
  source : String
  parts : List Part
deriving Repr

end BracketDecoration.Glob
