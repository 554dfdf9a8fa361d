namespace BracketDecoration.Grammar

structure Definition where
  id : String
  base : String
  embedded : List String
deriving DecidableEq, Repr

inductive Error where
  | missingBase (grammar base : String)
  | missingEmbedded (grammar embedded : String)
  | alreadyRegistered (grammar : String)
  | loadFailed (grammar reason : String)
deriving DecidableEq, Repr

namespace Error

def message : Error → String
  | .missingBase grammar base => "grammar '" ++ grammar ++ "' extends unknown grammar '" ++ base ++ "'"
  | .missingEmbedded grammar embedded =>
    "grammar '" ++ grammar ++ "' embeds unknown grammar '" ++ embedded ++ "'"
  | .alreadyRegistered grammar => "grammar already registered: " ++ grammar
  | .loadFailed grammar reason => "failed to load grammar '" ++ grammar ++ "': " ++ reason

end Error

end BracketDecoration.Grammar
