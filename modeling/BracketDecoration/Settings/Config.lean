import BracketDecoration.Glob.Matching
import BracketDecoration.Glob.Parser
import BracketDecoration.Settings.Error
import BracketDecoration.Settings.Layer

namespace BracketDecoration.Settings

structure ScopeBlock where
  pattern : Glob.Pattern
  layer : Layer
deriving Repr

namespace ScopeBlock

def make (source : String) (layer : Layer) : Except Error ScopeBlock :=
  match Glob.parse source with
  | .ok pattern => .ok ⟨pattern, layer⟩
  | .error cause => .error (.badScope source cause)

def covers (block : ScopeBlock) (path : List UInt8) : Bool :=
  block.pattern.accepts path

end ScopeBlock

structure LanguageBlock where
  grammar : String
  layer : Layer
deriving DecidableEq, Repr

structure Config where
  global : Layer := .empty
  scopes : List ScopeBlock := []
  languages : List LanguageBlock := []
deriving Repr

namespace Config

def empty : Config := {}

/-- The layers of `upper` come after those of `lower`, and so override them. -/
def merge (lower upper : Config) : Config where
  global := lower.global.overlay upper.global
  scopes := lower.scopes ++ upper.scopes
  languages := lower.languages ++ upper.languages

def addFound (found : Option Layer) (block : LanguageBlock) : Option Layer :=
  some ((found.getD .empty).overlay block.layer)

def language? (config : Config) (grammar : String) : Option Layer :=
  (config.languages.filter fun block => block.grammar = grammar).foldl addFound none

/-- The layers for a path and a grammar as one: the global layer, over it the scopes that cover the path,
and on top the blocks for the grammar. -/
def effective (config : Config) (grammar : String) (path : List UInt8) : Layer :=
  let beneath := (config.scopes.filter fun block => block.covers path).foldl
    (fun layer block => layer.overlay block.layer) config.global
  match config.language? grammar with
  | some layer => beneath.overlay layer
  | none => beneath

end Config

end BracketDecoration.Settings
