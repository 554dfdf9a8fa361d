import BracketDecoration.Editor.Change
import BracketDecoration.Editor.Document
import BracketDecoration.Grammar.Definition
import BracketDecoration.Settings.Snapshot

namespace BracketDecoration.Decoration

inductive EngineError where
  /-- Nothing that the user should hear of. -/
  | aborted
  | tokenizer (grammar reason : String)
  | other (reason : String)
deriving DecidableEq, Repr

namespace EngineError

def message : EngineError → String
  | .aborted => "engine construction aborted"
  | .tokenizer grammar reason => "tokenizer rejected grammar '" ++ grammar ++ "': " ++ reason
  | .other reason => reason

end EngineError

inductive BuildError where
  | grammar (cause : Grammar.Error)
  | settings (cause : Settings.Error)
  | engine (cause : EngineError)
deriving DecidableEq, Repr

namespace BuildError

def message : BuildError → String
  | .grammar cause => cause.message
  | .settings cause => cause.message
  | .engine cause => cause.message

def userMessage? : BuildError → Option String
  | .engine .aborted => none
  | error => some error.message

end BuildError

/-- Engines are numbered from one on in the order in which they were made. -/
structure Engine where
  id : Nat
  settings : Settings.Snapshot
deriving DecidableEq, Repr

inductive Event where
  | created (engine : Nat) (uri grammar : String)
  | updated (engine : Nat)
  | changed (engine : Nat) (changes : List Editor.Change)
  | disposed (engine : Nat)
deriving DecidableEq, Repr

namespace Event

def engine : Event → Nat
  | .created engine _ _ => engine
  | .updated engine => engine
  | .changed engine _ => engine
  | .disposed engine => engine

end Event

/-- Makes engines. A queued failure takes the place of the next engine, the last queued one first. -/
structure Factory where
  created : Nat
  failures : List EngineError
deriving DecidableEq, Repr

namespace Factory

def initial : Factory := ⟨0, []⟩

def failNext (factory : Factory) (error : EngineError) : Factory :=
  { factory with failures := error :: factory.failures }

def create (factory : Factory) (settings : Settings.Snapshot) : Factory × Except EngineError Engine :=
  match factory.failures with
  | error :: rest => ({ factory with failures := rest }, .error error)
  | [] =>
    let id := factory.created + 1
    ({ factory with created := id }, .ok ⟨id, settings⟩)

end Factory

end BracketDecoration.Decoration
