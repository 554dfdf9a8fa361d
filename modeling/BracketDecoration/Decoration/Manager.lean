import BracketDecoration.Decoration.Registry
import BracketDecoration.Decoration.Throttle
import BracketDecoration.Grammar.Alias
import BracketDecoration.Grammar.Gate
import BracketDecoration.Settings.Config

/-!
The manager gives every document that is decorated an engine and passes the events of the editor on to it.

An engine is made at the first event of its document and kept until the document is closed or everything is
reset. If none can be made, the next event tries again. Main definitions: `Manager.resolve`, `Manager.step`
and `Manager.run`.
-/

namespace BracketDecoration.Decoration

open Editor (Change Document DocumentKey)

variable {κ : Type}

def errorHeading : String := "Pairlight settings: "

/-- The manager with all that it works on: the tokenizer behind its gate, the documents that the editor
shows, the events of its engines and the messages to the user so far. -/
structure Manager (κ : Type) where
  config : Settings.Config
  gate : Grammar.Gate κ
  core : κ
  factory : Factory
  throttle : Throttle
  registry : Registry
  drain : DrainOrder
  visible : List Document
  log : List Event
  shown : List String

namespace Manager

def initial (core : κ) (gate : Grammar.Gate κ) (throttle : Throttle) (drain : DrainOrder := .byAge) :
    Manager κ where
  config := .empty
  gate := gate
  core := core
  factory := .initial
  throttle := throttle
  registry := .empty
  drain := drain
  visible := []
  log := []
  shown := []

def record (manager : Manager κ) (event : Event) : Manager κ :=
  { manager with log := manager.log ++ [event] }

def report (manager : Manager κ) (message : String) : Manager κ :=
  let (throttle, accepted) := manager.throttle.report
  { manager with
    throttle
    shown := if accepted then manager.shown ++ [errorHeading ++ message] else manager.shown }

/-- Makes an engine for a document. Without an error there is none if the language has no grammar. -/
def build [Grammar.Tokenizer κ] (manager : Manager κ) (document : Document) :
    Manager κ × Except BuildError (Option Engine) :=
  let grammar := Grammar.idForLanguage document.language
  let demand := manager.gate.ensure manager.core grammar
  let manager := { manager with gate := demand.gate, core := demand.core }
  match demand.answer with
  | .error cause => (manager, .error (.grammar cause))
  | .ok false => (manager, .ok none)
  | .ok true =>
    match Settings.Snapshot.resolveAt manager.config grammar document.uri.documentPath with
    | .error cause => (manager, .error (.settings cause))
    | .ok settings =>
      match manager.factory.create settings with
      | (factory, .error cause) => ({ manager with factory }, .error (.engine cause))
      | (factory, .ok engine) =>
        ({ manager with factory }.record (.created engine.id document.uri.text settings.grammar),
          .ok (some engine))

/-- The engine of a document. One is made if the document has none; a failure is reported and forgotten. -/
def resolve [Grammar.Tokenizer κ] (manager : Manager κ) (document : Document) :
    Manager κ × Option Engine :=
  if !document.isValid then (manager, none)
  else
    match manager.registry.find? document.key with
    | some engine => (manager, some engine)
    | none =>
      match manager.build document with
      | (manager, .ok (some engine)) =>
        ({ manager with registry := manager.registry.insert document.key engine }, some engine)
      | (manager, .ok none) => (manager, none)
      | (manager, .error error) =>
        match error.userMessage? with
        | some message => (manager.report message, none)
        | none => (manager, none)

def deliver [Grammar.Tokenizer κ] (manager : Manager κ) (document : Document) (event : Nat → Event) :
    Manager κ :=
  match manager.resolve document with
  | (manager, some engine) => manager.record (event engine.id)
  | (manager, none) => manager

def update [Grammar.Tokenizer κ] (manager : Manager κ) (document : Document) : Manager κ :=
  manager.deliver document .updated

def change [Grammar.Tokenizer κ] (manager : Manager κ) (document : Document) (changes : List Change) :
    Manager κ :=
  manager.deliver document fun engine => .changed engine changes

/-- Disposes the engine of a key. The answer tells whether there was one. -/
def dispose (manager : Manager κ) (key : DocumentKey) : Manager κ × Bool :=
  match manager.registry.find? key with
  | some engine =>
    ({ manager with registry := manager.registry.erase key }.record (.disposed engine.id), true)
  | none => (manager, false)

def updateAll [Grammar.Tokenizer κ] (manager : Manager κ) : Manager κ :=
  manager.visible.foldl update manager

def drained (manager : Manager κ) : List Entry := manager.drain.arrange manager.registry.entries

def disposeAll (manager : Manager κ) : Manager κ :=
  { manager with
    registry := .empty
    log := manager.log ++ manager.drained.map fun entry => .disposed entry.engine.id }

def reset [Grammar.Tokenizer κ] (manager : Manager κ) : Manager κ :=
  manager.disposeAll.updateAll

/-- Changes the configuration for engines that are yet to be made. -/
def withConfig (manager : Manager κ) (config : Settings.Config) : Manager κ :=
  { manager with config }

def setConfig [Grammar.Tokenizer κ] (manager : Manager κ) (config : Settings.Config) : Manager κ :=
  (manager.withConfig config).reset

def engine? (manager : Manager κ) (uri : Uri) : Option Engine :=
  manager.registry.find? (.ofUri uri)

def documentCount (manager : Manager κ) : Nat := manager.registry.size

def load (manager : Manager κ) (loader : Grammar.Loader κ) : Manager κ × Except Grammar.Error Unit :=
  let (core, answer) := loader manager.core
  ({ manager with core }, answer)

def register [Grammar.Tokenizer κ] (manager : Manager κ) (definition : Grammar.Definition) :
    Manager κ × Except Grammar.Error Unit :=
  manager.load fun core => Grammar.Tokenizer.register core definition

def failNext (manager : Manager κ) (error : EngineError) : Manager κ :=
  { manager with factory := manager.factory.failNext error }

def setVisible (manager : Manager κ) (documents : List Document) : Manager κ :=
  { manager with visible := documents }

def fire (manager : Manager κ) : Manager κ × Nat :=
  let (throttle, count) := manager.throttle.fire
  ({ manager with throttle }, count)

def advance (manager : Manager κ) (span : Milliseconds) : Manager κ :=
  { manager with throttle := manager.throttle.advance span }

def summary (manager : Manager κ) : String :=
  "DocumentDecorationManager \x7b documents: " ++ toString manager.documentCount ++ ", grammars: " ++
    manager.gate.summary ++ ", throttle: " ++ manager.throttle.summary ++ " \x7d"

/-- What can happen to a manager: events of the editor, changes of settings, and what goes on around it. -/
inductive Operation where
  | openDocument (document : Document)
  | updateDocument (document : Document)
  | changeDocument (document : Document) (changes : List Change)
  | closeDocument (document : Document)
  | resolve (document : Document)
  | dispose (key : DocumentKey)
  | updateAll
  | reset
  | setConfig (config : Settings.Config)
  | withConfig (config : Settings.Config)
  | setVisible (documents : List Document)
  | failNext (error : EngineError)
  | register (definition : Grammar.Definition)
  | fire
  | advance (span : Milliseconds)

def step [Grammar.Tokenizer κ] (manager : Manager κ) : Operation → Manager κ
  | .openDocument document => manager.update document
  | .updateDocument document => manager.update document
  | .changeDocument document changes => manager.change document changes
  | .closeDocument document => (manager.dispose document.key).1
  | .resolve document => (manager.resolve document).1
  | .dispose key => (manager.dispose key).1
  | .updateAll => manager.updateAll
  | .reset => manager.reset
  | .setConfig config => manager.setConfig config
  | .withConfig config => manager.withConfig config
  | .setVisible documents => manager.setVisible documents
  | .failNext error => manager.failNext error
  | .register definition => (manager.register definition).1
  | .fire => manager.fire.1
  | .advance span => manager.advance span

def run [Grammar.Tokenizer κ] (manager : Manager κ) (operations : List Operation) : Manager κ :=
  operations.foldl step manager

end Manager

end BracketDecoration.Decoration
