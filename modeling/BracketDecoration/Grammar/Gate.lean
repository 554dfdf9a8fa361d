import BracketDecoration.Grammar.Loader
import BracketDecoration.Text.Quoted

/-!
The gate keeps the set of grammars that may be used. It starts as the inventory of the tokenizer and only
grows: a grammar that is asked for and has a loader is loaded on first demand.
-/

namespace BracketDecoration.Grammar

variable {κ : Type}

abbrev LoaderTable (κ : Type) : Type := List (String × Loader κ)

namespace LoaderTable

def add (table : LoaderTable κ) (entry : String × Loader κ) : LoaderTable κ :=
  (table.filter fun other => other.1 ≠ entry.1) ++ [entry]

/-- Of loaders with the same id the last counts. -/
def ofList (entries : List (String × Loader κ)) : LoaderTable κ :=
  entries.foldl add []

def find? (table : LoaderTable κ) (id : String) : Option (Loader κ) :=
  table.lookup id

end LoaderTable

/-- The available grammars are listed once each. -/
structure Gate (κ : Type) where
  available : List String
  loaders : LoaderTable κ

inductive Access (κ : Type) where
  | available
  | unsupported
  /-- The tokenizer has the grammar, though the gate did not know it. -/
  | adopted
  | loaded (loader : Loader κ)

structure Demand (κ : Type) where
  gate : Gate κ
  core : κ
  answer : Except Error Bool

def addId (ids : List String) (id : String) : List String :=
  if ids.contains id then ids else ids ++ [id]

namespace Gate

def ofLoaders [Tokenizer κ] (core : κ) (loaders : List (String × Loader κ)) : Gate κ :=
  ⟨(Tokenizer.grammars core).foldl addId [], .ofList loaders⟩

def isAvailable (gate : Gate κ) (id : String) : Bool :=
  gate.available.contains id

def isLoadable (gate : Gate κ) (id : String) : Bool :=
  (gate.loaders.find? id).isSome

def availableCount (gate : Gate κ) : Nat :=
  gate.available.length

def grant (gate : Gate κ) (id : String) : Gate κ :=
  { gate with available := addId gate.available id }

/-- A loader is run only for a grammar that neither the gate nor the tokenizer has. -/
def access [Tokenizer κ] (gate : Gate κ) (core : κ) (id : String) : Access κ :=
  if gate.isAvailable id then .available
  else
    match gate.loaders.find? id with
    | none => .unsupported
    | some loader => if Tokenizer.hasGrammar core id then .adopted else .loaded loader

/-- Meets a demand. If a loader fails the grammar stays unavailable, and the next demand runs it again. -/
def ensure [Tokenizer κ] (gate : Gate κ) (core : κ) (id : String) : Demand κ :=
  match gate.access core id with
  | .available => ⟨gate, core, .ok true⟩
  | .unsupported => ⟨gate, core, .ok false⟩
  | .adopted => ⟨gate.grant id, core, .ok true⟩
  | .loaded loader =>
    match loader core with
    | (next, .ok ()) => ⟨gate.grant id, next, .ok true⟩
    | (next, .error error) => ⟨gate, next, .error error⟩

def summary (gate : Gate κ) : String :=
  "GrammarGate \x7b available: " ++ toString gate.availableCount ++ ", loaders: [" ++
    ", ".intercalate (gate.loaders.map fun entry => Text.quoted entry.1) ++ "] \x7d"

end Gate

end BracketDecoration.Grammar
