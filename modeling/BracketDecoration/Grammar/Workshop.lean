import BracketDecoration.Grammar.Gate

/-!
Several gates over one tokenizer. Each of them goes by the inventory that it saw when it was opened, while the
others and registrations from outside add to the tokenizer.
-/

namespace BracketDecoration.Grammar

variable {κ : Type}

structure Workshop (κ : Type) where
  core : κ
  gates : List (Gate κ)

namespace Workshop

def initial (core : κ) : Workshop κ := ⟨core, []⟩

def load (workshop : Workshop κ) (loader : Loader κ) : Workshop κ × Except Error Unit :=
  let (core, answer) := loader workshop.core
  ({ workshop with core }, answer)

variable [Tokenizer κ]

def addGate (workshop : Workshop κ) (loaders : List (String × Loader κ)) : Workshop κ :=
  { workshop with gates := workshop.gates ++ [.ofLoaders workshop.core loaders] }

/-- A demand at one of the gates. At a gate that is not there nothing happens. -/
def ensure (workshop : Workshop κ) (index : Nat) (id : String) : Workshop κ × Except Error Bool :=
  match workshop.gates[index]? with
  | some gate =>
    let demand := gate.ensure workshop.core id
    (⟨demand.core, workshop.gates.set index demand.gate⟩, demand.answer)
  | none => (workshop, .ok false)

def register (workshop : Workshop κ) (definition : Definition) : Workshop κ × Except Error Unit :=
  workshop.load fun core => Tokenizer.register core definition

inductive Operation (κ : Type) where
  | addGate (loaders : List (String × Loader κ))
  | ensure (index : Nat) (id : String)
  | register (definition : Definition)

def step (workshop : Workshop κ) : Operation κ → Workshop κ
  | .addGate loaders => workshop.addGate loaders
  | .ensure index id => (workshop.ensure index id).1
  | .register definition => (workshop.register definition).1

def run (workshop : Workshop κ) (operations : List (Operation κ)) : Workshop κ :=
  operations.foldl step workshop

end Workshop

end BracketDecoration.Grammar
