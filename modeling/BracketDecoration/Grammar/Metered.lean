import BracketDecoration.Grammar.Workshop

namespace BracketDecoration.Grammar

variable {κ : Type}

structure Metered (κ : Type) where
  core : κ
  runs : List Nat

namespace Metered

def increment (metered : Metered κ) (index : Nat) : Metered κ :=
  { metered with runs := metered.runs.modify index (· + 1) }

def extend (metered : Metered κ) (count : Nat) : Metered κ :=
  { metered with runs := metered.runs ++ List.replicate count 0 }

end Metered

instance [Tokenizer κ] : Tokenizer (Metered κ) where
  grammars metered := Tokenizer.grammars metered.core
  hasGrammar metered := Tokenizer.hasGrammar metered.core
  register metered definition :=
    let (core, answer) := Tokenizer.register metered.core definition
    ({ metered with core }, answer)

def Loader.counted (index : Nat) (loader : Loader (Metered κ)) : Loader (Metered κ) :=
  fun metered => loader (metered.increment index)

/-- A loader as it is described from outside: the one for components, or definitions and the reason why the
loader fails after them, if it does. -/
inductive LoaderSource where
  | vue
  | scripted (definitions : List Definition) (failure : Option String)
deriving DecidableEq, Repr

namespace LoaderSource

def isScripted : LoaderSource → Bool
  | .scripted _ _ => true
  | .vue => false

def loader [Tokenizer κ] (source : LoaderSource) (id : String) : Loader κ :=
  match source with
  | .vue => .vue
  | .scripted definitions (some reason) => .scripted definitions (.error (.loadFailed id reason))
  | .scripted definitions none => .scripted definitions (.ok ())

/-- The loaders of a table. The scripted ones are counted, the first of them by the count `next`. -/
def countedLoaders [Tokenizer κ] :
    Nat → List (String × LoaderSource) → List (String × Loader (Metered κ))
  | _, [] => []
  | next, (id, source) :: rest =>
    if source.isScripted then
      (id, .counted next (source.loader id)) :: countedLoaders (next + 1) rest
    else (id, source.loader id) :: countedLoaders next rest

end LoaderSource

def Workshop.addMeteredGate [Tokenizer κ] (workshop : Workshop (Metered κ))
    (table : Option (List (String × LoaderSource))) : Workshop (Metered κ) :=
  match table with
  | none => workshop.addGate Loader.builtin
  | some sources =>
    let loaders := LoaderSource.countedLoaders workshop.core.runs.length sources
    let scripted := (sources.filter fun entry => entry.2.isScripted).length
    { workshop with core := workshop.core.extend scripted }.addGate loaders

end BracketDecoration.Grammar
