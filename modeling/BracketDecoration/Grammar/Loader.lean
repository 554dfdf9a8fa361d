import BracketDecoration.Grammar.Tokenizer

namespace BracketDecoration.Grammar

variable {κ : Type}

/-- A loader may change the tokenizer even if it fails. -/
abbrev Loader (κ : Type) : Type := κ → κ × Except Error Unit

namespace Loader

/-- Registers definitions in order up to the first that is turned down. -/
def registerAll [Tokenizer κ] : List Definition → Loader κ
  | [], core => (core, .ok ())
  | definition :: rest, core =>
    match Tokenizer.register core definition with
    | (next, .ok ()) => registerAll rest next
    | (next, .error error) => (next, .error error)

def scripted [Tokenizer κ] (definitions : List Definition) (ending : Except Error Unit) : Loader κ :=
  fun core =>
    match registerAll definitions core with
    | (next, .ok ()) => (next, ending)
    | (next, .error error) => (next, .error error)

def vueDefinition : Definition := ⟨"vue", "markup", ["javascript", "css"]⟩

def vue [Tokenizer κ] : Loader κ :=
  fun core => Tokenizer.register core vueDefinition

def builtin [Tokenizer κ] : List (String × Loader κ) := [("vue", vue)]

end Loader

end BracketDecoration.Grammar
