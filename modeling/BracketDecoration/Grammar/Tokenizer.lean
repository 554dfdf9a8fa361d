import BracketDecoration.Grammar.Definition

/-!
What the decoration of documents needs of a tokenizer: an inventory of grammars that can be added to. Two
tokenizers are given, a catalog that checks what is added and a plain list that does not.
-/

namespace BracketDecoration.Grammar

/-- A tokenizer as a state. Registering may change it even if the answer is an error. -/
class Tokenizer (κ : Type) where
  grammars : κ → List String
  hasGrammar : κ → String → Bool := fun core id => (grammars core).contains id
  register : κ → Definition → κ × Except Error Unit

def builtinGrammars : List String :=
  ["markup", "html", "xml", "svg", "mathml", "css", "clike", "javascript", "jsx", "typescript", "tsx",
    "json", "json5", "c", "cpp", "csharp", "java", "kotlin", "scala", "go", "rust", "python", "ruby",
    "php", "perl", "lua", "bash", "powershell", "batch", "sql", "yaml", "toml", "ini", "markdown",
    "latex", "scss", "less", "sass", "stylus", "haskell", "elm", "ocaml", "fsharp", "clojure", "lisp",
    "scheme", "racket", "erlang", "elixir", "dart", "swift", "objectivec", "r", "julia", "matlab",
    "vbnet", "pascal", "fortran", "groovy", "graphql", "docker", "nginx", "makefile", "protobuf",
    "solidity", "zig", "nim", "crystal", "d", "haxe", "glsl", "hlsl", "verilog", "vhdl", "prolog",
    "smalltalk", "tcl", "twig", "handlebars", "pug"]

def insertId (id : String) : List String → List String
  | [] => [id]
  | first :: rest =>
    if id < first then id :: first :: rest
    else if id = first then first :: rest
    else first :: insertId id rest

/-- Grammars that are known by their ids alone. The ids are kept in ascending order, each once. -/
structure Catalog where
  ids : List String
deriving DecidableEq, Repr

namespace Catalog

def ofList (ids : List String) : Catalog :=
  ⟨ids.foldl (fun sorted id => insertId id sorted) []⟩

def builtin : Catalog := .ofList builtinGrammars

def contains (catalog : Catalog) (id : String) : Bool :=
  catalog.ids.contains id

def size (catalog : Catalog) : Nat := catalog.ids.length

def isEmpty (catalog : Catalog) : Bool := catalog.ids.isEmpty

/-- Why a definition is turned down: its id is taken, or its base is missing, or else a grammar that it
embeds. -/
def fault? (catalog : Catalog) (definition : Definition) : Option Error :=
  if catalog.contains definition.id then some (.alreadyRegistered definition.id)
  else if !catalog.contains definition.base then
    some (.missingBase definition.id definition.base)
  else
    (definition.embedded.find? fun id => !catalog.contains id).map (.missingEmbedded definition.id)

def register (catalog : Catalog) (definition : Definition) : Catalog × Except Error Unit :=
  match catalog.fault? definition with
  | some error => (catalog, .error error)
  | none => (⟨insertId definition.id catalog.ids⟩, .ok ())

end Catalog

instance : Tokenizer Catalog where
  grammars := Catalog.ids
  hasGrammar := Catalog.contains
  register := Catalog.register

structure PlainList where
  ids : List String
deriving DecidableEq, Repr

instance : Tokenizer PlainList where
  grammars := PlainList.ids
  register core definition := (⟨core.ids ++ [definition.id]⟩, .ok ())

inductive Core where
  | catalog (known : Catalog)
  | plain (listed : PlainList)
deriving Repr

namespace Core

def catalog? : Core → Option Catalog
  | .catalog known => some known
  | .plain _ => none

end Core

instance : Tokenizer Core where
  grammars
    | .catalog known => Tokenizer.grammars known
    | .plain listed => Tokenizer.grammars listed
  hasGrammar
    | .catalog known => Tokenizer.hasGrammar known
    | .plain listed => Tokenizer.hasGrammar listed
  register
    | .catalog known, definition =>
      let (next, answer) := Tokenizer.register known definition
      (.catalog next, answer)
    | .plain listed, definition =>
      let (next, answer) := Tokenizer.register listed definition
      (.plain next, answer)

end BracketDecoration.Grammar
