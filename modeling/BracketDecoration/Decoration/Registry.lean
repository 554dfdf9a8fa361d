import BracketDecoration.Decoration.Engine

namespace BracketDecoration.Decoration

open Editor (DocumentKey)

structure Entry where
  key : DocumentKey
  engine : Engine
deriving DecidableEq, Repr

structure Registry where
  entries : List Entry
deriving DecidableEq, Repr

namespace Registry

def empty : Registry := ⟨[]⟩

def find? (registry : Registry) (key : DocumentKey) : Option Engine :=
  (registry.entries.find? fun entry => entry.key = key).map Entry.engine

def insert (registry : Registry) (key : DocumentKey) (engine : Engine) : Registry :=
  ⟨registry.entries ++ [⟨key, engine⟩]⟩

def erase (registry : Registry) (key : DocumentKey) : Registry :=
  ⟨registry.entries.filter fun entry => entry.key ≠ key⟩

def size (registry : Registry) : Nat := registry.entries.length

end Registry

/-- The order in which a registry gives up its entries. It can be any, and another one each time: engines that are
given up do not come back. -/
structure DrainOrder where
  arrange : List Entry → List Entry
  perm : ∀ entries, (arrange entries).Perm entries

def DrainOrder.byAge : DrainOrder := ⟨id, List.Perm.refl⟩

end BracketDecoration.Decoration
