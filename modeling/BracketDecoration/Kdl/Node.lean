/-!
The tree of a KDL document: values, entries and nodes.

Type annotations carry no meaning for readers of the tree, so none are kept. An entry with a name is a
property and one without is an argument.
-/

namespace BracketDecoration.Kdl

/-- A number with a fraction or an exponent is a `float` whatever its value, and keeps its spelling. -/
inductive Value where
  | string (text : String)
  | integer (value : Int)
  | float (spelling : String)
  | bool (value : Bool)
  | null
deriving DecidableEq, Repr

namespace Value

def typeName : Value → String
  | .string _ => "string"
  | .integer _ => "int"
  | .float _ => "float"
  | .bool _ => "bool"
  | .null => "null"

def string? : Value → Option String
  | .string text => some text
  | _ => none

def integer? : Value → Option Int
  | .integer value => some value
  | _ => none

def bool? : Value → Option Bool
  | .bool value => some value
  | _ => none

end Value

structure Entry where
  name : Option String
  value : Value
deriving DecidableEq, Repr

/-- A node without a block has no children; an empty block gives it the empty list. -/
structure Node where
  name : String
  entries : List Entry
  children : Option (List Node)

namespace Node

def arguments (node : Node) : List Value :=
  (node.entries.filter fun entry => entry.name.isNone).map Entry.value

end Node

end BracketDecoration.Kdl
