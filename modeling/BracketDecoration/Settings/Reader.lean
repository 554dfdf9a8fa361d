import BracketDecoration.Kdl.Document
import BracketDecoration.Settings.Config
import BracketDecoration.Settings.Setting
import BracketDecoration.Text.Bytes

/-!
Reading a configuration. Main definitions: `Config.ofNodes`, which gives the configuration that the nodes of
a document spell, or the first fault among them, and `Config.parse` for the text of a document.

Faults of syntax come before all others. Colors, pairs and ranges are not looked at here but when the
settings of a document are resolved.
-/

namespace BracketDecoration.Settings

def minWord : Int := -0x8000_0000_0000_0000

def maxWord : Int := 0x7fff_ffff_ffff_ffff

def word? (value : Int) : Option Int :=
  if minWord ≤ value ∧ value ≤ maxWord then some value else none

/-- A number that is out of the range of words saturates toward its sign. -/
def clampToWord (value : Int) : Int :=
  let saturated := if value < 0 then minWord else maxWord
  (word? value).getD saturated

def blockName (node : Kdl.Node) (block : String) : Except Error String :=
  match node.arguments.head?.bind Kdl.Value.string? with
  | some name => .ok name
  | none => .error (.missing (block ++ " name"))

def firstValue {α : Type} (node : Kdl.Node) (setting : Setting) (read? : Kdl.Value → Option α) :
    Except Error α :=
  match node.arguments.head? with
  | none => .error (.missing (setting.key ++ " value"))
  | some value =>
    match read? value with
    | some result => .ok result
    | none => .error (.kindMismatch setting.key setting.kind.name value.typeName)

def stringValues (node : Kdl.Node) (setting : Setting) : Except Error (List String) :=
  node.arguments.mapM fun value =>
    match value.string? with
    | some text => .ok text
    | none => .error (.kindMismatch setting.key setting.kind.name value.typeName)

def pairToken (side : String) : Option Kdl.Value → Except Error String
  | none => .error (.missing ("pair " ++ side ++ " token"))
  | some value =>
    match value.string? with
    | some token => .ok token
    | none => .error (.kindMismatch "pair" Kind.string.name value.typeName)

def readPair (node : Kdl.Node) : Except Error Pair := do
  if node.name ≠ "pair" then throw (.unknownSetting node.name (some "pair"))
  let opening ← pairToken "open" node.arguments[0]?
  let closing ← pairToken "close" node.arguments[1]?
  return ⟨opening, closing⟩

def readPairs (node : Kdl.Node) : Except Error (List Pair) :=
  match node.children with
  | some children => children.mapM readPair
  | none =>
    let got := match node.arguments.head? with
      | some value => value.typeName
      | none => "nothing"
    .error (.kindMismatch Setting.pairs.key Setting.pairs.kind.name got)

namespace Layer

/-- Sets what the node of a setting says; what was set before is lost. -/
def readSetting (layer : Layer) (node : Kdl.Node) : Except Error Layer :=
  match Setting.find? node.name with
  | none => .error (.unknownSetting node.name (Setting.suggest? node.name))
  | some setting =>
    match setting with
    | .colors => return { layer with colors := some (← stringValues node setting) }
    | .unmatchedColor =>
      return { layer with unmatchedColor := some (← firstValue node setting Kdl.Value.string?) }
    | .colorMode => return { layer with colorMode := some (← firstValue node setting Kdl.Value.string?) }
    | .forceUniqueOpeningColor =>
      return { layer with forceUniqueOpeningColor := some (← firstValue node setting Kdl.Value.bool?) }
    | .forceIterationColorCycle =>
      return { layer with forceIterationColorCycle := some (← firstValue node setting Kdl.Value.bool?) }
    | .highlightActiveScope =>
      return { layer with highlightActiveScope := some (← firstValue node setting Kdl.Value.bool?) }
    | .timeout =>
      return { layer with timeout := some (clampToWord (← firstValue node setting Kdl.Value.integer?)) }
    | .pairs => return { layer with pairs := some (← readPairs node) }

def ofBlock (node : Kdl.Node) : Except Error Layer :=
  (node.children.getD []).foldlM readSetting .empty

end Layer

namespace Config

def readNode (config : Config) (node : Kdl.Node) : Except Error Config :=
  if node.name = "language" then do
    let grammar ← blockName node "language"
    let layer ← Layer.ofBlock node
    return { config with languages := config.languages ++ [⟨grammar, layer⟩] }
  else if node.name = "scope" then do
    let pattern ← blockName node "scope"
    let layer ← Layer.ofBlock node
    let block ← ScopeBlock.make pattern layer
    return { config with scopes := config.scopes ++ [block] }
  else do
    let layer ← config.global.readSetting node
    return { config with global := layer }

def ofNodes (nodes : List Kdl.Node) : Except Error Config :=
  nodes.foldlM readNode .empty

def parse (text : String) : Except Error Config :=
  match Kdl.parse? text with
  | some nodes => ofNodes nodes
  | none => .error .malformed

end Config

inductive LoadError where
  | notFound
  | notText
  | rejected (cause : Error)
deriving Repr

def Config.load (content : Option (List UInt8)) : Except LoadError Config :=
  match content with
  | none => .error .notFound
  | some bytes =>
    match Text.ofBytes? bytes with
    | none => .error .notText
    | some text => (Config.parse text).mapError .rejected

end BracketDecoration.Settings
