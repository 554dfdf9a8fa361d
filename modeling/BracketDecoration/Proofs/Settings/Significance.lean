import BracketDecoration.Proofs.Settings.WellFormed
import Mathlib.Data.List.Forall2

/-!
What of a settings document counts. Nodes are compared level by level, and what may differ between them is all
that reading leaves out: properties, arguments behind those that are asked for, and blocks of nodes that take
none. Documents that are alike give the same configuration or the same fault.
-/

namespace BracketDecoration.Settings

open Kdl (Entry Node Value)

/-- The entries agree in their first `count` arguments. Properties may stand anywhere among them. -/
inductive AgreeUpTo : Nat → List Entry → List Entry → Prop where
  | enough (lefts rights : List Entry) : AgreeUpTo 0 lefts rights
  | ended (count : Nat) : AgreeUpTo count [] []
  | argument {count : Nat} {lefts rights : List Entry} (value : Value)
      (rest : AgreeUpTo count lefts rights) :
      AgreeUpTo (count + 1) (⟨none, value⟩ :: lefts) (⟨none, value⟩ :: rights)
  | propertyLeft {count : Nat} {lefts rights : List Entry} (name : String) (value : Value)
      (rest : AgreeUpTo count lefts rights) : AgreeUpTo count (⟨some name, value⟩ :: lefts) rights
  | propertyRight {count : Nat} {lefts rights : List Entry} (name : String) (value : Value)
      (rest : AgreeUpTo count lefts rights) : AgreeUpTo count lefts (⟨some name, value⟩ :: rights)

structure PairAlike (left right : Node) : Prop where
  named : left.name = right.name
  tokens : AgreeUpTo 2 left.entries right.entries

inductive Setting.SaidAlike (setting : Setting) (left right : Node) : Prop where
  | single (one : setting.kind.isSingle = true) (first : AgreeUpTo 1 left.entries right.entries)
  | list (many : setting.kind = .stringList) (same : ∀ count, AgreeUpTo count left.entries right.entries)
  | pairs (paired : setting.kind = .pairs) (lefts rights : List Node) (leftBlock : left.children = some lefts)
      (rightBlock : right.children = some rights) (each : List.Forall₂ PairAlike lefts rights)
  | blockless (paired : setting.kind = .pairs) (leftChildless : left.children = none)
      (rightChildless : right.children = none) (first : AgreeUpTo 1 left.entries right.entries)

/-- The nodes of settings differ at most in what does not count. Of an unknown setting only the name does. -/
structure SettingAlike (left right : Node) : Prop where
  named : left.name = right.name
  said : ∀ setting : Setting, left.name = setting.key → setting.SaidAlike left right

inductive TopAlike (left right : Node) : Prop where
  | block (listed : left.name = "language" ∨ left.name = "scope") (named : left.name = right.name)
      (first : AgreeUpTo 1 left.entries right.entries)
      (each : List.Forall₂ SettingAlike (left.children.getD []) (right.children.getD []))
  | setting (neither : left.name ≠ "language" ∧ left.name ≠ "scope") (alike : SettingAlike left right)

variable {left right : Node}

private theorem take_arguments {count : Nat} (agree : AgreeUpTo count left.entries right.entries) :
    left.arguments.take count = right.arguments.take count := by
  unfold Node.arguments
  generalize left.entries = lefts, right.entries = rights at agree
  induction agree with
  | enough lefts rights => rfl
  | ended count => rfl
  | argument value _rest ih => exact congrArg (List.cons value) ih
  | propertyLeft name value _rest ih => exact ih
  | propertyRight name value _rest ih => exact ih

theorem getElem?_arguments {count : Nat} (agree : AgreeUpTo count left.entries right.entries) {index : Nat}
    (before : index < count) : left.arguments[index]? = right.arguments[index]? := by
  rw [← List.getElem?_take_of_lt before, take_arguments agree, List.getElem?_take_of_lt before]

theorem head?_arguments (agree : AgreeUpTo 1 left.entries right.entries) :
    left.arguments.head? = right.arguments.head? := by
  rw [List.head?_eq_getElem?, List.head?_eq_getElem?]
  exact getElem?_arguments agree Nat.one_pos

private theorem arguments_eq (same : ∀ count, AgreeUpTo count left.entries right.entries) :
    left.arguments = right.arguments :=
  List.ext_getElem? fun index => getElem?_arguments (same (index + 1)) (Nat.lt_succ_self index)

variable {α β : Type} {alike : α → α → Prop}

private theorem mapM_congr {read : α → Except Error β}
    (reads : ∀ left right, alike left right → read left = read right) {lefts rights : List α}
    (each : List.Forall₂ alike lefts rights) : lefts.mapM read = rights.mapM read := by
  induction each with
  | nil => rfl
  | cons first _rest ih => rw [List.mapM_cons, List.mapM_cons, reads _ _ first, ih]

theorem foldlM_congr {step : β → α → Except Error β}
    (steps : ∀ left right, alike left right → ∀ state, step state left = step state right)
    {lefts rights : List α} (each : List.Forall₂ alike lefts rights) (state : β) :
    lefts.foldlM step state = rights.foldlM step state := by
  induction each generalizing state with
  | nil => rfl
  | cons first _rest ih =>
      rw [List.foldlM_cons, List.foldlM_cons, steps _ _ first state]
      exact congrArg _ (funext ih)

theorem readPair_congr (left right : Node) (alike : PairAlike left right) : readPair left = readPair right := by
  have opening := getElem?_arguments alike.tokens Nat.zero_lt_two
  have closing := getElem?_arguments alike.tokens Nat.one_lt_two
  unfold readPair
  rw [alike.named, opening, closing]

private theorem firstValue_congr (first : AgreeUpTo 1 left.entries right.entries) (setting : Setting)
    (read? : Value → Option α) : firstValue left setting read? = firstValue right setting read? := by
  unfold firstValue
  rw [head?_arguments first]

private theorem stringValues_congr (same : ∀ count, AgreeUpTo count left.entries right.entries)
    (setting : Setting) :
    stringValues left setting = stringValues right setting := by
  unfold stringValues
  rw [arguments_eq same]

theorem readPairs_congr (alike : Setting.pairs.SaidAlike left right) : readPairs left = readPairs right := by
  cases alike with
  | single impossible | list impossible => cases impossible
  | pairs _paired lefts rights leftBlock rightBlock each =>
      unfold readPairs
      rw [leftBlock, rightBlock]
      exact mapM_congr readPair_congr each
  | blockless _paired leftChildless rightChildless first =>
      rw [readPairs_blockless leftChildless, readPairs_blockless rightChildless, firstTypeName,
        firstTypeName, head?_arguments first]

private theorem Setting.SaidAlike.first {setting : Setting} (alike : setting.SaidAlike left right)
    (one : setting.kind.isSingle = true) : AgreeUpTo 1 left.entries right.entries := by
  cases alike with
  | single _one first => exact first
  | list other | pairs other | blockless other =>
      rw [other] at one
      cases one

private theorem Setting.SaidAlike.same {setting : Setting} (alike : setting.SaidAlike left right)
    (many : setting.kind = .stringList) : ∀ count, AgreeUpTo count left.entries right.entries := by
  cases alike with
  | single one =>
      rw [many] at one
      cases one
  | list _many same => exact same
  | pairs paired | blockless paired => cases many.symm.trans paired

theorem readSetting_congr (left right : Node) (alike : SettingAlike left right) (layer : Layer) :
    layer.readSetting left = layer.readSetting right := by
  unfold Layer.readSetting
  rw [← alike.named]
  cases found : Setting.find? left.name with
  | none => rfl
  | some setting =>
      have said := alike.said setting (Setting.key_of_find? found)
      cases setting with
      | colors => dsimp only; rw [stringValues_congr (said.same rfl)]
      | pairs => dsimp only; rw [readPairs_congr said]
      | _ => dsimp only; rw [firstValue_congr (said.first rfl)]

private theorem blockName_congr (first : AgreeUpTo 1 left.entries right.entries) (block : String) :
    blockName left block = blockName right block := by
  unfold blockName
  rw [head?_arguments first]

private theorem ofBlock_congr (each : List.Forall₂ SettingAlike (left.children.getD []) (right.children.getD [])) :
    Layer.ofBlock left = Layer.ofBlock right :=
  foldlM_congr readSetting_congr each .empty

theorem readNode_congr (left right : Node) (alike : TopAlike left right) (config : Config) :
    config.readNode left = config.readNode right := by
  cases alike with
  | block listed named first each =>
      rcases listed with language | scope
      · rw [readNode_language language, readNode_language (named ▸ language), blockName_congr first,
          ofBlock_congr each]
      · rw [readNode_scope scope, readNode_scope (named ▸ scope), blockName_congr first, ofBlock_congr each]
  | setting neither alike =>
      obtain ⟨notLanguage, notScope⟩ := neither
      rw [readNode_setting notLanguage notScope,
        readNode_setting (alike.named ▸ notLanguage) (alike.named ▸ notScope),
        readSetting_congr left right alike]

/-- What does not count in a document changes neither its configuration nor its fault. -/
theorem Config.ofNodes_congr {lefts rights : List Node} (alike : List.Forall₂ TopAlike lefts rights) :
    Config.ofNodes lefts = Config.ofNodes rights :=
  foldlM_congr readNode_congr alike .empty

private theorem SettingAlike.of_named (setting : Setting) (leftNamed : left.name = setting.key)
    (rightNamed : right.name = setting.key) (said : setting.SaidAlike left right) :
    SettingAlike left right where
  named := leftNamed.trans rightNamed.symm
  said := by
    intro other also
    rwa [Setting.key_injective (also.symm.trans leftNamed)]

def argument (value : Value) : Entry := ⟨none, value⟩

def property (name : String) (value : Value) : Entry := ⟨some name, value⟩

def terse : List Node :=
  [⟨"timeout", [argument (.integer 5)], none⟩,
    ⟨"language", [argument (.string "rust")],
      some [⟨"colors", [argument (.string "red")], none⟩,
        ⟨"pairs", [], some [⟨"pair", [argument (.string "<"), argument (.string ">")], none⟩]⟩]⟩]

def wordy : List Node :=
  let stray : Option (List Node) := some [⟨"stray", [], none⟩]
  [⟨"timeout", [property "unit" (.string "ms"), argument (.integer 5), argument (.bool true)], stray⟩,
    ⟨"language", [property "since" (.integer 2015), argument (.string "rust"), argument .null],
      some [⟨"colors", [property "hue" (.integer 0), argument (.string "red")], stray⟩,
        ⟨"pairs", [argument (.string "angles")],
          some [⟨"pair", [argument (.string "<"), property "wide" (.bool false), argument (.string ">"),
            argument (.string "|")], stray⟩]⟩]⟩]

theorem Config.ofNodes_congr_wordy :
    List.Forall₂ TopAlike terse wordy ∧
      ((Config.ofNodes terse).map Config.global).toOption = some { Layer.empty with timeout := some 5 } ∧
      Config.ofNodes terse = Config.ofNodes wordy := by
  have timeout : TopAlike terse[0] wordy[0] :=
    .setting (by decide) <| .of_named .timeout rfl rfl <|
      .single rfl (.propertyRight _ _ (.argument _ (.enough _ _)))
  have language : TopAlike terse[1] wordy[1] := by
    refine .block (Or.inl rfl) rfl (.propertyRight _ _ (.argument _ (.enough _ _)))
      (.cons ?colors (.cons ?pairs .nil))
    case colors =>
      refine .of_named .colors rfl rfl (.list rfl fun count => .propertyRight _ _ ?_)
      cases count with
      | zero => exact .enough _ _
      | succ count => exact .argument _ (.ended count)
    case pairs =>
      refine .of_named .pairs rfl rfl (.pairs rfl _ _ rfl rfl (.cons ⟨rfl, ?_⟩ .nil))
      exact .argument _ (.propertyRight _ _ (.argument _ (.enough _ _)))
  have alike : List.Forall₂ TopAlike terse wordy := .cons timeout (.cons language .nil)
  exact ⟨alike, by decide +kernel, Config.ofNodes_congr alike⟩

end BracketDecoration.Settings
