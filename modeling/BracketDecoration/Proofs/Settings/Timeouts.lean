import BracketDecoration.Proofs.Settings.Concatenation
import BracketDecoration.Proofs.Settings.FirstViolation
import BracketDecoration.Proofs.Settings.WellFormed
import Mathlib.Data.List.Forall2

/-!
What becomes of a timeout on its way from a document to an engine. It may be any number where it is written, and
is clamped to a word when it is read. Its range is only looked at when the settings of a document are resolved,
and by then layers have been put over each other. Even so the timeout that counts comes through unchanged, or is
turned down.
-/

namespace BracketDecoration.Settings

open Kdl (Node Value)

/-! ### Words -/

/-- To saturate toward the sign is to take the nearest word. -/
theorem clampToWord_eq (value : Int) : clampToWord value = max minWord (min value maxWord) := by
  unfold clampToWord word?
  by_cases within : minWord ≤ value ∧ value ≤ maxWord
  · rw [if_pos within, Option.getD_some, Int.min_eq_left within.2, Int.max_eq_right within.1]
  · rw [if_neg within, Option.getD_none]
    unfold minWord maxWord at within ⊢
    omega

theorem clampToWord_range (value : Int) :
    -0x8000_0000_0000_0000 ≤ clampToWord value ∧ clampToWord value ≤ 0x7fff_ffff_ffff_ffff := by
  rw [clampToWord_eq, minWord, maxWord]
  omega

theorem clampToWord_eq_self {value : Int} (low : -0x8000_0000_0000_0000 ≤ value)
    (high : value ≤ 0x7fff_ffff_ffff_ffff) : clampToWord value = value := by
  rw [clampToWord_eq, minWord, maxWord]
  omega

theorem clampToWord_inside_iff (value : Int) :
    (0 ≤ clampToWord value ∧ clampToWord value ≤ 10000) ↔ 0 ≤ value ∧ value ≤ 10000 := by
  rw [clampToWord_eq, minWord, maxWord]
  omega

theorem sign_clampToWord (value : Int) : (clampToWord value).sign = value.sign := by
  rcases Int.lt_trichotomy value 0 with negative | rfl | positive
  · have clamped : clampToWord value < 0 := by
      rw [clampToWord_eq, minWord, maxWord]
      omega
    rw [Int.sign_eq_neg_one_of_neg negative, Int.sign_eq_neg_one_of_neg clamped]
  · rfl
  · have clamped : 0 < clampToWord value := by
      rw [clampToWord_eq, minWord, maxWord]
      omega
    rw [Int.sign_eq_one_of_pos positive, Int.sign_eq_one_of_pos clamped]

theorem toInt_clampToWord (value : Int) : (Int64.ofInt (clampToWord value)).toInt = clampToWord value :=
  have range := clampToWord_range value
  Int64.toInt_ofInt_of_le (by omega) (by omega)

theorem toNat_toUInt64_ofInt (number : Nat) (high : number ≤ 0x7fff_ffff_ffff_ffff) :
    (Int64.ofInt number).toUInt64.toNat = number := by
  rw [Int64.ofInt_eq_ofNat, Int64.toUInt64_ofNat', UInt64.toNat_ofNat']
  exact Nat.mod_eq_of_lt (by omega)

/-! ### Timeouts in documents -/

def timeout? (node : Node) : Option Int :=
  if node.name = Setting.timeout.key then node.arguments.head?.bind Value.integer? else none

def timeouts (nodes : List Node) : List Int := nodes.filterMap timeout?

def blockTimeouts (block : Node) : List Int := timeouts (block.children.getD [])

def scopeNodes (nodes : List Node) : List Node := nodes.filter fun node => node.name = "scope"

def languageNodes (nodes : List Node) : List Node := nodes.filter fun node => node.name = "language"

def coversPath (path : List UInt8) (node : Node) : Bool :=
  (node.arguments.head?.bind Value.string?).any fun source =>
    (Glob.parse source).toOption.any fun pattern => pattern.accepts path

def namesGrammar (grammar : String) (node : Node) : Bool :=
  node.arguments.head? = some (.string grammar)

/-- All timeouts that are written for a path and a grammar, in the order in which they override each other. -/
def timeoutsFor (grammar : String) (path : List UInt8) (nodes : List Node) : List Int :=
  timeouts nodes ++ ((scopeNodes nodes).filter (coversPath path)).flatMap blockTimeouts ++
    ((languageNodes nodes).filter (namesGrammar grammar)).flatMap blockTimeouts

/-- What a layer holds once these timeouts were read into it, one after the other. -/
def lastWord (written : List Int) : Option Int := written.getLast?.map clampToWord

theorem lastWord_append (first second : List Int) :
    lastWord (first ++ second) = (lastWord second).or (lastWord first) := by
  unfold lastWord
  rw [List.getLast?_append, Option.map_or]

theorem timeouts_append (first second : List Node) :
    timeouts (first ++ second) = timeouts first ++ timeouts second :=
  List.filterMap_append

theorem lastWord_single (node : Node) :
    lastWord (timeouts [node]) = (timeout? node).map clampToWord := by
  unfold timeouts
  cases written : timeout? node with
  | none =>
      rw [List.filterMap_cons_none written]
      rfl
  | some value =>
      rw [List.filterMap_cons_some written]
      rfl

theorem lastWord_cons (node : Node) (rest : List Node) :
    lastWord (timeouts (node :: rest)) =
      (lastWord (timeouts rest)).or ((timeout? node).map clampToWord) := by
  rw [← lastWord_single, ← lastWord_append, ← timeouts_append]
  rfl

theorem timeout?_of_name_ne {node : Node} (other : node.name ≠ Setting.timeout.key) : timeout? node = none :=
  if_neg other

theorem scopeNodes_single (node : Node) :
    scopeNodes [node] = if node.name = "scope" then [node] else [] := by
  unfold scopeNodes
  simp only [List.filter_cons, decide_eq_true_eq, List.filter_nil]

theorem languageNodes_single (node : Node) :
    languageNodes [node] = if node.name = "language" then [node] else [] := by
  unfold languageNodes
  simp only [List.filter_cons, decide_eq_true_eq, List.filter_nil]

/-! ### Timeouts in layers -/

theorem firstValue_eq_ok_iff {α : Type} {node : Node} {setting : Setting} {read? : Value → Option α}
    {value : α} :
    firstValue node setting read? = .ok value ↔ node.arguments.head?.bind read? = some value := by
  unfold firstValue
  cases node.arguments.head? with
  | none => exact ⟨nofun, nofun⟩
  | some first =>
      dsimp only [Option.bind_some]
      cases read? first with
      | none => exact ⟨nofun, nofun⟩
      | some found => rw [Except.ok.injEq, Option.some.injEq]

namespace Layer

theorem readSetting_timeout {node : Node} {value : Int} (written : timeout? node = some value)
    (layer : Layer) :
    layer.readSetting node = .ok { layer with timeout := some (clampToWord value) } := by
  unfold timeout? at written
  split at written
  · rename_i named
    unfold readSetting
    rw [named, Setting.find?_key]
    exact bind_eq_ok_iff.mpr ⟨value, firstValue_eq_ok_iff.mpr written, rfl⟩
  · cases written

theorem timeout_of_readSetting {layer next : Layer} {node : Node}
    (read : layer.readSetting node = .ok next) :
    next.timeout = ((timeout? node).map clampToWord).or layer.timeout := by
  cases written : timeout? node with
  | some value =>
      rw [readSetting_timeout written] at read
      cases read
      rfl
  | none =>
      unfold readSetting at read
      cases found : Setting.find? node.name with
      | none =>
          rw [found] at read
          cases read
      | some setting =>
          rw [found] at read
          -- Only the node of a timeout writes this field, and then it has a number to write.
          cases setting with
          | timeout =>
              obtain ⟨value, first, _made⟩ := bind_eq_ok_iff.mp read
              unfold timeout? at written
              rw [if_pos (Setting.key_of_find? found), firstValue_eq_ok_iff.mp first] at written
              cases written
          | _ =>
              obtain ⟨value, _first, made⟩ := bind_eq_ok_iff.mp read
              cases made
              rfl

private theorem timeout_of_foldlM {layer next : Layer} {nodes : List Node}
    (read : nodes.foldlM readSetting layer = .ok next) :
    next.timeout = (lastWord (timeouts nodes)).or layer.timeout := by
  induction nodes generalizing layer with
  | nil =>
      cases read
      rfl
  | cons node rest ih =>
      rw [List.foldlM_cons] at read
      obtain ⟨after, first, read⟩ := bind_eq_ok_iff.mp read
      rw [ih read, timeout_of_readSetting first, lastWord_cons, Option.or_assoc]

theorem timeout_of_ofBlock {block : Node} {layer : Layer} (read : ofBlock block = .ok layer) :
    layer.timeout = lastWord (blockTimeouts block) := by
  rw [timeout_of_foldlM read]
  exact Option.or_none

end Layer

/-! ### Timeouts in configurations -/

/-- The block of paths is that of the node, with its last timeout. -/
structure ScopeBlock.Spelled (node : Node) (block : ScopeBlock) : Prop where
  pattern : ∃ source, node.arguments.head? = some (.string source) ∧ Glob.parse source = .ok block.pattern
  timeout : block.layer.timeout = lastWord (blockTimeouts node)

structure LanguageBlock.Spelled (node : Node) (block : LanguageBlock) : Prop where
  grammar : node.arguments.head? = some (.string block.grammar)
  timeout : block.layer.timeout = lastWord (blockTimeouts node)

/-- Each layer holds the last timeout that the nodes give it, clamped to a word. -/
structure Config.HoldsTimeouts (nodes : List Node) (config : Config) : Prop where
  global : config.global.timeout = lastWord (timeouts nodes)
  scopes : List.Forall₂ ScopeBlock.Spelled (scopeNodes nodes) config.scopes
  languages : List.Forall₂ LanguageBlock.Spelled (languageNodes nodes) config.languages

private theorem ScopeBlock.Spelled.coversPath_eq {node : Node} {block : ScopeBlock} (spelled : block.Spelled node)
    (path : List UInt8) : coversPath path node = block.covers path := by
  obtain ⟨source, first, compiled⟩ := spelled.pattern
  unfold coversPath ScopeBlock.covers
  rw [first, Option.bind_some, Value.string?, Option.any_some, compiled]
  rfl

private theorem LanguageBlock.Spelled.namesGrammar_eq {node : Node} {block : LanguageBlock}
    (spelled : block.Spelled node) (grammar : String) :
    namesGrammar grammar node = decide (block.grammar = grammar) := by
  unfold namesGrammar
  simp only [spelled.grammar, Option.some.injEq, Value.string.injEq]

private theorem ScopeBlock.spelled_of_make {node : Node} {source : String} {layer : Layer} {block : ScopeBlock}
    (named : blockName node "scope" = .ok source) (read : Layer.ofBlock node = .ok layer)
    (made : ScopeBlock.make source layer = .ok block) : block.Spelled node := by
  unfold ScopeBlock.make at made
  cases compiled : Glob.parse source with
  | error cause =>
      rw [compiled] at made
      cases made
  | ok pattern =>
      rw [compiled] at made
      cases made
      exact ⟨⟨source, first_of_blockName named, compiled⟩, Layer.timeout_of_ofBlock read⟩

namespace Config.HoldsTimeouts

theorem nil : HoldsTimeouts [] .empty := ⟨rfl, .nil, .nil⟩

theorem merge {first second : List Node} {lower upper : Config} (below : HoldsTimeouts first lower)
    (above : HoldsTimeouts second upper) : HoldsTimeouts (first ++ second) (lower.merge upper) where
  global := by
    rw [timeouts_append, lastWord_append, ← below.global, ← above.global]
    rfl
  scopes := by
    unfold scopeNodes
    rw [List.filter_append]
    exact List.rel_append below.scopes above.scopes
  languages := by
    unfold languageNodes
    rw [List.filter_append]
    exact List.rel_append below.languages above.languages

variable {node : Node} {config : Config}

private theorem single_language (language : node.name = "language")
    (read : Config.empty.readNode node = .ok config) : HoldsTimeouts [node] config := by
  rw [readNode_language language] at read
  obtain ⟨grammar, named, read⟩ := bind_eq_ok_iff.mp read
  obtain ⟨layer, spelled, made⟩ := bind_eq_ok_iff.mp read
  cases made
  refine ⟨?_, ?_, ?_⟩
  · rw [lastWord_single, timeout?_of_name_ne (by rw [language]; decide)]
    rfl
  · rw [scopeNodes_single, if_neg (by rw [language]; decide)]
    exact .nil
  · rw [languageNodes_single, if_pos language]
    exact .cons ⟨first_of_blockName named, Layer.timeout_of_ofBlock spelled⟩ .nil

private theorem single_scope (scope : node.name = "scope") (read : Config.empty.readNode node = .ok config) :
    HoldsTimeouts [node] config := by
  rw [readNode_scope scope] at read
  obtain ⟨source, named, read⟩ := bind_eq_ok_iff.mp read
  obtain ⟨layer, spelled, read⟩ := bind_eq_ok_iff.mp read
  obtain ⟨block, compiled, made⟩ := bind_eq_ok_iff.mp read
  cases made
  refine ⟨?_, ?_, ?_⟩
  · rw [lastWord_single, timeout?_of_name_ne (by rw [scope]; decide)]
    rfl
  · rw [scopeNodes_single, if_pos scope]
    exact .cons (ScopeBlock.spelled_of_make named spelled compiled) .nil
  · rw [languageNodes_single, if_neg (by rw [scope]; decide)]
    exact .nil

private theorem single_setting (notLanguage : node.name ≠ "language") (notScope : node.name ≠ "scope")
    (read : Config.empty.readNode node = .ok config) : HoldsTimeouts [node] config := by
  rw [readNode_setting notLanguage notScope] at read
  obtain ⟨layer, set, made⟩ := bind_eq_ok_iff.mp read
  cases made
  refine ⟨?_, ?_, ?_⟩
  · rw [lastWord_single]
    exact (Layer.timeout_of_readSetting set).trans Option.or_none
  · rw [scopeNodes_single, if_neg notScope]
    exact .nil
  · rw [languageNodes_single, if_neg notLanguage]
    exact .nil

theorem single (read : Config.empty.readNode node = .ok config) : HoldsTimeouts [node] config := by
  by_cases language : node.name = "language"
  · exact single_language language read
  · by_cases scope : node.name = "scope"
    · exact single_scope scope read
    · exact single_setting language scope read

private theorem readNode {before : List Node} {next : Config} (holds : HoldsTimeouts before config)
    (read : config.readNode node = .ok next) : HoldsTimeouts (before ++ [node]) next := by
  -- The node is read as if it stood alone, and merging takes care of all that was read before.
  rw [readNode_eq_merge] at read
  cases spelled : Config.empty.readNode node with
  | error fault =>
      rw [spelled] at read
      cases read
  | ok alone =>
      rw [spelled] at read
      cases read
      exact holds.merge (single spelled)

private theorem foldlM_readNode {before nodes : List Node} {next : Config} (holds : HoldsTimeouts before config)
    (read : nodes.foldlM Config.readNode config = .ok next) :
    HoldsTimeouts (before ++ nodes) next := by
  induction nodes generalizing before config with
  | nil =>
      cases read
      rw [List.append_nil]
      exact holds
  | cons node rest ih =>
      rw [List.foldlM_cons] at read
      obtain ⟨after, first, read⟩ := bind_eq_ok_iff.mp read
      rw [List.append_cons]
      exact ih (holds.readNode first) read

/-- Merging the documents that are read in a row keeps every timeout in its layer. -/
theorem foldl_merge {before : List Node} {base : Config} {documents : List (List Node)}
    {configs : List Config} (holds : HoldsTimeouts before base)
    (read : List.Forall₂ (fun nodes config => Config.ofNodes nodes = .ok config) documents configs) :
    HoldsTimeouts (before ++ documents.flatten) (configs.foldl Config.merge base) := by
  induction read generalizing before base with
  | nil =>
      rw [List.flatten_nil, List.append_nil]
      exact holds
  | cons first _rest ih =>
      rw [List.flatten_cons, ← List.append_assoc]
      exact ih (holds.merge (nil.foldlM_readNode first))

end Config.HoldsTimeouts

/-! ### The timeout that counts -/

theorem Layer.lastSet_append {α : Type} (setting : Layer → Option α) (lower upper : List Layer) :
    lastSet setting (lower ++ upper) = (lastSet setting upper).or (lastSet setting lower) := by
  unfold lastSet
  rw [List.reverse_append, List.findSome?_append]

theorem Layer.lastSet_timeout {blocks : List Node} {layers : List Layer}
    (spelled : List.Forall₂ (fun block layer => layer.timeout = lastWord (blockTimeouts block))
      blocks layers) :
    lastSet Layer.timeout layers = lastWord (blocks.flatMap blockTimeouts) := by
  induction spelled with
  | nil => rfl
  | @cons block layer blocks layers first _rest ih =>
      have alone : lastSet Layer.timeout [layer] = layer.timeout := List.findSome?_singleton
      rw [List.flatMap_cons, lastWord_append, ← ih, ← first, ← alone, ← lastSet_append]
      rfl

namespace Config.HoldsTimeouts

variable {nodes : List Node} {config : Config}

private theorem scopeLayers (holds : config.HoldsTimeouts nodes) (path : List UInt8) :
    Layer.lastSet Layer.timeout (config.scopeLayers path) =
      lastWord (((scopeNodes nodes).filter (coversPath path)).flatMap blockTimeouts) := by
  refine Layer.lastSet_timeout (List.forall₂_map_right_iff.mpr ?_)
  have covering : List.Forall₂ ScopeBlock.Spelled ((scopeNodes nodes).filter (coversPath path))
      (config.scopes.filter fun block => block.covers path) :=
    List.rel_filter (fun _node _block spelled => Bool.eq_iff_iff.mp (spelled.coversPath_eq path))
      holds.scopes
  exact covering.imp fun _node _block spelled => spelled.timeout

private theorem languageLayers (holds : config.HoldsTimeouts nodes) (grammar : String) :
    Layer.lastSet Layer.timeout (config.languageLayers grammar) =
      lastWord (((languageNodes nodes).filter (namesGrammar grammar)).flatMap blockTimeouts) := by
  refine Layer.lastSet_timeout (List.forall₂_map_right_iff.mpr ?_)
  have named : List.Forall₂ LanguageBlock.Spelled ((languageNodes nodes).filter (namesGrammar grammar))
      (config.languages.filter fun block => block.grammar = grammar) :=
    List.rel_filter (fun _node _block spelled => Bool.eq_iff_iff.mp (spelled.namesGrammar_eq grammar))
      holds.languages
  exact named.imp fun _node _block spelled => spelled.timeout

private theorem effective (holds : config.HoldsTimeouts nodes) (grammar : String) (path : List UInt8) :
    (config.effective grammar path).timeout = lastWord (timeoutsFor grammar path nodes) := by
  rw [effective_eq_stack, Layer.setting_stack Layer.timeout rfl (fun _ _ => rfl)]
  have base : Layer.lastSet Layer.timeout [config.global] = lastWord (timeouts nodes) :=
    holds.global ▸ List.findSome?_singleton
  unfold timeoutsFor
  rw [lastWord_append, lastWord_append, ← holds.scopeLayers, ← holds.languageLayers, ← base,
    ← Layer.lastSet_append, ← Layer.lastSet_append]
  rfl

end Config.HoldsTimeouts

/-- The values of a layer are in order but for the timeout, which may be anything. -/
structure Layer.OthersInOrder (layer : Layer) : Prop where
  colors : ColorsInOrder layer.values.colors
  unmatchedColor : ColorSyntax layer.values.unmatchedColor.toList
  colorMode : ∃ mode : ColorMode, mode.NamedBy layer.values.colorMode
  pairs : PairsInOrder layer.values.pairs

/-- The layer has taken in the number as a word, and what comes of resolving it is decided by the number itself.
Taking the word without its sign gives the timeout of the settings. -/
structure TimeoutKept (value : Int) (layer : Layer) (resolved : Except Error Snapshot) : Prop where
  held : layer.timeout = some (clampToWord value)
  nearest : clampToWord value = max minWord (min value maxWord)
  sign : (clampToWord value).sign = value.sign
  word : (Int64.ofInt (clampToWord value)).toInt = clampToWord value
  inside : layer.OthersInOrder → 0 ≤ value → value ≤ 10000 →
    ∃ settings, resolved = .ok settings ∧ (settings.timeout : Int) = value
  outside : layer.OthersInOrder → value < 0 ∨ 10000 < value →
    resolved = .error (.timeoutOutOfRange (clampToWord value))
  accepted : ∀ settings, resolved = .ok settings →
    0 ≤ value ∧ value ≤ 10000 ∧ (settings.timeout : Int) = value ∧
      (Int64.ofInt (clampToWord value)).toUInt64.toNat = settings.timeout

theorem Layer.values_timeout {layer : Layer} {word : Int} (held : layer.timeout = some word) :
    layer.values.timeout = word := by
  unfold values
  rw [held, Option.getD_some]

private theorem Snapshot.timeout_of_ofLayer {grammar : String} {layer : Layer} {settings : Snapshot} {value : Int}
    (held : layer.timeout = some (clampToWord value)) (made : ofLayer grammar layer = .ok settings) :
    0 ≤ value ∧ value ≤ 10000 ∧ (settings.timeout : Int) = value ∧
      (Int64.ofInt (clampToWord value)).toUInt64.toNat = settings.timeout := by
  have counted := Layer.values_timeout held
  have inOrder := (decided_ofLayer grammar layer).accepted.mp ⟨settings, made⟩
  have range := (clampToWord_inside_iff value).mp (counted ▸ inOrder.timeout)
  have same : clampToWord value = value := clampToWord_eq_self (by omega) (by omega)
  have carried : (settings.timeout : Int) = value := by
    rw [(carries_of_ofLayer made).timeout, counted, same]
  refine ⟨range.1, range.2, carried, ?_⟩
  rw [same, ← carried]
  exact toNat_toUInt64_ofInt settings.timeout (by omega)

private theorem TimeoutKept.of_held {layer : Layer} {value : Int} (held : layer.timeout = some (clampToWord value))
    (grammar : String) : TimeoutKept value layer (Snapshot.ofLayer grammar layer) := by
  have decided := Snapshot.decided_ofLayer grammar layer
  have counted := Layer.values_timeout held
  refine ⟨held, clampToWord_eq value, sign_clampToWord value, toInt_clampToWord value, ?_, ?_,
    fun settings made => Snapshot.timeout_of_ofLayer held made⟩
  · intro others low high
    have range := counted ▸ (clampToWord_inside_iff value).mpr ⟨low, high⟩
    obtain ⟨settings, made⟩ := decided.accepted.mpr
      ⟨others.colors, others.unmatchedColor, others.colorMode, range, others.pairs⟩
    exact ⟨settings, made, (Snapshot.timeout_of_ofLayer held made).2.2.1⟩
  · intro others outside
    have beyond : layer.values.timeout < 0 ∨ 10000 < layer.values.timeout := by
      have range := clampToWord_inside_iff value
      omega
    rw [← counted]
    exact (decided.rejected _).mpr
      (.timeout others.colors others.unmatchedColor others.colorMode beyond)

/-- Every timeout is read into its layer as a word, and each layer of merged documents holds the last one that it
is given. Of the timeouts for a grammar and a path the last counts: as it is, if it is in the range, and else it is
what the settings are turned down for. -/
theorem Config.resolveAt_timeout {documents : List (List Node)} {configs : List Config}
    (read : List.Forall₂ (fun nodes config => Config.ofNodes nodes = .ok config) documents configs) :
    (∀ layer : Layer, ∀ node value, timeout? node = some value →
      layer.readSetting node = .ok { layer with timeout := some (clampToWord value) }) ∧
    (configs.foldl merge .empty).HoldsTimeouts documents.flatten ∧
    ∀ grammar path value, (timeoutsFor grammar path documents.flatten).getLast? = some value →
      TimeoutKept value ((configs.foldl merge .empty).effective grammar path)
        (Snapshot.resolveAt (configs.foldl merge .empty) grammar path) := by
  have holds : (configs.foldl merge .empty).HoldsTimeouts documents.flatten :=
    HoldsTimeouts.nil.foldl_merge read
  refine ⟨fun layer node value written => Layer.readSetting_timeout written layer, holds, ?_⟩
  intro grammar path value last
  refine TimeoutKept.of_held ?_ grammar
  rw [holds.effective grammar path]
  unfold lastWord
  rw [last, Option.map_some]

/-- A document that asks for far too long and another one that puts it right for one grammar. -/
def impatient : List (List Node) :=
  [[⟨"timeout", [⟨none, .integer 1_000_000_000_000_000_000_000⟩], none⟩],
    [⟨"language", [⟨none, .string "vue"⟩],
      some [⟨"timeout", [⟨none, .integer (-1)⟩], none⟩, ⟨"timeout", [⟨none, .integer 10000⟩], none⟩]⟩]]

def impatientConfigs : List Config :=
  [{ global := { timeout := some 0x7fff_ffff_ffff_ffff } },
    { languages := [⟨"vue", { timeout := some 10000 }⟩] }]

private theorem Layer.othersInOrder_of_timeout (timeout : Option Int) :
    Layer.OthersInOrder { timeout := timeout } := by
  have inOrder : Layer.empty.values.InOrder :=
    (Snapshot.decided_ofLayer "" .empty).accepted.mp ⟨_, rfl⟩
  exact ⟨inOrder.colors, inOrder.unmatchedColor, inOrder.colorMode, inOrder.pairs⟩

theorem Config.resolveAt_timeout_impatient :
    List.Forall₂ (fun nodes config => Config.ofNodes nodes = .ok config) impatient impatientConfigs ∧
      Snapshot.resolveAt (impatientConfigs.foldl merge .empty) "css" [] =
        .error (.timeoutOutOfRange 0x7fff_ffff_ffff_ffff) ∧
      ∃ settings, Snapshot.resolveAt (impatientConfigs.foldl merge .empty) "vue" [] = .ok settings ∧
        (settings.timeout : Int) = 10000 := by
  have read : List.Forall₂ (fun nodes config => Config.ofNodes nodes = .ok config)
      impatient impatientConfigs := .cons rfl (.cons rfl .nil)
  obtain ⟨_set, _holds, counts⟩ := resolveAt_timeout read
  refine ⟨read, ?_, ?_⟩
  · exact (counts "css" [] 1_000_000_000_000_000_000_000 (by decide)).outside
      (Layer.othersInOrder_of_timeout _) (Or.inr (by decide))
  · exact (counts "vue" [] 10000 (by decide)).inside
      (Layer.othersInOrder_of_timeout _) (by decide) (by decide)

end BracketDecoration.Settings
