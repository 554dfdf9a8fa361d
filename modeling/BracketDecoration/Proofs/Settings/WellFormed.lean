import BracketDecoration.Proofs.Settings.FirstFault
import BracketDecoration.Settings.Reader

/-!
Which documents spell a configuration, and what is wrong with the others. Well-formed nodes are described level
by level: pairs, settings, and the nodes of the top level. A document is read exactly if all its nodes are well
formed, and otherwise the fault is that of the first node that is not.
-/

namespace BracketDecoration.Settings

open Kdl (Node Value)

/-! ### Well-formed nodes -/

inductive Kind.Holds : Kind → Value → Prop where
  | bool (value : Bool) : Holds .bool (.bool value)
  | int (value : Int) : Holds .int (.integer value)
  | string (text : String) : Holds .string (.string text)

def Kind.isSingle : Kind → Bool
  | .bool | .int | .string => true
  | .stringList | .pairs => false

structure PairNode (node : Node) : Prop where
  named : node.name = "pair"
  opening : ∃ token, node.arguments[0]? = some (.string token)
  closing : ∃ token, node.arguments[1]? = some (.string token)

/-- What the node of a setting has to bring. All else that it has does not count. -/
inductive Setting.Accepts (setting : Setting) (node : Node) : Prop where
  | single (one : setting.kind.isSingle = true) (value : Value)
      (first : node.arguments.head? = some value) (fits : setting.kind.Holds value)
  | list (many : setting.kind = .stringList) (each : ∀ value ∈ node.arguments, Kind.string.Holds value)
  | pairs (paired : setting.kind = .pairs) (children : List Node) (block : node.children = some children)
      (each : ∀ child ∈ children, PairNode child)

def SettingNode (node : Node) : Prop :=
  ∃ setting : Setting, node.name = setting.key ∧ setting.Accepts node

/-- A node of the top level: a block for a grammar or for paths, or a setting. -/
inductive TopNode (node : Node) : Prop where
  | language (named : node.name = "language") (grammar : String)
      (first : node.arguments.head? = some (.string grammar))
      (each : ∀ child ∈ node.children.getD [], SettingNode child)
  | scope (named : node.name = "scope") (source : String)
      (first : node.arguments.head? = some (.string source))
      (each : ∀ child ∈ node.children.getD [], SettingNode child)
      (compiled : ∃ pattern, Glob.parse source = .ok pattern)
  | setting (known : SettingNode node)

/-! ### Faults -/

inductive TokenFault (side : String) : Option Value → Error → Prop where
  | missing : TokenFault side none (.missing ("pair " ++ side ++ " token"))
  | mismatch (value : Value) (unfit : ¬Kind.string.Holds value) :
      TokenFault side (some value) (.kindMismatch "pair" "string" value.typeName)

inductive PairNodeFault (node : Node) : Error → Prop where
  | misnamed (other : node.name ≠ "pair") : PairNodeFault node (.unknownSetting node.name (some "pair"))
  | opening {fault : Error} (named : node.name = "pair")
      (found : TokenFault "open" node.arguments[0]? fault) : PairNodeFault node fault
  | closing {fault : Error} (named : node.name = "pair")
      (opening : ∃ token, node.arguments[0]? = some (.string token))
      (found : TokenFault "close" node.arguments[1]? fault) : PairNodeFault node fault

/-- What is said of the kind of the first argument where a block is expected. -/
def firstTypeName (node : Node) : String :=
  (node.arguments.head?.map Value.typeName).getD "nothing"

inductive Setting.Fault (setting : Setting) (node : Node) : Error → Prop where
  | missing (one : setting.kind.isSingle = true) (absent : node.arguments = []) :
      Fault setting node (.missing (setting.key ++ " value"))
  | mismatch (one : setting.kind.isSingle = true) (value : Value)
      (first : node.arguments.head? = some value) (unfit : ¬setting.kind.Holds value) :
      Fault setting node (.kindMismatch setting.key setting.kind.name value.typeName)
  | list (many : setting.kind = .stringList) (before : List Value) (value : Value) (after : List Value)
      (placed : node.arguments = before ++ value :: after)
      (earlier : ∀ other ∈ before, Kind.string.Holds other) (unfit : ¬Kind.string.Holds value) :
      Fault setting node (.kindMismatch setting.key setting.kind.name value.typeName)
  | blockless (paired : setting.kind = .pairs) (childless : node.children = none) :
      Fault setting node (.kindMismatch setting.key setting.kind.name (firstTypeName node))
  | pair {fault : Error} (paired : setting.kind = .pairs) (children : List Node)
      (block : node.children = some children) (found : FirstFault PairNode PairNodeFault children fault) :
      Fault setting node fault

inductive SettingNodeFault (node : Node) : Error → Prop where
  | unknown (unlisted : ∀ setting : Setting, node.name ≠ setting.key) :
      SettingNodeFault node (.unknownSetting node.name (Setting.suggest? node.name))
  | value {fault : Error} (setting : Setting) (named : node.name = setting.key)
      (found : setting.Fault node fault) : SettingNodeFault node fault

/-- In a block the name comes first, then the children in order, and the pattern last. -/
inductive TopFault (node : Node) : Error → Prop where
  | nameless (block : String) (listed : block = "language" ∨ block = "scope") (named : node.name = block)
      (absent : ∀ name, node.arguments.head? ≠ some (.string name)) :
      TopFault node (.missing (block ++ " name"))
  | child {fault : Error} (listed : node.name = "language" ∨ node.name = "scope") (name : String)
      (first : node.arguments.head? = some (.string name))
      (found : FirstFault SettingNode SettingNodeFault (node.children.getD []) fault) : TopFault node fault
  | pattern (named : node.name = "scope") (source : String)
      (first : node.arguments.head? = some (.string source))
      (each : ∀ child ∈ node.children.getD [], SettingNode child) (cause : Glob.Error)
      (broken : Glob.parse source = .error cause) : TopFault node (.badScope source cause)
  | setting {fault : Error} (neither : node.name ≠ "language" ∧ node.name ≠ "scope")
      (found : SettingNodeFault node fault) : TopFault node fault

/-! ### The table of settings -/

namespace Setting

theorem find?_key (setting : Setting) : find? setting.key = some setting := by
  cases setting with
  | _ => decide

theorem key_injective {first second : Setting} (same : first.key = second.key) : first = second := by
  have found := find?_key first
  rw [same, find?_key second] at found
  exact (Option.some.inj found).symm

theorem key_of_find? {key : String} {setting : Setting} (found : find? key = some setting) :
    key = setting.key := by
  have same := List.find?_some found
  exact (of_decide_eq_true same).symm

private theorem ne_key_of_find? {key : String} (missing : find? key = none) (setting : Setting) :
    key ≠ setting.key := by
  rintro rfl
  rw [find?_key] at missing
  cases missing

end Setting

/-! ### Values -/

theorem string?_iff (value : Value) : (∃ text, value.string? = some text) ↔ Kind.string.Holds value := by
  cases value with
  | string text => exact iff_of_true ⟨text, rfl⟩ (.string text)
  | integer | float | bool | null => exact iff_of_false nofun nofun

theorem bool?_iff (value : Value) : (∃ truth, value.bool? = some truth) ↔ Kind.bool.Holds value := by
  cases value with
  | bool truth => exact iff_of_true ⟨truth, rfl⟩ (.bool truth)
  | string | integer | float | null => exact iff_of_false nofun nofun

theorem integer?_iff (value : Value) :
    (∃ number, value.integer? = some number) ↔ Kind.int.Holds value := by
  cases value with
  | integer number => exact iff_of_true ⟨number, rfl⟩ (.int number)
  | string | float | bool | null => exact iff_of_false nofun nofun

theorem holds_string_iff (value : Value) : Kind.string.Holds value ↔ ∃ text, value = .string text := by
  constructor
  · intro fits
    cases fits with
    | string text => exact ⟨text, rfl⟩
  · rintro ⟨text, rfl⟩
    exact .string text

variable {α : Type}

/-- A value is read with success exactly if it is of the kind. -/
theorem decided_read {kind : Kind} {read? : Value → Option α}
    (reads : ∀ value, (∃ result, read? value = some result) ↔ kind.Holds value) (value : Value)
    (cause : Error) {result : Except Error α}
    (present : ∀ found, read? value = some found → result = .ok found)
    (absent : read? value = none → result = .error cause) :
    Decided result (kind.Holds value) fun fault => ¬kind.Holds value ∧ cause = fault := by
  rw [← reads]
  exact .found present absent

/-! ### Pairs -/

theorem decided_pairToken (side : String) (value? : Option Value) :
    Decided (pairToken side value?) (∃ token, value? = some (.string token)) (TokenFault side value?) := by
  cases value? with
  | none =>
      refine .error nofun fun fault => ?_
      constructor
      · rintro rfl
        exact .missing
      · rintro ⟨⟩
        rfl
  | some value =>
      have decided := decided_read string?_iff value (.kindMismatch "pair" "string" value.typeName)
        (fun token read => show pairToken side (some value) = .ok token by simp only [pairToken, read])
        (fun unread => by simp only [pairToken, unread, Kind.name])
      refine decided.congr ?_ fun fault => ?_
      · simp only [holds_string_iff, Option.some.injEq]
      · constructor
        · rintro ⟨unfit, rfl⟩
          exact .mismatch value unfit
        · intro found
          cases found with
          | mismatch _value unfit => exact ⟨unfit, rfl⟩

private theorem readPair_misnamed {node : Node} (other : node.name ≠ "pair") :
    readPair node = .error (.unknownSetting node.name (some "pair")) := by
  unfold readPair
  rw [if_pos other]
  rfl

private theorem readPair_named {node : Node} (named : node.name = "pair") :
    readPair node = pairToken "open" node.arguments[0]? >>= fun opening =>
      pairToken "close" node.arguments[1]? >>= fun closing => pure ⟨opening, closing⟩ := by
  unfold readPair
  rw [if_neg (not_not_intro named)]

theorem decided_readPair (node : Node) : Decided (readPair node) (PairNode node) (PairNodeFault node) := by
  by_cases named : node.name = "pair"
  · rw [readPair_named named]
    have decided := (decided_pairToken "open" node.arguments[0]?).bind fun opening _passed =>
      (decided_pairToken "close" node.arguments[1]?).map (Pair.mk opening)
    refine decided.congr ?_ fun fault => ?_
    · exact ⟨fun ⟨opening, closing⟩ => ⟨named, opening, closing⟩,
        fun ⟨_named, opening, closing⟩ => ⟨opening, closing⟩⟩
    · constructor
      · rintro (found | ⟨opening, found⟩)
        · exact .opening named found
        · exact .closing named opening found
      · intro found
        cases found with
        | misnamed other => exact absurd named other
        | opening _named found => exact Or.inl found
        | closing _named opening found => exact Or.inr ⟨opening, found⟩
  · rw [readPair_misnamed named]
    refine .error (fun pair => named pair.named) fun fault => ?_
    constructor
    · rintro rfl
      exact .misnamed named
    · intro found
      cases found with
      | misnamed _other => rfl
      | opening other | closing other => exact absurd other named

/-! ### Settings -/

theorem readPairs_blockless {node : Node} (childless : node.children = none) :
    readPairs node = .error (.kindMismatch Setting.pairs.key Setting.pairs.kind.name (firstTypeName node)) := by
  unfold readPairs firstTypeName
  rw [childless]
  cases node.arguments.head? with
  | _ => rfl

theorem Setting.accepts_pairs_iff {node : Node} {children : List Node} (block : node.children = some children) :
    Setting.pairs.Accepts node ↔ ∀ child ∈ children, PairNode child := by
  constructor
  · intro accepted
    cases accepted with
    | pairs _paired others present each =>
        cases block.symm.trans present
        exact each
    | single impossible | list impossible => cases impossible
  · exact .pairs rfl children block

theorem Setting.fault_pairs_iff {node : Node} {children : List Node} (block : node.children = some children)
    (fault : Error) : Setting.pairs.Fault node fault ↔ FirstFault PairNode PairNodeFault children fault := by
  constructor
  · intro found
    cases found with
    | pair _paired others present found =>
        cases block.symm.trans present
        exact found
    | blockless _paired childless => cases block.symm.trans childless
    | missing impossible | mismatch impossible | list impossible => cases impossible
  · exact .pair rfl children block

private theorem Setting.not_accepts_of_blockless {node : Node} (childless : node.children = none) :
    ¬Setting.pairs.Accepts node := by
  intro accepted
  cases accepted with
  | pairs _paired children present => cases childless.symm.trans present
  | single impossible | list impossible => cases impossible

theorem Setting.fault_blockless_iff {node : Node} (childless : node.children = none) (fault : Error) :
    Setting.pairs.Fault node fault ↔
      .kindMismatch Setting.pairs.key Setting.pairs.kind.name (firstTypeName node) = fault := by
  constructor
  · intro found
    cases found with
    | blockless => rfl
    | pair _paired children present => cases childless.symm.trans present
    | missing impossible | mismatch impossible | list impossible => cases impossible
  · rintro rfl
    exact .blockless rfl childless

theorem decided_readPairs (node : Node) :
    Decided (readPairs node) (Setting.pairs.Accepts node) (Setting.pairs.Fault node) := by
  cases block : node.children with
  | none =>
      rw [readPairs_blockless block]
      exact .error (Setting.not_accepts_of_blockless block) fun fault =>
        (Setting.fault_blockless_iff block fault).symm
  | some children =>
      have read : readPairs node = children.mapM readPair := by
        unfold readPairs
        rw [block]
      rw [read]
      exact (Decided.mapM decided_readPair children).congr (Setting.accepts_pairs_iff block).symm fun fault =>
        (Setting.fault_pairs_iff block fault).symm

theorem Setting.accepts_colors_iff (node : Node) :
    Setting.colors.Accepts node ↔ ∀ value ∈ node.arguments, Kind.string.Holds value := by
  constructor
  · intro accepted
    cases accepted with
    | list _many each => exact each
    | single impossible | pairs impossible => cases impossible
  · exact .list rfl

theorem Setting.fault_colors_iff (node : Node) (fault : Error) :
    Setting.colors.Fault node fault ↔
      FirstFault Kind.string.Holds (fun value fault => ¬Kind.string.Holds value ∧
        .kindMismatch Setting.colors.key Setting.colors.kind.name value.typeName = fault)
        node.arguments fault := by
  constructor
  · intro found
    cases found with
    | list _many before value after placed earlier unfit =>
        exact ⟨before, value, after, placed, earlier, unfit, rfl⟩
    | missing impossible | mismatch impossible | blockless impossible | pair impossible => cases impossible
  · rintro ⟨before, value, after, placed, earlier, unfit, rfl⟩
    exact .list rfl before value after placed earlier unfit

theorem decided_stringValues (node : Node) :
    Decided (stringValues node .colors) (Setting.colors.Accepts node) (Setting.colors.Fault node) := by
  unfold stringValues
  refine (Decided.mapM (fun value => decided_read string?_iff value
    (.kindMismatch Setting.colors.key Setting.colors.kind.name value.typeName)
    (fun text read => by rw [read]) (fun unread => by rw [unread])) node.arguments).congr ?_ fun fault => ?_
  · exact (Setting.accepts_colors_iff node).symm
  · exact (Setting.fault_colors_iff node fault).symm

theorem Setting.accepts_single_iff {setting : Setting} (one : setting.kind.isSingle = true) (node : Node) :
    setting.Accepts node ↔
      ∃ value, node.arguments.head? = some value ∧ setting.kind.Holds value := by
  constructor
  · intro accepted
    cases accepted with
    | single _one value first fits => exact ⟨value, first, fits⟩
    | list other | pairs other =>
        rw [other] at one
        cases one
  · rintro ⟨value, first, fits⟩
    exact .single one value first fits

theorem Setting.fault_single_iff {setting : Setting} (one : setting.kind.isSingle = true) (node : Node)
    (fault : Error) :
    setting.Fault node fault ↔
      (node.arguments = [] ∧ .missing (setting.key ++ " value") = fault) ∨
        ∃ value, node.arguments.head? = some value ∧ ¬setting.kind.Holds value ∧
          .kindMismatch setting.key setting.kind.name value.typeName = fault := by
  constructor
  · intro found
    cases found with
    | missing _one absent => exact Or.inl ⟨absent, rfl⟩
    | mismatch _one value first unfit => exact Or.inr ⟨value, first, unfit, rfl⟩
    | list other | blockless other | pair other =>
        rw [other] at one
        cases one
  · rintro (⟨absent, rfl⟩ | ⟨value, first, unfit, rfl⟩)
    · exact .missing one absent
    · exact .mismatch one value first unfit

theorem decided_firstValue {setting : Setting} (one : setting.kind.isSingle = true)
    {read? : Value → Option α} (node : Node)
    (reads : ∀ value, (∃ result, read? value = some result) ↔ setting.kind.Holds value) :
    Decided (firstValue node setting read?) (setting.Accepts node) (setting.Fault node) := by
  rw [Setting.accepts_single_iff one]
  unfold firstValue
  cases first : node.arguments.head? with
  | none =>
      have absent := List.head?_eq_none_iff.mp first
      refine .error nofun fun fault => ?_
      rw [Setting.fault_single_iff one, and_iff_right absent, first]
      exact (or_iff_left nofun).symm
  | some value =>
      dsimp only
      refine (decided_read reads value (.kindMismatch setting.key setting.kind.name value.typeName)
        (fun result read => by rw [read]) (fun unread => by rw [unread])).congr ?_ fun fault => ?_
      · simp only [Option.some.injEq, exists_eq_left']
      · have present : node.arguments ≠ [] := by
          intro absent
          rw [absent] at first
          cases first
        simp only [Setting.fault_single_iff one, present, first, Option.some.injEq, exists_eq_left',
          false_and, false_or]

theorem decided_readValue (setting : Setting) (layer : Layer) {node : Node} (named : node.name = setting.key) :
    Decided (layer.readSetting node) (setting.Accepts node) (setting.Fault node) := by
  unfold Layer.readSetting
  rw [named, Setting.find?_key]
  cases setting with
  | colors => exact (decided_stringValues node).map _
  | unmatchedColor | colorMode => exact (decided_firstValue rfl node string?_iff).map _
  | forceUniqueOpeningColor | forceIterationColorCycle | highlightActiveScope =>
      exact (decided_firstValue rfl node bool?_iff).map _
  | timeout => exact (decided_firstValue rfl node integer?_iff).map _
  | pairs => exact (decided_readPairs node).map _

theorem decided_readSetting (layer : Layer) (node : Node) :
    Decided (layer.readSetting node) (SettingNode node) (SettingNodeFault node) := by
  cases found : Setting.find? node.name with
  | none =>
      have unlisted := Setting.ne_key_of_find? found
      have read : layer.readSetting node =
          .error (.unknownSetting node.name (Setting.suggest? node.name)) := by
        unfold Layer.readSetting
        rw [found]
      rw [read]
      refine .error (fun ⟨setting, named, _accepted⟩ => unlisted setting named) fun fault => ?_
      constructor
      · rintro rfl
        exact .unknown unlisted
      · intro faulty
        cases faulty with
        | unknown => rfl
        | value setting named => exact absurd named (unlisted setting)
  | some setting =>
      have named := Setting.key_of_find? found
      refine (decided_readValue setting layer named).congr ?_ fun fault => ?_
      · constructor
        · exact fun accepted => ⟨setting, named, accepted⟩
        · rintro ⟨other, also, accepted⟩
          rwa [Setting.key_injective (named.symm.trans also)]
      · constructor
        · exact .value setting named
        · intro faulty
          cases faulty with
          | unknown unlisted => exact absurd named (unlisted setting)
          | value other also faulty => rwa [Setting.key_injective (named.symm.trans also)]

theorem decided_ofBlock (node : Node) :
    Decided (Layer.ofBlock node) (∀ child ∈ node.children.getD [], SettingNode child)
      (FirstFault SettingNode SettingNodeFault (node.children.getD [])) :=
  .foldlM decided_readSetting _ _

/-! ### The top level -/

theorem firstString_eq_some_iff (node : Node) (name : String) :
    node.arguments.head?.bind Value.string? = some name ↔
      node.arguments.head? = some (.string name) := by
  cases node.arguments.head? with
  | none => exact ⟨nofun, nofun⟩
  | some value =>
      cases value with
      | string text =>
          change some text = some name ↔ _
          rw [Option.some.injEq, Option.some.injEq, Value.string.injEq]
      | _ => exact ⟨nofun, nofun⟩

theorem first_of_blockName {node : Node} {block name : String} (read : blockName node block = .ok name) :
    node.arguments.head? = some (.string name) := by
  rw [← firstString_eq_some_iff]
  unfold blockName at read
  split at read
  · rename_i found
    cases read
    exact found
  · cases read

theorem decided_blockName (node : Node) (block : String) :
    Decided (blockName node block) (∃ name, node.arguments.head? = some (.string name)) fun fault =>
      (¬∃ name, node.arguments.head? = some (.string name)) ∧ .missing (block ++ " name") = fault := by
  simp only [← firstString_eq_some_iff]
  exact .found (fun name read => by rw [blockName, read]) (fun unread => by rw [blockName, unread])

theorem decided_make {node : Node} {source : String} (first : node.arguments.head? = some (.string source))
    (layer : Layer) :
    Decided (ScopeBlock.make source layer)
      (∃ source, node.arguments.head? = some (.string source) ∧ ∃ pattern, Glob.parse source = .ok pattern)
      fun fault => ∃ source cause, node.arguments.head? = some (.string source) ∧
        Glob.parse source = .error cause ∧ .badScope source cause = fault := by
  unfold ScopeBlock.make
  simp only [first, Option.some.injEq, Value.string.injEq, exists_and_left, exists_eq_left']
  cases Glob.parse source with
  | ok pattern => exact (Decided.ok _).congr (iff_of_true trivial ⟨pattern, rfl⟩) fun _fault => ⟨nofun, nofun⟩
  | error cause =>
      refine .error nofun fun fault => ?_
      simp only [Except.error.injEq, exists_eq_left']

theorem SettingNode.name_ne {node : Node} (known : SettingNode node) :
    node.name ≠ "language" ∧ node.name ≠ "scope" := by
  obtain ⟨setting, named, _accepted⟩ := known
  rw [named]
  cases setting with
  | _ => decide

theorem readNode_language {node : Node} (named : node.name = "language") (config : Config) :
    config.readNode node = blockName node "language" >>= fun grammar => Layer.ofBlock node >>= fun layer =>
      pure { config with languages := config.languages ++ [⟨grammar, layer⟩] } := by
  unfold Config.readNode
  rw [if_pos named]

theorem readNode_scope {node : Node} (named : node.name = "scope") (config : Config) :
    config.readNode node = blockName node "scope" >>= fun source => Layer.ofBlock node >>= fun layer =>
      ScopeBlock.make source layer >>= fun block =>
        pure { config with scopes := config.scopes ++ [block] } := by
  unfold Config.readNode
  rw [if_neg (by rw [named]; decide), if_pos named]

theorem readNode_setting {node : Node} (notLanguage : node.name ≠ "language") (notScope : node.name ≠ "scope")
    (config : Config) :
    config.readNode node = config.global.readSetting node >>= fun layer =>
      pure { config with global := layer } := by
  unfold Config.readNode
  rw [if_neg notLanguage, if_neg notScope]

theorem decided_readLanguage (config : Config) {node : Node} (named : node.name = "language") :
    Decided (config.readNode node) (TopNode node) (TopFault node) := by
  have other : node.name ≠ "scope" := by rw [named]; decide
  rw [readNode_language named]
  refine ((decided_blockName node "language").bind fun grammar _read =>
    (decided_ofBlock node).map fun layer =>
      { config with languages := config.languages ++ [LanguageBlock.mk grammar layer] }).congr ?_
    fun fault => ?_
  · constructor
    · rintro ⟨⟨grammar, first⟩, each⟩
      exact .language named grammar first each
    · intro known
      cases known with
      | language _named grammar first each => exact ⟨⟨grammar, first⟩, each⟩
      | scope misnamed => exact absurd misnamed other
      | setting known => exact absurd named known.name_ne.1
  · constructor
    · rintro (⟨absent, rfl⟩ | ⟨⟨grammar, first⟩, found⟩)
      · exact .nameless "language" (Or.inl rfl) named (not_exists.mp absent)
      · exact .child (Or.inl named) grammar first found
    · intro faulty
      cases faulty with
      | nameless block _listed same absent =>
          cases named.symm.trans same
          exact Or.inl ⟨not_exists.mpr absent, rfl⟩
      | child _listed grammar first found => exact Or.inr ⟨⟨grammar, first⟩, found⟩
      | pattern misnamed => exact absurd misnamed other
      | setting neither => exact absurd named neither.1

theorem decided_readScope (config : Config) {node : Node} (named : node.name = "scope") :
    Decided (config.readNode node) (TopNode node) (TopFault node) := by
  have other : node.name ≠ "language" := by rw [named]; decide
  rw [readNode_scope named]
  refine ((decided_blockName node "scope").bind fun source read =>
    (decided_ofBlock node).bind fun layer _read =>
      (decided_make (first_of_blockName read) layer).map fun block =>
        { config with scopes := config.scopes ++ [block] }).congr ?_ fun fault => ?_
  · constructor
    · rintro ⟨_named, each, source, first, compiled⟩
      exact .scope named source first each compiled
    · intro known
      cases known with
      | language misnamed => exact absurd misnamed other
      | scope _named source first each compiled => exact ⟨⟨source, first⟩, each, source, first, compiled⟩
      | setting known => exact absurd named known.name_ne.2
  · constructor
    · rintro (⟨absent, rfl⟩ | ⟨⟨source, first⟩, found | ⟨each, source, cause, first, broken, rfl⟩⟩)
      · exact .nameless "scope" (Or.inr rfl) named (not_exists.mp absent)
      · exact .child (Or.inr named) source first found
      · exact .pattern named source first each cause broken
    · intro faulty
      cases faulty with
      | nameless block _listed same absent =>
          cases named.symm.trans same
          exact Or.inl ⟨not_exists.mpr absent, rfl⟩
      | child _listed source first found => exact Or.inr ⟨⟨source, first⟩, Or.inl found⟩
      | pattern _named source first each cause broken =>
          exact Or.inr ⟨⟨source, first⟩, Or.inr ⟨each, source, cause, first, broken, rfl⟩⟩
      | setting neither => exact absurd named neither.2

theorem decided_readNode (config : Config) (node : Node) :
    Decided (config.readNode node) (TopNode node) (TopFault node) := by
  by_cases language : node.name = "language"
  · exact decided_readLanguage config language
  · by_cases scope : node.name = "scope"
    · exact decided_readScope config scope
    · rw [readNode_setting language scope]
      refine ((decided_readSetting config.global node).map _).congr ?_ fun fault => ?_
      · constructor
        · exact .setting
        · intro known
          cases known with
          | language named => exact absurd named language
          | scope named => exact absurd named scope
          | setting known => exact known
      · constructor
        · exact .setting ⟨language, scope⟩
        · intro faulty
          cases faulty with
          | nameless block listed named =>
              rcases listed with rfl | rfl
              · exact absurd named language
              · exact absurd named scope
          | child listed => exact absurd listed (not_or_intro language scope)
          | pattern named => exact absurd named scope
          | setting _neither found => exact found

/-- A document is read exactly if all its nodes are well formed. The fault of another one is that of its first
node that is not. -/
theorem Config.ofNodes_iff (nodes : List Node) :
    ((∃ config, Config.ofNodes nodes = .ok config) ↔ ∀ node ∈ nodes, TopNode node) ∧
      ∀ fault, Config.ofNodes nodes = .error fault ↔ FirstFault TopNode TopFault nodes fault :=
  have decided := Decided.foldlM decided_readNode nodes .empty
  ⟨decided.accepted, decided.rejected⟩

end BracketDecoration.Settings
