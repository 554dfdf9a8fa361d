import BracketDecoration.Proofs.Decoration.Actions

namespace BracketDecoration.Decoration.Manager

open Editor (Document)

variable {κ : Type}

private theorem not_created_mem_told {addressee engine : Nat} {delivery : Option Delivery}
    {uri grammar : String} : .created engine uri grammar ∉ told addressee delivery := by
  intro logged
  cases isDelivery_of_mem_told logged

private theorem Effect.entry {manager : Manager κ} {action : Action} {events : List Event}
    {registry : Registry} {made : Nat} (effect : Effect manager action events registry made)
    (entry : Entry) (member : entry ∈ registry.entries) :
    entry ∈ manager.registry.entries ∨
      ∃ document delivery, action = .present document delivery ∧ entry.key = document.key ∧
        manager.settingsFor document = .ok entry.engine.settings ∧
        .created entry.engine.id document.uri.text entry.engine.settings.grammar ∈ events := by
  cases effect with
  | made document delivery settings valid untracked accepted =>
      rcases List.mem_append.mp member with older | newest
      · exact Or.inl older
      · rw [List.mem_singleton.mp newest]
        exact Or.inr ⟨document, delivery, rfl, rfl, accepted, List.mem_cons_self⟩
  | discarded key engine found => exact Or.inl (List.mem_filter.mp member).1
  | cleared => cases member
  | _ => exact Or.inl member

/-- Only the presentation of a valid document without an engine brings the making of an engine into the log,
and at most a delivery to that engine comes with it. -/
theorem Effect.creation {manager : Manager κ} {action : Action} {events : List Event}
    {registry : Registry} {made engine : Nat} {uri grammar : String}
    (effect : Effect manager action events registry made)
    (logged : .created engine uri grammar ∈ events) :
    ∃ document delivery settings, action = .present document delivery ∧
      document.isValid = true ∧ document.uri.text = uri ∧
      engine = manager.factory.created + 1 ∧ engine = made ∧
      manager.registry.find? document.key = none ∧
      registry = manager.registry.insert document.key ⟨engine, settings⟩ ∧
      events = .created engine uri grammar :: told engine delivery := by
  cases effect with
  | reached document delivery addressee valid found => exact absurd logged not_created_mem_told
  | made document delivery settings valid untracked accepted =>
      rcases List.mem_cons.mp logged with same | delivered
      · cases same
        exact ⟨document, delivery, settings, rfl, valid, rfl, rfl, rfl, untracked, rfl, rfl⟩
      · exact absurd delivered not_created_mem_told
  | discarded key disposed found => cases List.mem_singleton.mp logged
  | cleared =>
      obtain ⟨disposed, _present, same⟩ := List.mem_map.mp logged
      cases same
  | _ => cases logged

variable [Grammar.Tokenizer κ]

/-- The origin of an engine among actions: the document whose presentation logs the making of the engine,
between the actions before and after it. -/
structure Origin (start : Manager κ) (actions : List Action) (engine : Nat) (before : List Action)
    (document : Document) (delivery : Option Delivery) (after : List Action) : Prop where
  cut : actions = before ++ .present document delivery :: after
  made : ∃ grammar, .created engine document.uri.text grammar ∈
    (start.performAll before).issues (.present document delivery)

theorem Origin.cons {start : Manager κ} {actions before after : List Action} {engine : Nat}
    {document : Document} {delivery : Option Delivery} (action : Action)
    (origin : Origin (start.perform action) actions engine before document delivery after) :
    Origin start (action :: actions) engine (action :: before) document delivery after where
  cut := by rw [origin.cut, List.cons_append]
  made := origin.made

theorem Origin.append {start : Manager κ} {actions before after : List Action} {engine : Nat}
    {document : Document} {delivery : Option Delivery} (earlier : List Action)
    (origin : Origin (start.performAll earlier) actions engine before document delivery after) :
    Origin start (earlier ++ actions) engine (earlier ++ before) document delivery after where
  cut := by rw [origin.cut, List.append_assoc]
  made := by
    rw [performAll_append]
    exact origin.made

private theorem Origin.number {start : Manager κ} {actions before after : List Action} {engine : Nat}
    {document : Document} {delivery : Option Delivery}
    (origin : Origin start actions engine before document delivery after) :
    engine = (start.performAll before).factory.created + 1 ∧
      engine = (start.performAll (before ++ [.present document delivery])).factory.created := by
  obtain ⟨grammar, logged⟩ := origin.made
  obtain ⟨presented, delivered, settings, _same, _valid, _written, next, counted, _⟩ :=
    ((start.performAll before).effect_perform _).creation logged
  rw [performAll_append]
  exact ⟨next, counted⟩

private theorem Origin.not_later {start : Manager κ} {actions before after before' after' : List Action}
    {engine : Nat} {document document' : Document} {delivery delivery' : Option Delivery}
    (origin : Origin start actions engine before document delivery after)
    (later : Origin start actions engine before' document' delivery' after') (rest : List Action) :
    before' ≠ before ++ .present document delivery :: rest := by
  intro longer
  have reached := origin.number.2
  have next := later.number.1
  have bound := created_le_performAll (start.performAll (before ++ [.present document delivery])) rest
  rw [← performAll_append, List.append_assoc, List.singleton_append, ← longer] at bound
  omega

theorem Origin.unique {start : Manager κ} {actions before after before' after' : List Action}
    {engine : Nat} {document document' : Document} {delivery delivery' : Option Delivery}
    (origin : Origin start actions engine before document delivery after)
    (other : Origin start actions engine before' document' delivery' after') :
    before = before' ∧ document = document' ∧ delivery = delivery' ∧ after = after' := by
  have cut := origin.cut.symm.trans other.cut
  rcases List.append_eq_append_iff.mp cut with ⟨between, longer, rest⟩ | ⟨between, longer, rest⟩
  · cases between with
    | nil =>
        rw [List.append_nil] at longer
        cases rest
        exact ⟨longer.symm, rfl, rfl, rfl⟩
    | cons action others =>
        cases rest
        exact absurd longer (origin.not_later other others)
  · cases between with
    | nil =>
        rw [List.append_nil] at longer
        cases rest
        exact ⟨longer, rfl, rfl, rfl⟩
    | cons action others =>
        cases rest
        exact absurd longer (other.not_later origin others)

/-- The origin of an engine, told apart from every other presentation: the engine has no second one. -/
structure SoleOrigin (start : Manager κ) (actions : List Action) (engine : Nat) (before : List Action)
    (document : Document) (delivery : Option Delivery) (after : List Action) : Prop
    extends Origin start actions engine before document delivery after where
  sole {before' after' : List Action} {document' : Document} {delivery' : Option Delivery}
    (other : Origin start actions engine before' document' delivery' after') :
      before = before' ∧ document = document' ∧ delivery = delivery' ∧ after = after'

theorem Origin.isSole {start : Manager κ} {actions before after : List Action} {engine : Nat}
    {document : Document} {delivery : Option Delivery}
    (origin : Origin start actions engine before document delivery after) :
    SoleOrigin start actions engine before document delivery after :=
  ⟨origin, fun other => origin.unique other⟩

theorem exists_origin (start : Manager κ) (actions : List Action) {engine : Nat}
    {uri grammar : String} (logged : .created engine uri grammar ∈ start.issued actions) :
    ∃ before document delivery after, Origin start actions engine before document delivery after ∧
      document.uri.text = uri := by
  induction actions generalizing start with
  | nil => cases logged
  | cons action rest ih =>
      rcases List.mem_append.mp logged with now | later
      · obtain ⟨document, delivery, settings, rfl, _valid, written, _⟩ :=
          (start.effect_perform action).creation now
        subst written
        exact ⟨[], document, delivery, rest, ⟨rfl, grammar, now⟩, rfl⟩
      · obtain ⟨before, document, delivery, after, origin, written⟩ :=
          ih (start.perform action) later
        exact ⟨action :: before, document, delivery, after, origin.cons action, written⟩

theorem entry_origin (start : Manager κ) (actions : List Action) (entry : Entry)
    (member : entry ∈ (start.performAll actions).registry.entries) :
    entry ∈ start.registry.entries ∨
      ∃ before document delivery after,
        Origin start actions entry.engine.id before document delivery after ∧
        entry.key = document.key ∧
        (start.performAll before).settingsFor document = .ok entry.engine.settings := by
  induction actions generalizing start with
  | nil => exact Or.inl member
  | cons action rest ih =>
      rcases ih (start.perform action) member with present | later
      · rcases (start.effect_perform action).entry entry present with older | newest
        · exact Or.inl older
        · obtain ⟨document, delivery, rfl, named, accepted, logged⟩ := newest
          exact Or.inr ⟨[], document, delivery, rest, ⟨rfl, _, logged⟩, named, accepted⟩
      · obtain ⟨before, document, delivery, after, origin, named, accepted⟩ := later
        exact Or.inr ⟨action :: before, document, delivery, after, origin.cons action, named, accepted⟩

theorem settings_origin {start : Manager κ} (untracked : start.registry = .empty)
    (actions : List Action) (entry : Entry)
    (member : entry ∈ (start.performAll actions).registry.entries) :
    ∃ before document delivery after,
      Origin start actions entry.engine.id before document delivery after ∧
      entry.key = document.key ∧
      Settings.Snapshot.resolveAt (before.foldl Action.configAfter start.config)
        (Grammar.idForLanguage document.language) document.uri.documentPath =
          .ok entry.engine.settings := by
  rcases start.entry_origin actions entry member with older | made
  · rw [untracked] at older
    cases older
  · obtain ⟨before, document, delivery, after, origin, named, accepted⟩ := made
    refine ⟨before, document, delivery, after, origin, named, ?_⟩
    rw [settingsFor, config_performAll] at accepted
    exact accepted

def Operation.changesConfig : Operation → Bool
  | .setConfig _ | .withConfig _ => true
  | _ => false

theorem refreshes_keep (documents : List Document) :
    ∀ action ∈ Action.refreshes documents, ∀ config, action.configAfter config = config :=
  forall_refreshes (fun _ _ => rfl) documents

private theorem actions_keep (operation : Operation) (unchanging : operation.changesConfig = false)
    (visible : List Document) :
    ∀ action ∈ operation.actions visible, ∀ config, action.configAfter config = config := by
  cases operation with
  | updateAll => exact refreshes_keep visible
  | reset => exact List.forall_mem_cons.mpr ⟨fun config => rfl, refreshes_keep visible⟩
  | setConfig next => cases unchanging
  | withConfig next => cases unchanging
  | _ => exact List.forall_mem_singleton.mpr fun config => rfl

private theorem actionsOf_keep (visible : List Document) (operations : List Operation)
    (unchanging : ∀ operation ∈ operations, operation.changesConfig = false) :
    ∀ action ∈ actionsOf visible operations, ∀ config, action.configAfter config = config :=
  forall_actionsOf (fun operation member => actions_keep operation (unchanging operation member)) visible

private theorem foldl_configAfter {actions : List Action} {config : Settings.Config}
    (kept : ∀ action ∈ actions, action.configAfter config = config) :
    actions.foldl Action.configAfter config = config := by
  induction actions with
  | nil => rfl
  | cons action rest ih =>
      rw [List.foldl_cons, kept action List.mem_cons_self]
      exact ih fun other present => kept other (List.mem_cons_of_mem action present)

theorem settings_since_setConfig (start : Manager κ) (earlier later : List Operation)
    (config : Settings.Config)
    (kept : ∀ operation ∈ later, operation.changesConfig = false) (entry : Entry)
    (member : entry ∈ (start.run (earlier ++ .setConfig config :: later)).registry.entries) :
    ∃ before document delivery after,
      Origin start (actionsOf start.visible (earlier ++ .setConfig config :: later))
        entry.engine.id before document delivery after ∧
      entry.key = document.key ∧
      Settings.Snapshot.resolveAt config (Grammar.idForLanguage document.language)
        document.uri.documentPath = .ok entry.engine.settings := by
  -- Setting a configuration empties the registry first, and a run from an empty registry is understood.
  let visible := earlier.foldl Operation.visibleAfter start.visible
  let emptying := actionsOf start.visible earlier ++ [.configure config, .discardAll]
  let rest := Action.refreshes visible ++ actionsOf visible later
  have cut : actionsOf start.visible (earlier ++ .setConfig config :: later) = emptying ++ rest := by
    rw [actionsOf_append, List.append_assoc]
    rfl
  have emptied : (start.performAll emptying).registry = .empty := by
    rw [performAll_append]
    rfl
  have configured : (start.performAll emptying).config = config := by
    rw [performAll_append]
    rfl
  have unchanged : ∀ action ∈ rest, action.configAfter config = config := by
    intro action present
    rcases List.mem_append.mp present with refresh | operated
    · exact refreshes_keep visible action refresh config
    · exact actionsOf_keep visible later kept action operated config
  rw [run_eq_performAll, cut, performAll_append] at member
  obtain ⟨before, document, delivery, after, origin, named, accepted⟩ :=
    settings_origin emptied rest entry member
  have kept_before : before.foldl Action.configAfter config = config := by
    refine foldl_configAfter fun action present => unchanged action ?_
    rw [origin.cut]
    exact List.mem_append_left _ present
  rw [configured, kept_before] at accepted
  rw [cut]
  exact ⟨emptying ++ before, document, delivery, after, origin.append emptying, named, accepted⟩

/-- Every engine that is tracked at the end of a run has one origin, and the settings that the configuration in
force there gives to the document of its origin. After a configuration is set and as long as it is kept, this is
that configuration. -/
theorem run_settings (start : Manager κ) (untracked : start.registry = .empty)
    (operations : List Operation) :
    (∀ entry ∈ (start.run operations).registry.entries, ∃ before document delivery after,
      SoleOrigin start (actionsOf start.visible operations) entry.engine.id before document delivery
        after ∧
      entry.key = document.key ∧
      Settings.Snapshot.resolveAt (before.foldl Action.configAfter start.config)
        (Grammar.idForLanguage document.language) document.uri.documentPath =
          .ok entry.engine.settings) ∧
    (∀ earlier config later, operations = earlier ++ .setConfig config :: later →
      (∀ operation ∈ later, operation.changesConfig = false) →
      ∀ entry ∈ (start.run operations).registry.entries, ∃ before document delivery after,
        SoleOrigin start (actionsOf start.visible operations) entry.engine.id before document delivery
          after ∧
        entry.key = document.key ∧
        Settings.Snapshot.resolveAt config (Grammar.idForLanguage document.language)
          document.uri.documentPath = .ok entry.engine.settings) := by
  constructor
  · intro entry member
    rw [run_eq_performAll] at member
    obtain ⟨before, document, delivery, after, origin, named, accepted⟩ :=
      settings_origin untracked _ entry member
    exact ⟨before, document, delivery, after, origin.isSole, named, accepted⟩
  · intro earlier config later split kept entry member
    subst split
    obtain ⟨before, document, delivery, after, origin, named, accepted⟩ :=
      settings_since_setConfig start earlier later config kept entry member
    exact ⟨before, document, delivery, after, origin.isSole, named, accepted⟩

def untitled (language : String) : Document :=
  ⟨⟨"untitled", none, "Untitled-1", none, none⟩, language, "", 1⟩

def second (document : Document) : Document :=
  { document with uri := { document.uri with path := "Untitled-2" } }

def bilingual : Manager Grammar.Catalog :=
  initial ⟨["go", "rust"]⟩ ⟨["go", "rust"], []⟩ (.make .byHand none)

def quick : Settings.Config := { global := { timeout := some 50 } }

/-- The language of the document changes once it has an engine. -/
def relabeled : List Operation :=
  [.setConfig quick, .openDocument (untitled "rust"), .updateDocument (untitled "go")]

theorem run_settings_relabeled :
    bilingual.registry = .empty ∧
      ∃ entry ∈ (bilingual.run relabeled).registry.entries, entry.engine.settings.timeout = 50 ∧
        ∃ before document delivery after,
          SoleOrigin bilingual (actionsOf bilingual.visible relabeled) entry.engine.id before document
            delivery after ∧
          entry.key = document.key ∧
          Settings.Snapshot.resolveAt quick (Grammar.idForLanguage document.language)
            document.uri.documentPath = .ok entry.engine.settings := by
  have tracked : ∃ entry ∈ (bilingual.run relabeled).registry.entries,
      entry.engine.settings.timeout = 50 := by decide +kernel
  obtain ⟨entry, member, timeout⟩ := tracked
  have since := (run_settings bilingual rfl relabeled).2 [] quick _ rfl (by decide) entry member
  exact ⟨rfl, entry, member, timeout, since⟩

end BracketDecoration.Decoration.Manager
