import BracketDecoration.Proofs.Decoration.Lifecycle

namespace BracketDecoration.Decoration

open Editor (Document DocumentKey)

def Event.madeFor? (uri : String) : Event → Option Nat
  | .created engine written _ => if written = uri then some engine else none
  | _ => none

def enginesFor (uri : String) (events : List Event) : List Nat :=
  events.filterMap (Event.madeFor? uri)

/-- The events of all engines that were made for an address. -/
def eventsFor (uri : String) (events : List Event) : List Event :=
  events.filter fun event => event.engine ∈ enginesFor uri events

theorem mem_enginesFor {engine : Nat} {uri : String} {events : List Event} :
    engine ∈ enginesFor uri events ↔ ∃ grammar, .created engine uri grammar ∈ events := by
  unfold enginesFor
  rw [List.mem_filterMap]
  constructor
  · rintro ⟨event, member, made⟩
    cases event with
    | created number written grammar =>
        obtain ⟨rfl, same⟩ := Option.ite_none_right_eq_some.mp made
        cases same
        exact ⟨grammar, member⟩
    | _ => cases made
  · rintro ⟨grammar, member⟩
    exact ⟨_, member, if_pos rfl⟩

theorem enginesFor_append (uri : String) (older newer : List Event) :
    enginesFor uri (older ++ newer) = enginesFor uri older ++ enginesFor uri newer :=
  List.filterMap_append

/-- No event comes before the making of its engine, so what is older is not looked at anew. -/
theorem eventsFor_append {uri : String} {older newer : List Event}
    (fresh : ∀ event ∈ older, event.engine ∉ enginesFor uri newer) :
    eventsFor uri (older ++ newer) = eventsFor uri older ++
      newer.filter fun event => event.engine ∈ enginesFor uri (older ++ newer) := by
  unfold eventsFor
  rw [List.filter_append]
  congr 1
  refine List.filter_congr fun event member => decide_eq_decide.mpr ?_
  rw [enginesFor_append, List.mem_append]
  exact or_iff_left (fresh event member)

theorem eventsFor_append_unmade {uri : String} {older newer : List Event}
    (unmade : enginesFor uri newer = []) :
    eventsFor uri (older ++ newer) =
      eventsFor uri older ++ newer.filter fun event => event.engine ∈ enginesFor uri older := by
  rw [eventsFor_append (fun _ _ made => by rw [unmade] at made; cases made), enginesFor_append,
    unmade, List.append_nil]

theorem enginesFor_told (uri : String) (engine : Nat) (delivery : Option Delivery) :
    enginesFor uri (told engine delivery) = [] := by
  refine List.filterMap_eq_nil_iff.mpr fun event member => ?_
  have delivered := isDelivery_of_mem_told member
  cases event with
  | created => cases delivered
  | _ => rfl

theorem filter_of_engine {engine : Nat} {events : List Event} (chosen : Nat → Bool)
    (own : ∀ event ∈ events, event.engine = engine) :
    (events.filter fun event => chosen event.engine) = if chosen engine = true then events else [] := by
  by_cases kept : chosen engine = true
  · rw [if_pos kept]
    exact List.filter_eq_self.mpr fun event member => by rwa [own event member]
  · rw [if_neg kept]
    exact List.filter_eq_nil_iff.mpr fun event member => by rwa [own event member]

theorem engine_of_mem_told {engine : Nat} {delivery : Option Delivery} {event : Event}
    (member : event ∈ told engine delivery) : event.engine = engine := by
  cases delivery with
  | none => cases member
  | some delivery =>
      rw [List.mem_singleton.mp member]
      exact delivery.event_engine engine

namespace Ledger

variable {first last : Nat} {events : List Event} {alive : List Holding}

theorem mem_enginesFor_iff (ledger : Ledger first events last alive) {holding : Holding}
    (living : holding ∈ alive) (uri : String) :
    holding.engine ∈ enginesFor uri events ↔ holding.uri = uri := by
  rw [mem_enginesFor]
  constructor
  · rintro ⟨grammar, logged⟩
    obtain ⟨own, deliveries, shape⟩ := ledger.eventsOf_living holding living
    have member : .created holding.engine uri grammar ∈ eventsOf holding.engine events :=
      mem_eventsOf.mpr ⟨logged, rfl⟩
    rw [shape] at member
    rcases List.mem_cons.mp member with same | delivered
    · cases same
      rfl
    · cases isDelivery_of_mem delivered
  · rintro rfl
    exact ((ledger.lives_iff holding.engine holding.uri).mpr living).1

theorem eventsFor_told (ledger : Ledger first events last alive) {holding : Holding}
    (living : holding ∈ alive) (uri : String) (delivery : Option Delivery) :
    eventsFor uri (events ++ told holding.engine delivery) =
      eventsFor uri events ++ if holding.uri = uri then told holding.engine delivery else [] := by
  rw [eventsFor_append_unmade (enginesFor_told uri holding.engine delivery),
    filter_of_engine (fun engine => decide (engine ∈ enginesFor uri events))
      fun _ => engine_of_mem_told]
  simp only [decide_eq_true_eq, ledger.mem_enginesFor_iff living uri]

theorem eventsFor_disposed (ledger : Ledger first events last alive) (uri : String)
    {disposed : List Holding} (living : ∀ holding ∈ disposed, holding ∈ alive) :
    eventsFor uri (events ++ disposed.map fun holding => .disposed holding.engine) =
      eventsFor uri events ++
        (disposed.filter fun holding => holding.uri = uri).map fun holding =>
          .disposed holding.engine := by
  have unmade : enginesFor uri (disposed.map fun holding => .disposed holding.engine) = [] := by
    refine List.filterMap_eq_nil_iff.mpr fun event member => ?_
    obtain ⟨holding, _present, rfl⟩ := List.mem_map.mp member
    rfl
  rw [eventsFor_append_unmade unmade, List.filter_map]
  congr 2
  refine List.filter_congr fun holding member => decide_eq_decide.mpr ?_
  exact ledger.mem_enginesFor_iff (living holding member) uri

theorem eventsFor_created (ledger : Ledger first events last alive) (uri written grammar : String)
    (delivery : Option Delivery) :
    eventsFor uri (events ++ .created (last + 1) written grammar :: told (last + 1) delivery) =
      eventsFor uri events ++
        if written = uri then .created (last + 1) written grammar :: told (last + 1) delivery
        else [] := by
  have own : ∀ event ∈ .created (last + 1) written grammar :: told (last + 1) delivery,
      event.engine = last + 1 := by
    intro event member
    rcases List.mem_cons.mp member with rfl | delivered
    · rfl
    · exact engine_of_mem_told delivered
  have made : enginesFor uri (.created (last + 1) written grammar :: told (last + 1) delivery) =
      if written = uri then [last + 1] else [] := by
    unfold enginesFor
    by_cases same : written = uri
    · rw [if_pos same, List.filterMap_cons_some (by exact if_pos same)]
      exact congrArg _ (enginesFor_told uri (last + 1) delivery)
    · rw [if_neg same, List.filterMap_cons_none (by exact if_neg same)]
      exact enginesFor_told uri (last + 1) delivery
  -- The number of the new engine is beyond all that the log knows.
  have unknown : last + 1 ∉ enginesFor uri events := by
    intro known
    obtain ⟨_grammar, logged⟩ := mem_enginesFor.mp known
    have bound : last + 1 ≤ last := (ledger.made_of_mem logged).2
    omega
  have fresh : ∀ event ∈ events, event.engine ∉
      enginesFor uri (.created (last + 1) written grammar :: told (last + 1) delivery) := by
    intro event member newest
    have bound := (ledger.made_of_mem member).2
    rw [made] at newest
    split at newest
    · have number := List.mem_singleton.mp newest
      omega
    · cases newest
  rw [eventsFor_append fresh, filter_of_engine (fun engine => decide (engine ∈ enginesFor uri _)) own,
    enginesFor_append, made]
  simp only [decide_eq_true_eq, List.mem_append, unknown, false_or]
  by_cases same : written = uri
  · simp only [same, if_true, List.mem_singleton]
  · simp only [same, if_false, List.not_mem_nil]

end Ledger

namespace Registry

/-- The engine that a document has, as it is held; there is one at most. -/
def heldFor (registry : Registry) (key : DocumentKey) : List Holding :=
  (registry.find? key).toList.map fun engine => ⟨engine.id, key.text⟩

theorem mem_holdings_of_mem_heldFor {registry : Registry} {key : DocumentKey} {holding : Holding}
    (member : holding ∈ registry.heldFor key) : holding ∈ registry.holdings := by
  obtain ⟨engine, found, rfl⟩ := List.mem_map.mp member
  exact mem_holdings (Option.mem_toList.mp found)

theorem heldFor_filter (registry : Registry) (key : DocumentKey) :
    (registry.heldFor key).filter (fun holding => holding.uri = key.text) = registry.heldFor key := by
  refine List.filter_eq_self.mpr fun holding member => decide_eq_true ?_
  obtain ⟨engine, _found, rfl⟩ := List.mem_map.mp member
  rfl

theorem holdings_filter {registry : Registry} (distinct : (registry.entries.map Entry.key).Nodup)
    (key : DocumentKey) :
    registry.holdings.filter (fun holding => holding.uri = key.text) = registry.heldFor key := by
  have named (entry : Entry) : entry.key.text = key.text ↔ entry.key = key :=
    ⟨congrArg DocumentKey.mk, congrArg DocumentKey.text⟩
  rw [holdings, List.filter_map, heldFor]
  cases found : registry.find? key with
  | none =>
      have absent := (registry.find?_eq_none_iff key).mp found
      refine List.map_eq_nil_iff.mpr (List.filter_eq_nil_iff.mpr fun entry member own => ?_)
      exact absent entry member ((named entry).mp (of_decide_eq_true own))
  | some engine =>
      have member := mem_of_find? found
      have only : registry.entries.filter (fun entry => entry.key.text = key.text) =
          registry.entries.filter fun entry => entry = ⟨key, engine⟩ := by
        refine List.filter_congr fun entry present => decide_eq_decide.mpr ?_
        rw [named]
        exact ⟨List.inj_on_of_nodup_map distinct present member, congrArg Entry.key⟩
      change List.map _ (registry.entries.filter fun entry => entry.key.text = key.text) = _
      rw [only, List.filter_eq, List.count_eq_one_of_mem (distinct.of_map Entry.key) member]
      rfl

theorem holdings_of_alone {registry : Registry} {key : DocumentKey}
    (distinct : (registry.entries.map Entry.key).Nodup)
    (alone : ∀ entry ∈ registry.entries, entry.key = key) :
    registry.holdings = registry.heldFor key := by
  rw [← holdings_filter distinct key]
  refine (List.filter_eq_self.mpr fun holding member => decide_eq_true ?_).symm
  obtain ⟨entry, present, rfl⟩ := List.mem_map.mp member
  exact congrArg DocumentKey.text (alone entry present)

/-- One document has one engine at most, so there is one order of its engines. -/
theorem eq_heldFor_of_perm {registry : Registry} {key : DocumentKey} {holdings : List Holding}
    (same : holdings.Perm (registry.heldFor key)) : holdings = registry.heldFor key := by
  unfold heldFor at same ⊢
  revert same
  cases registry.find? key with
  | none => exact List.perm_nil.mp
  | some engine => exact List.perm_singleton.mp

theorem erase_of_alone {registry : Registry} {key : DocumentKey}
    (alone : ∀ entry ∈ registry.entries, entry.key = key) : registry.erase key = .empty := by
  refine congrArg Registry.mk (List.filter_eq_nil_iff.mpr fun entry member kept => ?_)
  exact of_decide_eq_true kept (alone entry member)

end Registry

namespace Manager

variable {κ : Type}

def documentsOf (key : DocumentKey) (documents : List Document) : List Document :=
  documents.filter fun document => document.key = key

namespace Action

def addressee? : Action → Option DocumentKey
  | .present document _ => some document.key
  | .discard key => some key
  | _ => none

def concerns (key : DocumentKey) (action : Action) : Bool :=
  action.addressee?.all fun addressee => addressee = key

def narrow (key : DocumentKey) : Action → Action
  | .display documents => .display (documentsOf key documents)
  | action => action

end Action

namespace Operation

def addressee? : Operation → Option DocumentKey
  | .openDocument document | .updateDocument document | .changeDocument document _
  | .closeDocument document | .resolve document => some document.key
  | .dispose key => some key
  | _ => none

def concerns (key : DocumentKey) (operation : Operation) : Bool :=
  operation.addressee?.all fun addressee => addressee = key

def narrow (key : DocumentKey) : Operation → Operation
  | .setVisible documents => .setVisible (documentsOf key documents)
  | operation => operation

end Operation

/-- Another document's action brings nothing into the log for this one, and leaves its engine alone. -/
theorem Effect.foreign {manager : Manager κ} {action : Action} {events log : List Event}
    {registry : Registry} {made first : Nat} {key : DocumentKey}
    (effect : Effect manager action events registry made)
    (ledger : Ledger first log manager.factory.created manager.registry.holdings)
    (foreign : action.concerns key = false) :
    registry.find? key = manager.registry.find? key ∧
      eventsFor key.text (log ++ events) = eventsFor key.text log := by
  have elsewhere {other : DocumentKey} (different : decide (other = key) = false) :
      other.text ≠ key.text :=
    fun same => of_decide_eq_false different (congrArg DocumentKey.mk same)
  cases effect with
  | reached document delivery engine valid found =>
      refine ⟨rfl, ?_⟩
      rw [ledger.eventsFor_told (Registry.mem_holdings found), if_neg (elsewhere foreign),
        List.append_nil]
  | made document delivery settings valid untracked accepted =>
      constructor
      · rw [Registry.find?_insert, if_neg (of_decide_eq_false foreign), Option.or_none]
      · have different : document.uri.text ≠ key.text := elsewhere foreign
        rw [ledger.eventsFor_created, if_neg different, List.append_nil]
  | discarded other engine found =>
      constructor
      · rw [Registry.find?_erase, if_neg (Ne.symm (of_decide_eq_false foreign))]
      · have living : ∀ holding ∈ [Holding.mk engine.id other.text],
            holding ∈ manager.registry.holdings := by
          intro holding member
          rw [List.mem_singleton.mp member]
          exact Registry.mem_holdings found
        have unseen := ledger.eventsFor_disposed key.text living
        rw [List.filter_cons_of_neg (by simpa using elsewhere foreign)] at unseen
        exact unseen.trans (List.append_nil _)
  | cleared => cases foreign
  | _ => exact ⟨rfl, congrArg _ (List.append_nil log)⟩

/-- The operations without those that are addressed to other documents. -/
def narrowed (key : DocumentKey) (operations : List Operation) : List Operation :=
  (operations.filter (Operation.concerns key)).map (Operation.narrow key)

def narrowedActions (key : DocumentKey) (actions : List Action) : List Action :=
  (actions.filter (Action.concerns key)).map (Action.narrow key)

theorem narrowedActions_append (key : DocumentKey) (first second : List Action) :
    narrowedActions key (first ++ second) =
      narrowedActions key first ++ narrowedActions key second := by
  simp only [narrowedActions, List.filter_append, List.map_append]

theorem narrowedActions_cons_of_concerns {key : DocumentKey} {action : Action}
    (concerned : action.concerns key = true) (rest : List Action) :
    narrowedActions key (action :: rest) = action.narrow key :: narrowedActions key rest := by
  simp only [narrowedActions, List.filter_cons_of_pos concerned, List.map_cons]

theorem narrowedActions_cons_of_not_concerns {key : DocumentKey} {action : Action}
    (foreign : action.concerns key = false) (rest : List Action) :
    narrowedActions key (action :: rest) = narrowedActions key rest := by
  simp only [narrowedActions, List.filter_cons_of_neg (Bool.eq_false_iff.mp foreign)]

private theorem narrowedActions_refreshes (key : DocumentKey) (documents : List Document) :
    narrowedActions key (Action.refreshes documents) =
      Action.refreshes (documentsOf key documents) := by
  induction documents with
  | nil => rfl
  | cons document rest ih =>
      unfold documentsOf
      by_cases same : document.key = key
      · have concerned : (Action.present document (some .refresh)).concerns key = true :=
          decide_eq_true same
        rw [List.filter_cons_of_pos (by exact decide_eq_true same)]
        exact (narrowedActions_cons_of_concerns concerned _).trans (congrArg _ ih)
      · have foreign : (Action.present document (some .refresh)).concerns key = false :=
          decide_eq_false same
        rw [List.filter_cons_of_neg (by simpa using same)]
        exact (narrowedActions_cons_of_not_concerns foreign _).trans ih

private theorem narrowedActions_actions {key : DocumentKey} (visible : List Document) (operation : Operation) :
    narrowedActions key (operation.actions visible) =
      if operation.concerns key = true then
        (operation.narrow key).actions (documentsOf key visible)
      else [] := by
  -- An operation with an addressee is one action with the same one; all others concern every document.
  have single {action : Action} (shared : action.addressee? = operation.addressee?)
      (unshown : action.narrow key = action) :
      narrowedActions key [action] = if operation.concerns key = true then [action] else [] := by
    have alike : action.concerns key = operation.concerns key := congrArg _ shared
    rw [← alike]
    cases concerned : action.concerns key with
    | true => rw [narrowedActions_cons_of_concerns concerned, unshown]; rfl
    | false => exact narrowedActions_cons_of_not_concerns concerned []
  cases operation with
  | updateAll => exact narrowedActions_refreshes key visible
  | reset => exact congrArg _ (narrowedActions_refreshes key visible)
  | setConfig config =>
      exact congrArg (Action.configure config :: Action.discardAll :: ·)
        (narrowedActions_refreshes key visible)
  | setVisible documents => rfl
  | _ => exact single rfl rfl

private theorem documentsOf_visibleAfter (key : DocumentKey) (visible : List Document) (operation : Operation) :
    documentsOf key (operation.visibleAfter visible) =
      (operation.narrow key).visibleAfter (documentsOf key visible) := by
  cases operation with
  | _ => rfl

theorem actionsOf_narrowed (key : DocumentKey) (visible : List Document) (operations : List Operation) :
    actionsOf (documentsOf key visible) (narrowed key operations) =
      narrowedActions key (actionsOf visible operations) := by
  induction operations generalizing visible with
  | nil => rfl
  | cons operation rest ih =>
      rw [actionsOf, narrowedActions_append, narrowedActions_actions, ← ih, documentsOf_visibleAfter]
      unfold narrowed
      by_cases concerned : operation.concerns key = true
      · rw [List.filter_cons_of_pos concerned, if_pos concerned]
        rfl
      · rw [List.filter_cons_of_neg concerned, if_neg concerned]
        have unshown : (operation.narrow key).visibleAfter (documentsOf key visible) =
            documentsOf key visible := by
          cases operation with
          | setVisible documents => exact absurd rfl concerned
          | _ => rfl
        rw [unshown]
        rfl

def runFor [Grammar.Tokenizer κ] (manager : Manager κ) (key : DocumentKey)
    (operations : List Operation) : Manager κ :=
  { manager with visible := documentsOf key manager.visible }.run (narrowed key operations)

end Manager

end BracketDecoration.Decoration
