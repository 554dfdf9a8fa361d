import BracketDecoration.Proofs.Decoration.Lifecycle
import BracketDecoration.Proofs.Decoration.Origin

namespace BracketDecoration.Decoration

open Editor (Document DocumentKey)

namespace Manager

variable {κ : Type}

namespace Action

def discards (key : DocumentKey) : Action → Bool
  | .discard other => other = key
  | .discardAll => true
  | _ => false

def delivery? (key : DocumentKey) : Action → Option Delivery
  | .present document delivery => if document.isValid ∧ document.key = key then delivery else none
  | _ => none

end Action

/-- The deliveries to a key in order, up to the first action that discards it. -/
def deliveriesTo (key : DocumentKey) (actions : List Action) : List Delivery :=
  (actions.takeWhile fun action => !action.discards key).filterMap (Action.delivery? key)

theorem eventsOf_told_other {engine other : Nat} (delivery : Option Delivery)
    (foreign : other ≠ engine) : eventsOf engine (told other delivery) = [] := by
  refine List.filter_eq_nil_iff.mpr fun event member own => ?_
  cases delivery with
  | none => cases member
  | some delivery =>
      rw [List.mem_singleton.mp member, decide_eq_true_iff, delivery.event_engine] at own
      exact foreign own

theorem eventsOf_told_self (engine : Nat) (delivery : Option Delivery) :
    eventsOf engine (told engine delivery) = told engine delivery := by
  refine List.filter_eq_self.mpr fun event member => decide_eq_true ?_
  cases delivery with
  | none => cases member
  | some delivery =>
      rw [List.mem_singleton.mp member]
      exact delivery.event_engine engine

private theorem Effect.absent {manager : Manager κ} {action : Action} {events : List Event}
    {registry : Registry} {made engine : Nat} (effect : Effect manager action events registry made)
    (old : engine ≤ manager.factory.created)
    (absent : ∀ entry ∈ manager.registry.entries, entry.engine.id ≠ engine) :
    eventsOf engine events = [] ∧ engine ≤ made ∧
      ∀ entry ∈ registry.entries, entry.engine.id ≠ engine := by
  cases effect with
  | reached document delivery addressee valid found =>
      have foreign := absent _ (Registry.mem_of_find? found)
      exact ⟨eventsOf_told_other delivery foreign, old, absent⟩
  | made document delivery settings valid untracked accepted =>
      have foreign : manager.factory.created + 1 ≠ engine := by omega
      refine ⟨?_, Nat.le_succ_of_le old, ?_⟩
      · rw [eventsOf, List.filter_cons_of_neg (by exact fun own => foreign (of_decide_eq_true own))]
        exact eventsOf_told_other delivery foreign
      · intro entry member
        rcases List.mem_append.mp member with older | newest
        · exact absent entry older
        · rw [List.mem_singleton.mp newest]
          exact foreign
  | discarded key disposed found =>
      have foreign := absent _ (Registry.mem_of_find? found)
      refine ⟨?_, old, fun entry member => absent entry (List.mem_filter.mp member).1⟩
      exact List.filter_cons_of_neg fun own => foreign (of_decide_eq_true own)
  | cleared =>
      refine ⟨List.filter_eq_nil_iff.mpr ?_, old, fun entry member => by cases member⟩
      intro event member own
      obtain ⟨entry, given, rfl⟩ := List.mem_map.mp member
      exact absent entry (manager.drained_perm.subset given) (of_decide_eq_true own)
  | _ => exact ⟨rfl, old, absent⟩

section Tracked

variable {manager : Manager κ} {action : Action} {events log : List Event} {registry : Registry}
  {made first : Nat} {key : DocumentKey} {engine : Engine}

theorem entry_eq (ledger : Ledger first log manager.factory.created manager.registry.holdings)
    (found : manager.registry.find? key = some engine) (entry : Entry)
    (member : entry ∈ manager.registry.entries) (same : entry.engine.id = engine.id) :
    entry = ⟨key, engine⟩ :=
  List.inj_on_of_nodup_map (Registry.engines_distinct ledger) member (Registry.mem_of_find? found)
    same

private theorem foreign_of_key_ne
    (ledger : Ledger first log manager.factory.created manager.registry.holdings)
    (found : manager.registry.find? key = some engine) {otherKey : DocumentKey} {other : Engine}
    (foundOther : manager.registry.find? otherKey = some other) (different : otherKey ≠ key) :
    other.id ≠ engine.id := by
  intro same
  have equal := entry_eq ledger found _ (Registry.mem_of_find? foundOther) same
  exact different (congrArg Entry.key equal)

/-- As long as its key is not discarded an engine stays, and is told exactly what is delivered to the key. -/
theorem Effect.kept (effect : Effect manager action events registry made)
    (ledger : Ledger first log manager.factory.created manager.registry.holdings)
    (found : manager.registry.find? key = some engine) (spared : action.discards key = false) :
    registry.find? key = some engine ∧
      eventsOf engine.id events = told engine.id (action.delivery? key) := by
  cases effect with
  | quiet action silent =>
      cases action with
      | present document delivery => cases silent
      | _ => exact ⟨found, rfl⟩
  | passed document delivery unserved =>
      refine ⟨found, ?_⟩
      have unaddressed : ¬(document.isValid = true ∧ document.key = key) := by
        rintro ⟨valid, rfl⟩
        rw [unserved valid] at found
        cases found
      rw [Action.delivery?, if_neg unaddressed]
      rfl
  | reached document delivery addressee valid reached =>
      refine ⟨found, ?_⟩
      by_cases addressed : document.key = key
      · subst addressed
        rw [reached] at found
        cases found
        rw [Action.delivery?, if_pos ⟨valid, rfl⟩]
        exact eventsOf_told_self _ delivery
      · rw [Action.delivery?, if_neg fun both => addressed both.2]
        exact eventsOf_told_other delivery (foreign_of_key_ne ledger found reached addressed)
  | made document delivery settings valid untracked accepted =>
      have other : document.key ≠ key := by
        rintro rfl
        rw [untracked] at found
        cases found
      -- The number of the new engine is beyond those of all that are tracked.
      have bound := (ledger.numbered _ (Registry.mem_holdings found)).2
      change engine.id ≤ _ at bound
      have foreign : manager.factory.created + 1 ≠ engine.id := by omega
      constructor
      · rw [Registry.find?_insert, found]
        rfl
      · rw [Action.delivery?, if_neg fun both => other both.2, eventsOf,
          List.filter_cons_of_neg (by exact fun own => foreign (of_decide_eq_true own))]
        exact eventsOf_told_other delivery foreign
  | missed other untracked => exact ⟨found, rfl⟩
  | discarded other disposed foundOther =>
      have different : other ≠ key := of_decide_eq_false spared
      constructor
      · rw [Registry.find?_erase, if_neg different.symm]
        exact found
      · have foreign := foreign_of_key_ne ledger found foundOther different
        exact List.filter_cons_of_neg fun own => foreign (of_decide_eq_true own)
  | cleared => cases spared

private theorem Effect.ended (effect : Effect manager action events registry made)
    (ledger : Ledger first log manager.factory.created manager.registry.holdings)
    (found : manager.registry.find? key = some engine) (discarded : action.discards key = true) :
    eventsOf engine.id events = [.disposed engine.id] ∧
      ∀ entry ∈ registry.entries, entry.engine.id ≠ engine.id := by
  cases effect with
  | quiet action silent =>
      cases action with
      | discard other => cases silent
      | discardAll => cases silent
      | _ => cases discarded
  | missed other untracked =>
      rw [of_decide_eq_true discarded, found] at untracked
      cases untracked
  | discarded other disposed foundOther =>
      have addressed : other = key := of_decide_eq_true discarded
      subst addressed
      rw [found] at foundOther
      cases foundOther
      refine ⟨List.filter_cons_of_pos (decide_eq_true rfl), ?_⟩
      intro entry member same
      obtain ⟨present, different⟩ := List.mem_filter.mp member
      exact of_decide_eq_true different (congrArg Entry.key (entry_eq ledger found entry present same))
  | cleared =>
      refine ⟨?_, fun entry member => by cases member⟩
      let ids := manager.drained.map fun entry => entry.engine.id
      have all : ids.Perm (manager.registry.entries.map fun entry => entry.engine.id) :=
        manager.drained_perm.map _
      have distinct : ids.Nodup := all.nodup_iff.mpr (Registry.engines_distinct ledger)
      have present : engine.id ∈ ids :=
        all.mem_iff.mpr (List.mem_map_of_mem (Registry.mem_of_find? found))
      have disposals : manager.drained.map (fun entry => Event.disposed entry.engine.id) =
          ids.map Event.disposed := List.map_map.symm
      have own : eventsOf engine.id (ids.map Event.disposed) =
          (ids.filter fun id => id = engine.id).map Event.disposed := List.filter_map
      rw [disposals, own, List.filter_eq, List.count_eq_one_of_mem distinct present]
      rfl
  | _ => cases discarded

end Tracked

variable [Grammar.Tokenizer κ]

private theorem eventsOf_issued_absent {manager : Manager κ} {engine : Nat}
    (old : engine ≤ manager.factory.created)
    (absent : ∀ entry ∈ manager.registry.entries, entry.engine.id ≠ engine)
    (actions : List Action) : eventsOf engine (manager.issued actions) = [] := by
  induction actions generalizing manager with
  | nil => rfl
  | cons action rest ih =>
      obtain ⟨silent, still_old, still_absent⟩ := (manager.effect_perform action).absent old absent
      rw [issued, eventsOf_append, silent, ih still_old still_absent]
      rfl

/-- From any moment on, an engine is told what is delivered to its key until it is discarded, and that ends
with its disposal. -/
theorem eventsOf_issued_tracked {manager : Manager κ} {first : Nat} {log : List Event}
    {key : DocumentKey} {engine : Engine}
    (ledger : Ledger first log manager.factory.created manager.registry.holdings)
    (found : manager.registry.find? key = some engine) (actions : List Action) :
    eventsOf engine.id (manager.issued actions) =
      (deliveriesTo key actions).map (fun delivery => delivery.event engine.id) ++
        if actions.any (Action.discards key) then [.disposed engine.id] else [] := by
  -- The ledger is carried along: it keeps the numbers of all other engines apart from this one.
  induction actions generalizing manager log with
  | nil => rfl
  | cons action rest ih =>
      have effect := manager.effect_perform action
      rw [issued, eventsOf_append, deliveriesTo, List.any_cons]
      cases discarded : action.discards key with
      | true =>
          have old := (ledger.numbered _ (Registry.mem_holdings found)).2
          obtain ⟨disposal, gone⟩ := effect.ended ledger found discarded
          have silence := eventsOf_issued_absent (Nat.le_trans old effect.created_le) gone rest
          rw [disposal, silence, List.takeWhile_cons_of_neg (by rw [discarded]; exact Bool.false_ne_true)]
          rfl
      | false =>
          obtain ⟨still_found, hearing⟩ := effect.kept ledger found discarded
          rw [hearing, ih (effect.ledger ledger) still_found,
            List.takeWhile_cons_of_pos (by rw [discarded]; rfl), ← List.append_assoc]
          congr 1
          cases addressed : action.delivery? key with
          | none =>
              rw [List.filterMap_cons_none addressed]
              rfl
          | some delivery =>
              rw [List.filterMap_cons_some addressed]
              rfl

private theorem deliveriesTo_present {document : Document} (valid : document.isValid = true)
    (delivery : Option Delivery) (after : List Action) :
    deliveriesTo document.key (.present document delivery :: after) =
      delivery.toList ++ deliveriesTo document.key after := by
  have addressed : Action.delivery? document.key (.present document delivery) = delivery :=
    if_pos ⟨valid, rfl⟩
  rw [deliveriesTo, List.takeWhile_cons_of_pos rfl]
  cases delivery with
  | none => exact List.filterMap_cons_none addressed
  | some delivery => exact List.filterMap_cons_some addressed

theorem Origin.lifetime {start : Manager κ} (untracked : start.registry = .empty)
    {actions before after : List Action} {engine : Nat} {document : Document}
    {delivery : Option Delivery}
    (origin : Origin start actions engine before document delivery after) :
    ∃ grammar, eventsOf engine (start.issued actions) =
      .created engine document.uri.text grammar ::
        (deliveriesTo document.key (.present document delivery :: after)).map
          (fun delivery => delivery.event engine) ++
        if after.any (Action.discards document.key) then [.disposed engine] else [] := by
  obtain ⟨cut, grammar, logged⟩ := origin
  have ledger := ledger_of_untracked untracked before
  have effect := (start.performAll before).effect_perform (.present document delivery)
  obtain ⟨presented, delivered, settings, same, valid, _written, number, counted, _free, enrolled,
    events⟩ := effect.creation logged
  cases same
  -- Before its origin the engine is beyond all numbers of the ledger.
  have unmade : eventsOf engine (start.issued before) = [] :=
    ledger.eventsOf_unmade (Or.inr (by omega))
  have next := effect.ledger ledger
  have found : ((start.performAll before).perform (.present document delivery)).registry.find?
      document.key = some ⟨engine, settings⟩ := by
    rw [enrolled, Registry.find?_insert, _free, if_pos rfl]
    rfl
  have later := eventsOf_issued_tracked next found after
  have own : eventsOf engine (.created engine document.uri.text grammar :: told engine delivery) =
      .created engine document.uri.text grammar :: told engine delivery := by
    rw [eventsOf, List.filter_cons_of_pos (by exact decide_eq_true rfl)]
    exact congrArg _ (eventsOf_told_self engine delivery)
  refine ⟨grammar, ?_⟩
  rw [cut, issued_append, issued, eventsOf_append, eventsOf_append, unmade, events, own, later,
    deliveriesTo_present valid, List.map_append]
  cases delivery with
  | none => rfl
  | some delivery => rfl

theorem Origin.told_events {start : Manager κ} (untracked : start.registry = .empty)
    {actions before after : List Action} {engine : Nat} {document : Document}
    {delivery : Option Delivery}
    (origin : Origin start actions engine before document delivery after) :
    (eventsOf engine (start.issued actions)).filter Event.isDelivery =
      (deliveriesTo document.key (.present document delivery :: after)).map
        fun delivery => delivery.event engine := by
  obtain ⟨grammar, lifetime⟩ := origin.lifetime untracked
  rw [lifetime, List.filter_append, List.filter_cons_of_neg (by exact Bool.false_ne_true),
    List.filter_eq_self.mpr fun event member => isDelivery_of_mem member]
  cases after.any (Action.discards document.key) with
  | false => exact List.append_nil _
  | true => exact List.append_nil _

theorem Origin.disposed_iff {start : Manager κ} (untracked : start.registry = .empty)
    {actions before after : List Action} {engine : Nat} {document : Document}
    {delivery : Option Delivery}
    (origin : Origin start actions engine before document delivery after) :
    .disposed engine ∈ start.issued actions ↔
      ∃ action ∈ after, action.discards document.key = true := by
  obtain ⟨grammar, lifetime⟩ := origin.lifetime untracked
  have own : .disposed engine ∈ start.issued actions ↔
      .disposed engine ∈ eventsOf engine (start.issued actions) :=
    ⟨fun member => mem_eventsOf.mpr ⟨member, rfl⟩, fun member => (mem_eventsOf.mp member).1⟩
  rw [own, lifetime, ← List.any_eq_true]
  cases after.any (Action.discards document.key) with
  | true => exact ⟨fun _ => rfl, fun _ => List.mem_append_right _ List.mem_cons_self⟩
  | false =>
      refine ⟨fun member => ?_, fun impossible => by cases impossible⟩
      rw [if_neg Bool.false_ne_true, List.append_nil] at member
      rcases List.mem_cons.mp member with same | delivered
      · cases same
      · cases isDelivery_of_mem delivered

theorem perform_present_invalid (manager : Manager κ) {document : Document}
    (undecorated : document.isValid = false) (delivery : Option Delivery) :
    manager.perform (.present document delivery) = manager := by
  change manager.present document delivery = manager
  rw [present_eq, resolve_invalid undecorated]
  simp only [Option.elim_none, List.append_nil]

/-- Every engine made in a run is told exactly the deliveries to valid documents with its key, from the one
presentation that made it up to the first action that discards the key, which is where its disposal comes from.
An invalid document changes nothing. -/
theorem run_deliveries (start : Manager κ) (untracked : start.registry = .empty)
    (operations : List Operation) :
    ∃ events, (start.run operations).log = start.log ++ events ∧
      (∀ engine uri grammar, .created engine uri grammar ∈ events →
        ∃ before document delivery after,
          SoleOrigin start (actionsOf start.visible operations) engine before document delivery after ∧
          document.uri.text = uri ∧
          (eventsOf engine events).filter Event.isDelivery =
            (deliveriesTo document.key (.present document delivery :: after)).map
              (fun delivery => delivery.event engine) ∧
          (.disposed engine ∈ events ↔
            ∃ action ∈ after, action.discards document.key = true)) ∧
      ∀ (manager : Manager κ) (document : Document) (delivery : Option Delivery),
        document.isValid = false → manager.perform (.present document delivery) = manager := by
  refine ⟨start.issued (actionsOf start.visible operations), ?_, ?_, ?_⟩
  · rw [run_eq_performAll, log_performAll]
  · intro engine uri grammar logged
    obtain ⟨before, document, delivery, after, origin, written⟩ := start.exists_origin _ logged
    exact ⟨before, document, delivery, after, origin.isSole, written, origin.told_events untracked,
      origin.disposed_iff untracked⟩
  · intro manager document delivery undecorated
    exact manager.perform_present_invalid undecorated delivery

def reopened : List Operation :=
  [.openDocument (untitled "rust"), .changeDocument (untitled "go") [.insert ⟨0, 0⟩ 0 "x"],
    .closeDocument (untitled "rust"), .openDocument (untitled "go")]

theorem run_deliveries_reopened :
    bilingual.registry = .empty ∧
      .created 1 "untitled:Untitled-1" "rust" ∈ (bilingual.run reopened).log ∧
      ∃ before document delivery after,
        SoleOrigin bilingual (actionsOf bilingual.visible reopened) 1 before document delivery after ∧
        (eventsOf 1 (bilingual.run reopened).log).filter Event.isDelivery =
          (deliveriesTo document.key (.present document delivery :: after)).map
            fun delivery => delivery.event 1 := by
  obtain ⟨events, logged, told, _⟩ := run_deliveries bilingual rfl reopened
  change (bilingual.run reopened).log = events at logged
  subst logged
  have made : .created 1 "untitled:Untitled-1" "rust" ∈ (bilingual.run reopened).log := by
    decide +kernel
  obtain ⟨before, document, delivery, after, origin, _written, heard, _disposed⟩ := told _ _ _ made
  exact ⟨rfl, made, before, document, delivery, after, origin, heard⟩

end Manager

end BracketDecoration.Decoration
