import BracketDecoration.Proofs.Decoration.Actions
import BracketDecoration.Proofs.Decoration.Ledger

namespace BracketDecoration.Decoration

open Editor (DocumentKey)

def Entry.holding (entry : Entry) : Holding := ⟨entry.engine.id, entry.key.text⟩

namespace Registry

def holdings (registry : Registry) : List Holding := registry.entries.map Entry.holding

theorem mem_holdings {registry : Registry} {key : DocumentKey} {engine : Engine}
    (found : registry.find? key = some engine) : ⟨engine.id, key.text⟩ ∈ registry.holdings :=
  List.mem_map_of_mem (mem_of_find? found)

theorem mem_holdings_iff (registry : Registry) (engine : Nat) (uri : String) :
    ⟨engine, uri⟩ ∈ registry.holdings ↔
      ∃ entry ∈ registry.entries, entry.engine.id = engine ∧ entry.key.text = uri := by
  rw [holdings, List.mem_map]
  simp only [Entry.holding, Holding.mk.injEq]

theorem keys_distinct {registry : Registry} {first last : Nat} {events : List Event}
    (ledger : Ledger first events last registry.holdings) :
    (registry.entries.map Entry.key).Nodup := by
  have uris := ledger.uris_distinct
  rw [holdings, List.map_map] at uris
  refine List.Nodup.of_map DocumentKey.text ?_
  rw [List.map_map]
  exact uris

theorem engines_distinct {registry : Registry} {first last : Nat} {events : List Event}
    (ledger : Ledger first events last registry.holdings) :
    (registry.entries.map fun entry => entry.engine.id).Nodup := by
  have engines := ledger.engines_distinct
  rw [holdings, List.map_map] at engines
  exact engines

theorem holdings_insert (registry : Registry) (key : DocumentKey) (engine : Engine) :
    (registry.insert key engine).holdings = registry.holdings ++ [⟨engine.id, key.text⟩] :=
  List.map_append

/-- Under distinct keys erasing a key takes exactly its engine away. -/
theorem holdings_erase {registry : Registry} {key : DocumentKey} {engine : Engine}
    (distinct : (registry.entries.map Entry.key).Nodup)
    (found : registry.find? key = some engine) :
    (registry.erase key).holdings =
      registry.holdings.filter fun other => other ≠ ⟨engine.id, key.text⟩ := by
  rw [holdings, holdings, List.filter_map]
  congr 1
  refine List.filter_congr fun entry member => decide_eq_decide.mpr ?_
  constructor
  · intro different same
    have written := congrArg Holding.uri same
    exact different (congrArg DocumentKey.mk written)
  · intro different named
    have same : entry = ⟨key, engine⟩ :=
      List.inj_on_of_nodup_map distinct member (mem_of_find? found) named
    rw [same] at different
    exact different rfl

end Registry

namespace Manager

variable {κ : Type}

def released (manager : Manager κ) : List Holding := manager.drained.map Entry.holding

theorem released_perm (manager : Manager κ) : manager.released.Perm manager.registry.holdings :=
  manager.drained_perm.map Entry.holding

theorem disposals_eq (manager : Manager κ) :
    (manager.drained.map fun entry => Event.disposed entry.engine.id) =
      manager.released.map fun holding => .disposed holding.engine := by
  rw [released, List.map_map]
  rfl

theorem Effect.ledger {manager : Manager κ} {action : Action} {events log : List Event}
    {registry : Registry} {made first : Nat} (effect : Effect manager action events registry made)
    (ledger : Ledger first log manager.factory.created manager.registry.holdings) :
    Ledger first (log ++ events) made registry.holdings := by
  cases effect with
  | quiet action silent => exact (List.append_nil log).symm ▸ ledger
  | passed document delivery unserved => exact (List.append_nil log).symm ▸ ledger
  | reached document delivery engine valid found =>
      exact ledger.tell_maybe ⟨engine.id, document.key.text⟩ delivery (Registry.mem_holdings found)
  | made document delivery settings valid untracked accepted =>
      have free : ∀ holding ∈ manager.registry.holdings, holding.uri ≠ document.uri.text := by
        intro holding member same
        obtain ⟨entry, present, rfl⟩ := List.mem_map.mp member
        exact (manager.registry.find?_eq_none_iff _).mp untracked entry present
          (congrArg DocumentKey.mk same)
      have enrolled := ledger.make document.uri.text settings.grammar free
      rw [List.append_cons, Registry.holdings_insert]
      exact enrolled.tell_maybe ⟨manager.factory.created + 1, document.uri.text⟩ delivery
        (List.mem_append_right _ List.mem_cons_self)
  | missed key untracked => exact (List.append_nil log).symm ▸ ledger
  | discarded key engine found =>
      rw [Registry.holdings_erase (Registry.keys_distinct ledger) found]
      exact ledger.dispose ⟨engine.id, key.text⟩ (Registry.mem_holdings found)
  | cleared =>
      rw [disposals_eq]
      exact ledger.dispose_all manager.released_perm

/-- The agreement of the log and the registry of a manager whose engines are all in the log. -/
structure Accounted (manager : Manager κ) : Prop where
  created_in_order :
    manager.log.filterMap Event.createdEngine? = List.range' 1 manager.factory.created
  /-- Nothing is told of an engine that was never made. -/
  numbered : ∀ event ∈ manager.log, 1 ≤ event.engine ∧ event.engine ≤ manager.factory.created
  lifetimes : ∀ engine, 1 ≤ engine → engine ≤ manager.factory.created →
    Lifetime engine (eventsOf engine manager.log)
  /-- The living engines are those of the registry, each under the address that it was made for. -/
  held : ∀ engine uri, Lives manager.log engine uri ↔
    ∃ entry ∈ manager.registry.entries, entry.engine.id = engine ∧ entry.key.text = uri
  engines_distinct : (manager.registry.entries.map fun entry => entry.engine.id).Nodup
  keys_distinct : (manager.registry.entries.map Entry.key).Nodup
  one_per_uri : ∀ uri left right, Lives manager.log left uri → Lives manager.log right uri →
    left = right
  balance : manager.documentCount + manager.log.countP Event.isDisposal =
    manager.log.countP Event.isCreation

theorem accounted_of_ledger {manager : Manager κ}
    (ledger : Ledger 0 manager.log manager.factory.created manager.registry.holdings) :
    manager.Accounted where
  created_in_order := ledger.created_in_order
  numbered := fun event member => ledger.made_of_mem member
  lifetimes := fun engine lower upper => ledger.lifetime lower upper
  held := fun engine uri =>
    (ledger.lives_iff engine uri).trans (manager.registry.mem_holdings_iff engine uri)
  engines_distinct := Registry.engines_distinct ledger
  keys_distinct := Registry.keys_distinct ledger
  one_per_uri := fun uri left right leftLives rightLives =>
    ledger.one_per_uri leftLives rightLives
  balance := by
    have balance := ledger.balance
    rw [Registry.holdings, List.length_map] at balance
    exact balance

variable [Grammar.Tokenizer κ]

theorem ledger_performAll {manager : Manager κ} {first : Nat} {log : List Event}
    (ledger : Ledger first log manager.factory.created manager.registry.holdings)
    (actions : List Action) :
    Ledger first (log ++ manager.issued actions) (manager.performAll actions).factory.created
      (manager.performAll actions).registry.holdings := by
  induction actions generalizing manager log with
  | nil => exact (List.append_nil log).symm ▸ ledger
  | cons action rest ih =>
      have next := (manager.effect_perform action).ledger ledger
      rw [issued, ← List.append_assoc]
      exact ih next

theorem ledger_of_untracked {start : Manager κ} (untracked : start.registry = .empty)
    (actions : List Action) :
    Ledger start.factory.created (start.issued actions)
      (start.performAll actions).factory.created (start.performAll actions).registry.holdings := by
  have opened : Ledger start.factory.created [] start.factory.created start.registry.holdings := by
    rw [untracked]
    exact .start
  exact ledger_performAll opened actions

/-- In every run of a new manager the log and the registry agree. -/
theorem accounted_run (core : κ) (gate : Grammar.Gate κ) (throttle : Throttle) (drain : DrainOrder)
    (operations : List Operation) : ((initial core gate throttle drain).run operations).Accounted := by
  rw [run_eq_performAll]
  have opened : Ledger 0 (initial core gate throttle drain).log
      (initial core gate throttle drain).factory.created
      (initial core gate throttle drain).registry.holdings := .start
  have ledger := ledger_performAll opened
    (actionsOf (initial core gate throttle drain).visible operations)
  rw [← log_performAll] at ledger
  exact accounted_of_ledger ledger

end Manager

end BracketDecoration.Decoration
