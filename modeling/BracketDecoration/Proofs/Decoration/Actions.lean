import BracketDecoration.Proofs.Decoration.Resolution

/-!
Operations on a manager as sequences of single actions. Decorating everything that is visible, alone or after a
reset, presents one document after the other. `Effect` says what an action does to the registry and which
events it brings into the log.
-/

namespace BracketDecoration.Decoration

open Editor (Change Document DocumentKey)

inductive Delivery where
  | refresh
  | edits (changes : List Change)
deriving DecidableEq, Repr

def Delivery.event : Delivery → Nat → Event
  | .refresh => .updated
  | .edits changes => fun engine => .changed engine changes

def told (engine : Nat) (delivery : Option Delivery) : List Event :=
  (delivery.map fun delivery => delivery.event engine).toList

def Event.isDelivery : Event → Bool
  | .updated _ | .changed _ _ => true
  | _ => false

theorem Delivery.isDelivery_event (delivery : Delivery) (engine : Nat) :
    (delivery.event engine).isDelivery = true := by
  cases delivery with
  | refresh => rfl
  | edits changes => rfl

theorem isDelivery_of_mem {deliveries : List Delivery} {engine : Nat} {event : Event}
    (member : event ∈ deliveries.map fun delivery => delivery.event engine) :
    event.isDelivery = true := by
  obtain ⟨delivery, _present, rfl⟩ := List.mem_map.mp member
  exact delivery.isDelivery_event engine

theorem isDelivery_of_mem_told {delivery : Option Delivery} {engine : Nat} {event : Event}
    (member : event ∈ told engine delivery) : event.isDelivery = true := by
  cases delivery with
  | none => cases member
  | some delivery =>
      rw [List.mem_singleton.mp member]
      exact delivery.isDelivery_event engine

namespace Manager

variable {κ : Type}

/-- A single thing that is done to a manager. A document is presented with what its engine is to be told, or
just to have an engine. -/
inductive Action where
  | present (document : Document) (delivery : Option Delivery)
  | discard (key : DocumentKey)
  | discardAll
  | configure (config : Settings.Config)
  | display (documents : List Document)
  | failNext (error : EngineError)
  | register (definition : Grammar.Definition)
  | fire
  | advance (span : Milliseconds)

namespace Action

def isQuiet : Action → Bool
  | .present _ _ | .discard _ | .discardAll => false
  | _ => true

def refreshes (documents : List Document) : List Action :=
  documents.map fun document => .present document (some .refresh)

def visibleAfter (visible : List Document) : Action → List Document
  | .display documents => documents
  | _ => visible

def configAfter (config : Settings.Config) : Action → Settings.Config
  | .configure next => next
  | _ => config

end Action

def Operation.actions (visible : List Document) : Operation → List Action
  | .openDocument document => [.present document (some .refresh)]
  | .updateDocument document => [.present document (some .refresh)]
  | .changeDocument document changes => [.present document (some (.edits changes))]
  | .closeDocument document => [.discard document.key]
  | .resolve document => [.present document none]
  | .dispose key => [.discard key]
  | .updateAll => Action.refreshes visible
  | .reset => .discardAll :: Action.refreshes visible
  | .setConfig config => .configure config :: .discardAll :: Action.refreshes visible
  | .withConfig config => [.configure config]
  | .setVisible documents => [.display documents]
  | .failNext error => [.failNext error]
  | .register definition => [.register definition]
  | .fire => [.fire]
  | .advance span => [.advance span]

def Operation.visibleAfter (visible : List Document) : Operation → List Document
  | .setVisible documents => documents
  | _ => visible

/-- The actions of operations in order, from the moment when the given documents are visible. -/
def actionsOf (visible : List Document) : List Operation → List Action
  | [] => []
  | operation :: rest => operation.actions visible ++ actionsOf (operation.visibleAfter visible) rest

theorem actionsOf_append (visible : List Document) (first second : List Operation) :
    actionsOf visible (first ++ second) =
      actionsOf visible first ++
        actionsOf (first.foldl Operation.visibleAfter visible) second := by
  induction first generalizing visible with
  | nil => rfl
  | cons operation rest ih =>
      rw [List.cons_append, actionsOf, actionsOf, ih, List.append_assoc]
      rfl

theorem forall_actionsOf {P : Action → Prop} {operations : List Operation}
    (each : ∀ operation ∈ operations, ∀ visible, ∀ action ∈ operation.actions visible, P action)
    (visible : List Document) : ∀ action ∈ actionsOf visible operations, P action := by
  induction operations generalizing visible with
  | nil =>
      intro action member
      cases member
  | cons operation rest ih =>
      intro action member
      rcases List.mem_append.mp member with now | later
      · exact each operation List.mem_cons_self visible action now
      · exact ih (fun other present => each other (List.mem_cons_of_mem operation present))
          (operation.visibleAfter visible) action later

theorem forall_refreshes {P : Action → Prop}
    (each : ∀ document, P (.present document (some .refresh))) (documents : List Document) :
    ∀ action ∈ Action.refreshes documents, P action := by
  intro action member
  obtain ⟨document, _present, rfl⟩ := List.mem_map.mp member
  exact each document

/-- The effect of an action: the events that it brings, the registry and the number of engines afterwards. -/
inductive Effect (manager : Manager κ) : Action → List Event → Registry → Nat → Prop where
  | quiet (action : Action) (silent : action.isQuiet = true) :
      Effect manager action [] manager.registry manager.factory.created
  | passed (document : Document) (delivery : Option Delivery)
      (unserved : document.isValid = true → manager.registry.find? document.key = none) :
      Effect manager (.present document delivery) [] manager.registry manager.factory.created
  | reached (document : Document) (delivery : Option Delivery) (engine : Engine)
      (valid : document.isValid = true)
      (found : manager.registry.find? document.key = some engine) :
      Effect manager (.present document delivery) (told engine.id delivery) manager.registry
        manager.factory.created
  | made (document : Document) (delivery : Option Delivery) (settings : Settings.Snapshot)
      (valid : document.isValid = true)
      (untracked : manager.registry.find? document.key = none)
      (accepted : manager.settingsFor document = .ok settings) :
      Effect manager (.present document delivery)
        (.created (manager.factory.created + 1) document.uri.text settings.grammar ::
          told (manager.factory.created + 1) delivery)
        (manager.registry.insert document.key ⟨manager.factory.created + 1, settings⟩)
        (manager.factory.created + 1)
  | missed (key : DocumentKey) (untracked : manager.registry.find? key = none) :
      Effect manager (.discard key) [] manager.registry manager.factory.created
  | discarded (key : DocumentKey) (engine : Engine)
      (found : manager.registry.find? key = some engine) :
      Effect manager (.discard key) [.disposed engine.id] (manager.registry.erase key)
        manager.factory.created
  | cleared :
      Effect manager .discardAll (manager.drained.map fun entry => .disposed entry.engine.id) .empty
        manager.factory.created

theorem Effect.created_le {manager : Manager κ} {action : Action} {events : List Event}
    {registry : Registry} {made : Nat} (effect : Effect manager action events registry made) :
    manager.factory.created ≤ made := by
  cases effect with
  | made document delivery settings valid untracked accepted => exact Nat.le_succ _
  | _ => exact Nat.le_refl _

theorem drained_perm (manager : Manager κ) : manager.drained.Perm manager.registry.entries :=
  manager.drain.perm manager.registry.entries

/-- Only the registry and the log can change, and they do not if the key has no engine. -/
theorem dispose_eq (manager : Manager κ) (key : DocumentKey) :
    (manager.dispose key).1 =
      { manager with
        registry := manager.registry.erase key
        log := manager.log ++
          (manager.registry.find? key).toList.map fun engine => .disposed engine.id } := by
  unfold dispose
  cases found : manager.registry.find? key with
  | none =>
      rw [Registry.erase_of_untracked found, Option.toList_none, List.map_nil, List.append_nil]
  | some engine => rfl

theorem dispose_effect (manager : Manager κ) (key : DocumentKey) :
    ∃ events, (manager.dispose key).1.log = manager.log ++ events ∧
      Effect manager (.discard key) events (manager.dispose key).1.registry
        (manager.dispose key).1.factory.created := by
  unfold dispose
  cases found : manager.registry.find? key with
  | none => exact ⟨[], (List.append_nil _).symm, .missed key found⟩
  | some engine => exact ⟨[.disposed engine.id], rfl, .discarded key engine found⟩

variable [Grammar.Tokenizer κ]

def present (manager : Manager κ) (document : Document) : Option Delivery → Manager κ
  | none => (manager.resolve document).1
  | some delivery => manager.deliver document delivery.event

def perform (manager : Manager κ) : Action → Manager κ
  | .present document delivery => manager.present document delivery
  | .discard key => (manager.dispose key).1
  | .discardAll => manager.disposeAll
  | .configure config => manager.withConfig config
  | .display documents => manager.setVisible documents
  | .failNext error => manager.failNext error
  | .register definition => (manager.register definition).1
  | .fire => manager.fire.1
  | .advance span => manager.advance span

def performAll (manager : Manager κ) (actions : List Action) : Manager κ :=
  actions.foldl perform manager

theorem performAll_append (manager : Manager κ) (first second : List Action) :
    manager.performAll (first ++ second) = (manager.performAll first).performAll second :=
  List.foldl_append

theorem updateAll_eq_performAll (manager : Manager κ) :
    manager.updateAll = manager.performAll (Action.refreshes manager.visible) := by
  unfold updateAll performAll Action.refreshes
  rw [List.foldl_map]
  rfl

theorem step_eq_performAll (manager : Manager κ) (operation : Operation) :
    manager.step operation = manager.performAll (operation.actions manager.visible) := by
  cases operation with
  | updateAll => exact manager.updateAll_eq_performAll
  | reset => exact manager.disposeAll.updateAll_eq_performAll
  | setConfig config => exact (manager.withConfig config).disposeAll.updateAll_eq_performAll
  | _ => rfl

theorem Resolution.frame {manager next : Manager κ} {document : Document} {engine : Option Engine}
    (resolution : Resolution manager document next engine) :
    next.config = manager.config ∧ next.visible = manager.visible ∧ next.drain = manager.drain := by
  cases resolution with
  | refused error factory valid untracked refusal =>
      rw [complain_eq]
      exact ⟨rfl, rfl, rfl⟩
  | _ => exact ⟨rfl, rfl, rfl⟩

theorem present_eq (manager : Manager κ) (document : Document) (delivery : Option Delivery) :
    manager.present document delivery =
      { (manager.resolve document).1 with
        log := (manager.resolve document).1.log ++
          ((manager.resolve document).2.elim [] fun engine => told engine.id delivery) } := by
  unfold present deliver
  cases delivery with
  | none =>
      cases (manager.resolve document).2 with
      | none => simp only [Option.elim_none, List.append_nil]
      | some engine => simp only [told, Option.elim_some, Option.map_none, Option.toList_none, List.append_nil]
  | some delivery =>
      rcases manager.resolve document with ⟨next, engine⟩
      cases engine with
      | none => simp only [Option.elim_none, List.append_nil]
      | some engine => rfl

theorem perform_frame (manager : Manager κ) (action : Action) :
    (manager.perform action).config = action.configAfter manager.config ∧
      (manager.perform action).visible = action.visibleAfter manager.visible ∧
      (manager.perform action).drain = manager.drain := by
  cases action with
  | present document delivery =>
      change (manager.present document delivery).config = manager.config ∧
        (manager.present document delivery).visible = manager.visible ∧
        (manager.present document delivery).drain = manager.drain
      rw [present_eq]
      exact (resolution_resolve manager document).frame
  | discard key =>
      change (manager.dispose key).1.config = manager.config ∧
        (manager.dispose key).1.visible = manager.visible ∧
        (manager.dispose key).1.drain = manager.drain
      rw [dispose_eq]
      exact ⟨rfl, rfl, rfl⟩
  | _ => exact ⟨rfl, rfl, rfl⟩

theorem config_performAll (manager : Manager κ) (actions : List Action) :
    (manager.performAll actions).config = actions.foldl Action.configAfter manager.config := by
  induction actions generalizing manager with
  | nil => rfl
  | cons action rest ih =>
      rw [List.foldl_cons, ← (manager.perform_frame action).1]
      exact ih (manager.perform action)

theorem visible_performAll (manager : Manager κ) (actions : List Action) :
    (manager.performAll actions).visible = actions.foldl Action.visibleAfter manager.visible := by
  induction actions generalizing manager with
  | nil => rfl
  | cons action rest ih =>
      rw [List.foldl_cons, ← (manager.perform_frame action).2.1]
      exact ih (manager.perform action)

private theorem visibleAfter_refreshes (visible documents : List Document) :
    (Action.refreshes documents).foldl Action.visibleAfter visible = visible := by
  induction documents with
  | nil => rfl
  | cons document rest ih => exact ih

theorem visible_step (manager : Manager κ) (operation : Operation) :
    (manager.step operation).visible = operation.visibleAfter manager.visible := by
  rw [step_eq_performAll, visible_performAll]
  cases operation with
  | updateAll => exact visibleAfter_refreshes _ _
  | reset => exact visibleAfter_refreshes _ _
  | setConfig config => exact visibleAfter_refreshes _ _
  | _ => rfl

theorem visible_run (manager : Manager κ) (operations : List Operation) :
    (manager.run operations).visible = operations.foldl Operation.visibleAfter manager.visible := by
  induction operations generalizing manager with
  | nil => rfl
  | cons operation rest ih =>
      rw [List.foldl_cons, ← visible_step]
      exact ih (manager.step operation)

theorem actionsOf_cons (manager : Manager κ) (operation : Operation) (rest : List Operation) :
    actionsOf manager.visible (operation :: rest) =
      operation.actions manager.visible ++
        actionsOf (manager.performAll (operation.actions manager.visible)).visible rest := by
  rw [← step_eq_performAll, visible_step]
  rfl

theorem run_eq_performAll (manager : Manager κ) (operations : List Operation) :
    manager.run operations = manager.performAll (actionsOf manager.visible operations) := by
  induction operations generalizing manager with
  | nil => rfl
  | cons operation rest ih =>
      rw [actionsOf, performAll_append, ← step_eq_performAll, ← visible_step]
      exact ih (manager.step operation)

def issues (manager : Manager κ) (action : Action) : List Event :=
  (manager.perform action).log.drop manager.log.length

theorem issues_eq {manager : Manager κ} {action : Action} {events : List Event}
    (logged : (manager.perform action).log = manager.log ++ events) :
    manager.issues action = events := by
  rw [issues, logged, List.drop_left]

theorem present_effect (manager : Manager κ) (document : Document) (delivery : Option Delivery) :
    ∃ events, (manager.present document delivery).log = manager.log ++ events ∧
      Effect manager (.present document delivery) events
        (manager.present document delivery).registry
        (manager.present document delivery).factory.created := by
  rw [present_eq]
  have resolution := resolution_resolve manager document
  generalize (manager.resolve document).1 = next at resolution ⊢
  generalize (manager.resolve document).2 = answer at resolution ⊢
  cases resolution with
  | invalid undecorated =>
      refine ⟨[], rfl, .passed document delivery ?_⟩
      intro valid
      rw [undecorated] at valid
      cases valid
  | tracked engine valid found =>
      exact ⟨_, rfl, .reached document delivery engine valid found⟩
  | unsupported valid untracked answered =>
      exact ⟨[], rfl, .passed document delivery fun _ => untracked⟩
  | refused error factory valid untracked refusal =>
      rw [complain_eq]
      cases refusal with
      | grammar cause answered => exact ⟨[], rfl, .passed document delivery fun _ => untracked⟩
      | settings cause answered rejected =>
          exact ⟨[], rfl, .passed document delivery fun _ => untracked⟩
      | engine cause rest settings answered accepted queued =>
          exact ⟨[], rfl, .passed document delivery fun _ => untracked⟩
  | made settings valid untracked answered accepted unqueued =>
      exact ⟨_, List.append_assoc _ _ _, .made document delivery settings valid untracked accepted⟩

theorem perform_effect (manager : Manager κ) (action : Action) :
    ∃ events, (manager.perform action).log = manager.log ++ events ∧
      Effect manager action events (manager.perform action).registry
        (manager.perform action).factory.created := by
  cases action with
  | present document delivery => exact manager.present_effect document delivery
  | discard key => exact manager.dispose_effect key
  | discardAll => exact ⟨_, rfl, .cleared⟩
  | _ => exact ⟨[], (List.append_nil _).symm, .quiet _ rfl⟩

theorem log_perform (manager : Manager κ) (action : Action) :
    (manager.perform action).log = manager.log ++ manager.issues action := by
  obtain ⟨events, logged, _effect⟩ := manager.perform_effect action
  rw [issues_eq logged, logged]

theorem effect_perform (manager : Manager κ) (action : Action) :
    Effect manager action (manager.issues action) (manager.perform action).registry
      (manager.perform action).factory.created := by
  obtain ⟨events, logged, effect⟩ := manager.perform_effect action
  rw [issues_eq logged]
  exact effect

def issued (manager : Manager κ) : List Action → List Event
  | [] => []
  | action :: rest => manager.issues action ++ (manager.perform action).issued rest

theorem created_le_performAll (manager : Manager κ) (actions : List Action) :
    manager.factory.created ≤ (manager.performAll actions).factory.created := by
  induction actions generalizing manager with
  | nil => exact Nat.le_refl _
  | cons action rest ih =>
      exact Nat.le_trans (manager.effect_perform action).created_le (ih (manager.perform action))

theorem log_performAll (manager : Manager κ) (actions : List Action) :
    (manager.performAll actions).log = manager.log ++ manager.issued actions := by
  induction actions generalizing manager with
  | nil => exact (List.append_nil _).symm
  | cons action rest ih =>
      rw [issued, ← List.append_assoc, ← log_perform]
      exact ih (manager.perform action)

theorem issued_append (manager : Manager κ) (first second : List Action) :
    manager.issued (first ++ second) =
      manager.issued first ++ (manager.performAll first).issued second := by
  induction first generalizing manager with
  | nil => rfl
  | cons action rest ih =>
      rw [List.cons_append, issued, issued, ih, List.append_assoc]
      rfl

end Manager

end BracketDecoration.Decoration
