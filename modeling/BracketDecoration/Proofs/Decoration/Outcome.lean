import BracketDecoration.Proofs.Decoration.Projection

namespace BracketDecoration.Decoration

open Editor (Document DocumentKey)

namespace Manager

variable {κ : Type} [Grammar.Tokenizer κ] {manager : Manager κ} {document : Document}

/-- What an action comes to: the events that it brings, and the registry and the number of engines after it. -/
structure Outcome (manager : Manager κ) (action : Action) (events : List Event) (registry : Registry)
    (made : Nat) : Prop where
  issues : manager.issues action = events
  registry : (manager.perform action).registry = registry
  created : (manager.perform action).factory.created = made

def offer (manager : Manager κ) (document : Document) : Option Settings.Snapshot :=
  match (manager.demand document).answer with
  | .ok true => (manager.settingsFor document).toOption
  | _ => none

theorem offer_eq_some_iff {settings : Settings.Snapshot} :
    manager.offer document = some settings ↔
      (manager.demand document).answer = .ok true ∧ manager.settingsFor document = .ok settings := by
  unfold offer
  constructor
  · intro offered
    split at offered
    · rename_i answered
      refine ⟨answered, ?_⟩
      cases accepted : manager.settingsFor document with
      | error cause =>
          rw [accepted] at offered
          cases offered
      | ok resolved =>
          rw [accepted] at offered
          cases offered
          rfl
    · cases offered
  · rintro ⟨answered, accepted⟩
    rw [answered, accepted]
    rfl

theorem outcome_present {next : Manager κ} {answer : Option Engine} {events : List Event}
    (resolved : manager.resolve document = (next, answer)) (logged : next.log = manager.log ++ events)
    (delivery : Option Delivery) :
    Outcome manager (.present document delivery)
      (events ++ answer.elim [] fun engine => told engine.id delivery) next.registry
      next.factory.created := by
  have presented : manager.perform (.present document delivery) =
      { next with log := next.log ++ answer.elim [] fun engine => told engine.id delivery } := by
    change manager.present document delivery = _
    rw [present_eq, resolved]
  refine ⟨issues_eq ?_, ?_, ?_⟩
  · rw [presented, logged, List.append_assoc]
  · rw [presented]
  · rw [presented]

theorem outcome_reached {engine : Engine} (valid : document.isValid = true)
    (found : manager.registry.find? document.key = some engine) (delivery : Option Delivery) :
    Outcome manager (.present document delivery) (told engine.id delivery) manager.registry
      manager.factory.created :=
  outcome_present (resolve_tracked valid found) (List.append_nil _).symm delivery

theorem outcome_made {settings : Settings.Snapshot} (valid : document.isValid = true)
    (untracked : manager.registry.find? document.key = none)
    (offered : manager.offer document = some settings) (unqueued : manager.factory.failures = [])
    (delivery : Option Delivery) :
    Outcome manager (.present document delivery)
      (.created (manager.factory.created + 1) document.uri.text settings.grammar ::
        told (manager.factory.created + 1) delivery)
      (manager.registry.insert document.key ⟨manager.factory.created + 1, settings⟩)
      (manager.factory.created + 1) := by
  obtain ⟨answered, accepted⟩ := offer_eq_some_iff.mp offered
  exact outcome_present (resolve_made valid untracked answered accepted unqueued) rfl delivery

private theorem Resolution.of_unserved {next : Manager κ} {answer : Option Engine}
    (resolution : Resolution manager document next answer)
    (unserved : document.isValid = true →
      manager.registry.find? document.key = none ∧ manager.offer document = none) :
    answer = none ∧ next.log = manager.log ∧ next.registry = manager.registry ∧
      next.factory.created = manager.factory.created := by
  cases resolution with
  | invalid undecorated => exact ⟨rfl, rfl, rfl, rfl⟩
  | tracked engine valid found =>
      rw [(unserved valid).1] at found
      cases found
  | unsupported valid untracked answered => exact ⟨rfl, rfl, rfl, rfl⟩
  | refused error factory valid untracked refusal =>
      rw [complain_eq]
      cases refusal with
      | _ => exact ⟨rfl, rfl, rfl, rfl⟩
  | made settings valid untracked answered accepted unqueued =>
      have offered := offer_eq_some_iff.mpr ⟨answered, accepted⟩
      rw [(unserved valid).2] at offered
      cases offered

theorem outcome_unserved
    (unserved : document.isValid = true →
      manager.registry.find? document.key = none ∧ manager.offer document = none)
    (delivery : Option Delivery) :
    Outcome manager (.present document delivery) [] manager.registry manager.factory.created := by
  obtain ⟨nobody, logged, kept, counted⟩ :=
    (resolution_resolve manager document).of_unserved unserved
  have unlogged : (manager.resolve document).1.log = manager.log ++ [] :=
    logged.trans (List.append_nil _).symm
  have resolved : manager.resolve document = ((manager.resolve document).1, none) :=
    Prod.ext rfl nobody
  have outcome := outcome_present resolved unlogged delivery
  rw [kept, counted] at outcome
  exact outcome

theorem outcome_discard (manager : Manager κ) (key : DocumentKey) :
    Outcome manager (.discard key)
      ((manager.registry.heldFor key).map fun holding => .disposed holding.engine)
      (manager.registry.erase key) manager.factory.created := by
  have disposed : manager.perform (.discard key) = _ := manager.dispose_eq key
  refine ⟨issues_eq ?_, ?_, ?_⟩
  · rw [disposed, Registry.heldFor, List.map_map]
    rfl
  · rw [disposed]
  · rw [disposed]

theorem outcome_discardAll (manager : Manager κ) :
    Outcome manager .discardAll (manager.released.map fun holding => .disposed holding.engine) .empty
      manager.factory.created := by
  refine ⟨issues_eq ?_, rfl, rfl⟩
  rw [← disposals_eq]
  rfl

theorem outcome_quiet {action : Action} (silent : action.isQuiet = true) :
    Outcome manager action [] manager.registry manager.factory.created := by
  cases action with
  | present | discard | discardAll => cases silent
  | _ => exact ⟨issues_eq (List.append_nil _).symm, rfl, rfl⟩

end Manager

end BracketDecoration.Decoration
