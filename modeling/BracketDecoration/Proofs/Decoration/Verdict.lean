import BracketDecoration.Proofs.Decoration.Actions
import BracketDecoration.Proofs.Grammar.Availability
import Mathlib.Data.List.Forall2

/-!
What is decided about a document that is presented, told apart from what follows from it. The decision looks at
the registry, the answer of the gate, the settings and the queued failures, and at nothing else. All that
presenting the document does to a manager follows from the decision.
-/

namespace BracketDecoration.Decoration

open Editor (Document)

inductive Verdict where
  /-- The document is not decorated, or its language has no grammar. -/
  | ignored
  | served (engine : Engine)
  | refused (error : BuildError)
  | granted (settings : Settings.Snapshot)

def Factory.spend (factory : Factory) : BuildError → Factory
  | .engine _ => { factory with failures := factory.failures.tail }
  | _ => factory

def Verdict.events (document : Document) (delivery : Option Delivery) (created : Nat) :
    Verdict → List Event
  | .ignored | .refused _ => []
  | .served engine => told engine.id delivery
  | .granted settings =>
    .created (created + 1) document.uri.text settings.grammar :: told (created + 1) delivery

namespace Manager

variable {κ : Type} [Grammar.Tokenizer κ]

def prospect (manager : Manager κ) (document : Document) :
    Except BuildError (Option Settings.Snapshot) :=
  match (manager.demand document).answer with
  | .error cause => .error (.grammar cause)
  | .ok false => .ok none
  | .ok true =>
    match manager.settingsFor document with
    | .error cause => .error (.settings cause)
    | .ok settings =>
      match manager.factory.failures with
      | cause :: _ => .error (.engine cause)
      | [] => .ok (some settings)

def verdict (manager : Manager κ) (document : Document) : Verdict :=
  if document.isValid then
    match manager.registry.find? document.key with
    | some engine => .served engine
    | none =>
      match manager.prospect document with
      | .error error => .refused error
      | .ok none => .ignored
      | .ok (some settings) => .granted settings
  else .ignored

def settle (manager : Manager κ) (document : Document) : Verdict → Manager κ
  | .ignored | .served _ => manager
  | .refused error =>
    { manager.asked document with factory := manager.factory.spend error }.complain error
  | .granted settings => (manager.asked document).enroll document settings

theorem prospect_refused {manager : Manager κ} {document : Document} {error : BuildError}
    {factory : Factory} (refusal : Refusal manager document error factory) :
    manager.prospect document = .error error ∧ factory = manager.factory.spend error := by
  unfold prospect
  cases refusal with
  | grammar cause answered =>
      rw [answered]
      exact ⟨rfl, rfl⟩
  | settings cause answered rejected =>
      rw [answered, rejected]
      exact ⟨rfl, rfl⟩
  | engine cause rest settings answered accepted queued =>
      rw [answered, accepted, Factory.spend, queued]
      exact ⟨rfl, rfl⟩

/-- Every way in which an attempt to make an engine can turn out. -/
inductive Outlook (manager : Manager κ) (document : Document) :
    Except BuildError (Option Settings.Snapshot) → Prop where
  | unsupported (answered : (manager.demand document).answer = .ok false) :
      Outlook manager document (.ok none)
  | refused (error : BuildError)
      (refusal : Refusal manager document error (manager.factory.spend error)) :
      Outlook manager document (.error error)
  | granted (settings : Settings.Snapshot) (answered : (manager.demand document).answer = .ok true)
      (accepted : manager.settingsFor document = .ok settings)
      (unqueued : manager.factory.failures = []) : Outlook manager document (.ok (some settings))

theorem outlook_prospect (manager : Manager κ) (document : Document) :
    Outlook manager document (manager.prospect document) := by
  unfold prospect
  cases answered : (manager.demand document).answer with
  | error cause => exact .refused _ (.grammar cause answered)
  | ok supported =>
      cases supported with
      | false => exact .unsupported answered
      | true =>
          cases accepted : manager.settingsFor document with
          | error cause => exact .refused _ (.settings cause answered accepted)
          | ok settings =>
              cases queued : manager.factory.failures with
              | nil => exact .granted settings answered accepted queued
              | cons cause rest =>
                  have refusal := Refusal.engine cause rest settings answered accepted queued
                  have spent : manager.factory.spend (.engine cause) =
                      { manager.factory with failures := rest } := by
                    rw [Factory.spend, queued]
                    rfl
                  exact .refused _ (spent ▸ refusal)

theorem asked_of_unsupported {manager : Manager κ} {document : Document}
    (answered : (manager.demand document).answer = .ok false) : manager.asked document = manager := by
  have meeting := manager.gate.meeting_ensure manager.core (Grammar.idForLanguage document.language)
  unfold asked
  unfold demand at answered ⊢
  generalize manager.gate.ensure manager.core (Grammar.idForLanguage document.language) = demand
    at meeting answered ⊢
  generalize manager.gate.loaderRun? manager.core _ = run at meeting
  cases meeting with
  | unsupported unavailable missing => rfl
  | held | adopted | loaded | failed => cases answered

theorem verdict_undecorated {manager : Manager κ} {document : Document}
    (undecorated : document.isValid = false) : manager.verdict document = .ignored :=
  if_neg (Bool.eq_false_iff.mp undecorated)

theorem verdict_tracked {manager : Manager κ} {document : Document} {engine : Engine}
    (valid : document.isValid = true) (found : manager.registry.find? document.key = some engine) :
    manager.verdict document = .served engine := by
  rw [verdict, if_pos valid, found]

theorem verdict_untracked {manager : Manager κ} {document : Document}
    (valid : document.isValid = true) (untracked : manager.registry.find? document.key = none) :
    manager.verdict document =
      match manager.prospect document with
      | .error error => .refused error
      | .ok none => .ignored
      | .ok (some settings) => .granted settings := by
  rw [verdict, if_pos valid, untracked]

theorem prospect_congr {left right : Manager κ} {document : Document}
    (answered : (left.demand document).answer = (right.demand document).answer)
    (settings : left.settingsFor document = right.settingsFor document)
    (queued : left.factory.failures = right.factory.failures) :
    left.prospect document = right.prospect document := by
  unfold prospect
  rw [answered, settings, queued]

/-- A presentation carries out its verdict. -/
theorem present_eq_settle (manager : Manager κ) (document : Document) (delivery : Option Delivery) :
    manager.present document delivery =
      { manager.settle document (manager.verdict document) with
        log := manager.log ++
          (manager.verdict document).events document delivery manager.factory.created } := by
  rw [present_eq]
  have resolution := resolution_resolve manager document
  generalize (manager.resolve document).1 = next at resolution ⊢
  generalize (manager.resolve document).2 = answer at resolution ⊢
  cases resolution with
  | invalid undecorated =>
      rw [verdict_undecorated undecorated]
      rfl
  | tracked engine valid found =>
      rw [verdict_tracked valid found]
      rfl
  | unsupported valid untracked answered =>
      have decided : manager.verdict document = .ignored := by
        rw [verdict_untracked valid untracked, prospect, answered]
      rw [decided, asked_of_unsupported answered]
      rfl
  | refused error factory valid untracked refusal =>
      obtain ⟨failed, rfl⟩ := prospect_refused refusal
      have decided : manager.verdict document = .refused error := by
        rw [verdict_untracked valid untracked, failed]
      rw [decided, settle, complain_eq]
      rfl
  | made settings valid untracked answered accepted unqueued =>
      have decided : manager.verdict document = .granted settings := by
        rw [verdict_untracked valid untracked, prospect, answered, accepted, unqueued]
      rw [decided]
      exact congrArg (fun log => { (manager.asked document).enroll document settings with log })
        (List.append_assoc _ _ _)

theorem issues_present (manager : Manager κ) (document : Document) (delivery : Option Delivery) :
    manager.issues (.present document delivery) =
      (manager.verdict document).events document delivery manager.factory.created := by
  apply issues_eq
  change (manager.present document delivery).log = _
  rw [present_eq_settle]

theorem loaders_perform (manager : Manager κ) (action : Action) :
    (manager.perform action).gate.loaders = manager.gate.loaders := by
  cases action with
  | present document delivery =>
      have asked : (manager.asked document).gate.loaders = manager.gate.loaders :=
        (manager.gate.meeting_ensure manager.core _).loaders_eq
      change (manager.present document delivery).gate.loaders = manager.gate.loaders
      rw [present_eq_settle]
      cases manager.verdict document with
      | ignored | served => rfl
      | refused error =>
          rw [settle, complain_eq]
          exact asked
      | granted settings => exact asked
  | discard key =>
      change (manager.dispose key).1.gate.loaders = manager.gate.loaders
      rw [dispose_eq]
  | _ => rfl

theorem loaders_run (manager : Manager κ) (operations : List Operation) :
    (manager.run operations).gate.loaders = manager.gate.loaders := by
  rw [run_eq_performAll]
  induction actionsOf manager.visible operations generalizing manager with
  | nil => rfl
  | cons action rest ih => exact (ih (manager.perform action)).trans (manager.loaders_perform action)

theorem performAll_related {related : Manager κ → Manager κ → Prop}
    {paired : Action → Action → Prop}
    (kept : ∀ {left right : Manager κ} {first second : Action}, paired first second →
      related left right → related (left.perform first) (right.perform second))
    {firsts seconds : List Action} (pairs : List.Forall₂ paired firsts seconds)
    {left right : Manager κ} (start : related left right) :
    related (left.performAll firsts) (right.performAll seconds) := by
  induction pairs generalizing left right with
  | nil => exact start
  | cons pair rest ih => exact ih (kept pair start)

end Manager

end BracketDecoration.Decoration
