import BracketDecoration.Proofs.Decoration.Messages
import BracketDecoration.Proofs.Grammar.Recovery

namespace BracketDecoration.Decoration

open Editor (Document)

/-- Every call is seen in the factory afterwards. -/
theorem Factory.create_ne (factory : Factory) (settings : Settings.Snapshot) :
    (factory.create settings).1 ≠ factory := by
  unfold create
  cases queued : factory.failures with
  | nil =>
      intro same
      exact Nat.succ_ne_self factory.created (congrArg Factory.created same)
  | cons error rest =>
      intro same
      have shorter := congrArg Factory.failures same
      rw [queued] at shorter
      exact List.cons_ne_self error rest shorter.symm

/-- The factory is as it was, and a call would have changed it. -/
def Factory.Uncalled (before after : Factory) : Prop :=
  after = before ∧ ∀ settings, (before.create settings).1 ≠ after

private theorem Factory.uncalled (factory : Factory) : factory.Uncalled factory :=
  ⟨rfl, factory.create_ne⟩

namespace Manager

variable {κ : Type}

/-- There is no entry, no number and no event of an engine that was to be made. -/
structure Unmade (manager next : Manager κ) : Prop where
  registry : next.registry = manager.registry
  config : next.config = manager.config
  created : next.factory.created = manager.factory.created
  log : next.log = manager.log
  visible : next.visible = manager.visible

structure Made (manager : Manager κ) (document : Document) (engine : Engine) (next : Manager κ) : Prop where
  number : engine.id = manager.factory.created + 1
  factory : next.factory = { manager.factory with created := engine.id }
  registry : next.registry = manager.registry.insert document.key engine
  log : next.log = manager.log ++ [.created engine.id document.uri.text engine.settings.grammar]
  config : next.config = manager.config
  throttle : next.throttle = manager.throttle
  shown : next.shown = manager.shown
  visible : next.visible = manager.visible

structure Heard (manager next : Manager κ) (error : BuildError) : Prop where
  throttle : next.throttle = (manager.complain error).throttle
  shown : next.shown = (manager.complain error).shown

/-- What the making of an engine depends on, apart from the document. -/
structure SamePremises (left right : Manager κ) : Prop where
  config : left.config = right.config
  gate : left.gate = right.gate
  core : left.core = right.core
  failures : left.factory.failures = right.factory.failures

variable [Grammar.Tokenizer κ]

def outcome (manager : Manager κ) (document : Document) : Except BuildError (Option Settings.Snapshot) :=
  (manager.build document).2.map (Option.map Engine.settings)

/-- Every way to end without an engine, with the traces that it may leave. -/
inductive Missed (manager : Manager κ) (document : Document) (next : Manager κ) : Prop where
  | invalid (undecorated : document.isValid = false) (same : next = manager)
  | unsupported (valid : document.isValid = true) (answered : manager.outcome document = .ok none)
      (same : next = manager)
  | grammar (cause : Grammar.Error) (valid : document.isValid = true)
      (failed : manager.outcome document = .error (.grammar cause)) (kept : next.gate = manager.gate)
      (uncalled : manager.factory.Uncalled next.factory) (heard : Heard manager next (.grammar cause))
  | settings (cause : Settings.Error) (valid : document.isValid = true)
      (failed : manager.outcome document = .error (.settings cause))
      (uncalled : manager.factory.Uncalled next.factory) (heard : Heard manager next (.settings cause))
  | engine (cause : EngineError) (valid : document.isValid = true)
      (failed : manager.outcome document = .error (.engine cause))
      (spent : manager.factory.failures = cause :: next.factory.failures)
      (heard : Heard manager next (.engine cause))

theorem outcome_eq_prospect (manager : Manager κ) (document : Document) :
    manager.outcome document = manager.prospect document := by
  unfold outcome
  rw [answer_build]
  rcases manager.prospect document with error | _ | settings
  · rfl
  · rfl
  · rfl

theorem outcome_congr {left right : Manager κ} (same : SamePremises left right) (document : Document) :
    left.outcome document = right.outcome document := by
  rw [outcome_eq_prospect, outcome_eq_prospect]
  apply prospect_congr
  · unfold demand
    rw [same.gate, same.core]
  · unfold settingsFor
    rw [same.config]
  · exact same.failures

private theorem outcome_refused {manager : Manager κ} {document : Document} {error : BuildError}
    {factory : Factory} (refusal : Refusal manager document error factory) : manager.outcome document = .error error := by
  unfold outcome
  rw [build_refused refusal]
  rfl

theorem settings_resolve {manager : Manager κ} {document : Document} (valid : document.isValid = true)
    (untracked : manager.registry.find? document.key = none) :
    (manager.resolve document).2.map Engine.settings = (manager.outcome document).toOption.join := by
  rw [outcome_eq_prospect]
  have outlook := outlook_prospect manager document
  generalize manager.prospect document = prospect at outlook ⊢
  cases outlook with
  | unsupported answered =>
      rw [resolve_unsupported valid untracked answered]
      rfl
  | refused error refusal =>
      rw [resolve_refused valid untracked refusal]
      rfl
  | granted settings answered accepted unqueued =>
      rw [resolve_made valid untracked answered accepted unqueued]
      rfl

private theorem Resolution.unmade {manager next : Manager κ} {document : Document}
    (resolution : Resolution manager document next none) : Unmade manager next := by
  cases resolution with
  | invalid | unsupported => exact ⟨rfl, rfl, rfl, rfl, rfl⟩
  | refused error factory valid untracked refusal =>
      rw [complain_eq]
      have created : factory.created = manager.factory.created := by
        cases refusal with
        | _ => rfl
      exact ⟨rfl, rfl, created, rfl, rfl⟩

theorem gate_asked_of_failed {manager : Manager κ} {document : Document} {cause : Grammar.Error}
    (answered : (manager.demand document).answer = .error cause) :
    (manager.asked document).gate = manager.gate :=
  ((manager.gate.meeting_ensure manager.core _).of_error answered).2.2.1

private theorem heard_refused (manager : Manager κ) (document : Document) (factory : Factory)
    (error : BuildError) :
    Heard manager ({ manager.asked document with factory }.complain error) error := by
  constructor
  · unfold complain
    cases error.userMessage? with
    | _ => rfl
  · unfold complain
    cases error.userMessage? with
    | _ => rfl

private theorem Resolution.missed {manager next : Manager κ} {document : Document}
    (resolution : Resolution manager document next none) : Missed manager document next := by
  cases resolution with
  | invalid undecorated => exact .invalid undecorated rfl
  | unsupported valid _untracked answered =>
      have answer : manager.outcome document = .ok none := by
        unfold outcome
        rw [build_unsupported answered]
        rfl
      exact .unsupported valid answer (asked_of_unsupported answered)
  | refused error factory valid _untracked refusal =>
      have failed := outcome_refused refusal
      have heard := manager.heard_refused document factory error
      -- A complaint changes neither the gate nor the factory.
      rw [complain_eq] at heard ⊢
      cases refusal with
      | grammar cause answered =>
          exact .grammar cause valid failed (gate_asked_of_failed answered) manager.factory.uncalled heard
      | settings cause => exact .settings cause valid failed manager.factory.uncalled heard
      | engine cause rest _settings _answered _accepted queued =>
          exact .engine cause valid failed queued heard

private theorem Resolution.made_of_untracked {manager next : Manager κ} {document : Document} {engine : Engine}
    (resolution : Resolution manager document next (some engine))
    (untracked : manager.registry.find? document.key = none) : Made manager document engine next := by
  cases resolution with
  | tracked _engine _valid found =>
      rw [untracked] at found
      cases found
  | made => exact ⟨rfl, rfl, rfl, rfl, rfl, rfl, rfl, rfl⟩

/-- A document that has an engine is answered with it, and nothing changes. An engine that is made is there with
all that belongs to it, and one that is not made has left nothing; what else may change depends on how it was
missed. What comes of an attempt is the same for all managers that agree on what it depends on, whatever was
tried before. -/
theorem resolve_atomic (manager : Manager κ) (document : Document) :
    (∀ engine, document.isValid = true → manager.registry.find? document.key = some engine →
      manager.resolve document = (manager, some engine)) ∧
    ((manager.resolve document).2 = none →
      Unmade manager (manager.resolve document).1 ∧ Missed manager document (manager.resolve document).1) ∧
    (document.isValid = true → manager.registry.find? document.key = none →
      (manager.resolve document).2.map Engine.settings = (manager.outcome document).toOption.join ∧
      (∀ engine, (manager.resolve document).2 = some engine →
        Made manager document engine (manager.resolve document).1) ∧
      ∀ other : Manager κ, SamePremises manager other → other.registry.find? document.key = none →
        other.outcome document = manager.outcome document ∧
          (other.resolve document).2.map Engine.settings =
            (manager.resolve document).2.map Engine.settings) := by
  have resolution := resolution_resolve manager document
  refine ⟨fun engine valid found => resolve_tracked valid found, fun missed => ?_, fun valid untracked => ?_⟩
  · rw [missed] at resolution
    exact ⟨resolution.unmade, resolution.missed⟩
  · have settings := settings_resolve valid untracked
    refine ⟨settings, fun engine made => ?_, fun other same forgotten => ?_⟩
    · rw [made] at resolution
      exact resolution.made_of_untracked untracked
    · have outcome := (outcome_congr same document).symm
      refine ⟨outcome, ?_⟩
      rw [settings_resolve valid forgotten, settings, outcome]

end Manager

end BracketDecoration.Decoration
