import BracketDecoration.Proofs.Decoration.Noninterference
import BracketDecoration.Proofs.Decoration.Verdict

namespace BracketDecoration.Decoration

open Editor (Document)

structure Failure where
  error : BuildError
  enabled : Bool
deriving DecidableEq

def Failure.isTold (failure : Failure) : Bool :=
  failure.enabled && failure.error != .engine .aborted

def Failure.text (failure : Failure) : String := errorHeading ++ failure.error.message

theorem Failure.isTold_iff (failure : Failure) :
    failure.isTold = true ↔ failure.enabled = true ∧ failure.error ≠ .engine .aborted := by
  rw [isTold, Bool.and_eq_true, bne_iff_ne]

/-- The throttle once a message was let through: another callback is scheduled to enable it. -/
def Throttle.silenced (throttle : Throttle) : Throttle :=
  { throttle with enabled := false, timer := throttle.timer.schedule throttle.cooldown }

theorem BuildError.userMessage?_of_ne {error : BuildError} (unaborted : error ≠ .engine .aborted) :
    error.userMessage? = some error.message := by
  cases error with
  | grammar | settings => rfl
  | engine cause =>
      cases cause with
      | aborted => exact absurd rfl unaborted
      | _ => rfl

def Verdict.error? : Verdict → Option BuildError
  | .refused error => some error
  | _ => none

namespace Manager

def Action.isTimed : Action → Bool
  | .fire | .advance _ => true
  | _ => false

variable {κ : Type}

theorem complain_told (manager : Manager κ) {error : BuildError}
    (told : (Failure.mk error manager.throttle.enabled).isTold = true) :
    manager.complain error =
      { manager with
        throttle := manager.throttle.silenced
        shown := manager.shown ++ [errorHeading ++ error.message] } := by
  obtain ⟨enabled, unaborted⟩ := (Failure.isTold_iff _).mp told
  change manager.throttle.enabled = true at enabled
  unfold complain report Throttle.report
  rw [BuildError.userMessage?_of_ne unaborted]
  dsimp only
  rw [if_pos enabled]
  rfl

theorem complain_untold (manager : Manager κ) {error : BuildError}
    (untold : (Failure.mk error manager.throttle.enabled).isTold = false) :
    manager.complain error = manager := by
  by_cases aborted : error = .engine .aborted
  · rw [aborted]
    rfl
  · have disabled : manager.throttle.enabled = false := by
      rw [Bool.eq_false_iff]
      intro enabled
      exact Bool.eq_false_iff.mp untold ((Failure.isTold_iff _).mpr ⟨enabled, aborted⟩)
    unfold complain report Throttle.report
    rw [BuildError.userMessage?_of_ne aborted, disabled]
    rfl

variable [Grammar.Tokenizer κ]

/-- The error for which a document does not get an engine that it needs. -/
def refusal? (manager : Manager κ) (document : Document) : Option BuildError :=
  if document.isValid = true ∧ manager.registry.find? document.key = none then
    match (manager.build document).2 with
    | .error error => some error
    | .ok _ => none
  else none

def failure? (manager : Manager κ) : Action → Option BuildError
  | .present document _ => manager.refusal? document
  | _ => none

def failures (manager : Manager κ) : List Action → List Failure
  | [] => []
  | action :: rest =>
    (manager.failure? action).toList.map (Failure.mk · manager.throttle.enabled) ++
      (manager.perform action).failures rest

theorem answer_build (manager : Manager κ) (document : Document) :
    (manager.build document).2 =
      (manager.prospect document).map
        (Option.map fun settings => ⟨manager.factory.created + 1, settings⟩) := by
  have outlook := outlook_prospect manager document
  generalize manager.prospect document = prospect at outlook ⊢
  cases outlook with
  | unsupported answered =>
      rw [build_unsupported answered]
      rfl
  | refused error refusal =>
      rw [build_refused refusal]
      rfl
  | granted settings answered accepted unqueued =>
      rw [build_made answered accepted unqueued]
      rfl

theorem refusal?_eq (manager : Manager κ) (document : Document) :
    manager.refusal? document = (manager.verdict document).error? := by
  unfold refusal?
  by_cases valid : document.isValid = true
  · cases found : manager.registry.find? document.key with
    | some engine =>
        rw [if_neg (fun condition => nomatch condition.2), verdict_tracked valid found]
        rfl
    | none =>
        rw [if_pos ⟨valid, rfl⟩, verdict_untracked valid found, answer_build]
        rcases manager.prospect document with error | _ | settings
        · rfl
        · rfl
        · rfl
  · rw [if_neg (fun condition => valid condition.1), verdict_undecorated (Bool.eq_false_iff.mpr valid)]
    rfl

/-- Documents that are not decorated or have an engine are not refused one, and neither are those whose
language has no grammar. -/
theorem failure?_eq_some_iff (manager : Manager κ) (action : Action) (error : BuildError) :
    manager.failure? action = some error ↔
      ∃ document delivery, action = .present document delivery ∧ document.isValid = true ∧
        manager.registry.find? document.key = none ∧
        Refusal manager document error (manager.factory.spend error) := by
  constructor
  · intro failed
    cases action with
    | present document delivery =>
        change manager.refusal? document = some error at failed
        refine ⟨document, delivery, rfl, ?_⟩
        unfold refusal? at failed
        by_cases needed : document.isValid = true ∧ manager.registry.find? document.key = none
        · refine ⟨needed.1, needed.2, ?_⟩
          rw [if_pos needed, answer_build] at failed
          have outlook := outlook_prospect manager document
          generalize manager.prospect document = prospect at outlook failed
          cases outlook with
          | refused other refusal =>
              cases failed
              exact refusal
          | unsupported | granted => cases failed
        · rw [if_neg needed] at failed
          cases failed
    | _ => cases failed
  · rintro ⟨document, delivery, rfl, valid, untracked, refusal⟩
    change manager.refusal? document = some error
    rw [refusal?_eq, verdict_untracked valid untracked, (prospect_refused refusal).1]
    rfl

theorem settle_refused (manager : Manager κ) (document : Document) (error : BuildError) :
    (manager.settle document (.refused error)).shown = (manager.complain error).shown ∧
      (manager.settle document (.refused error)).throttle = (manager.complain error).throttle := by
  rw [settle]
  unfold complain
  cases error.userMessage? with
  | none => exact ⟨rfl, rfl⟩
  | some message => exact ⟨rfl, rfl⟩

theorem perform_of_failure {manager : Manager κ} {action : Action} {error : BuildError}
    (failed : manager.failure? action = some error) :
    (manager.perform action).shown = (manager.complain error).shown ∧
      (manager.perform action).throttle = (manager.complain error).throttle := by
  cases action with
  | present document delivery =>
      change manager.refusal? document = some error at failed
      rw [refusal?_eq] at failed
      change (manager.present document delivery).shown = _ ∧
        (manager.present document delivery).throttle = _
      rw [present_eq_settle]
      generalize manager.verdict document = verdict at failed ⊢
      cases verdict with
      | refused other =>
          cases failed
          exact manager.settle_refused document error
      | ignored | served | granted => cases failed
  | _ => cases failed

theorem perform_of_success {manager : Manager κ} {action : Action}
    (succeeded : manager.failure? action = none) :
    (manager.perform action).shown = manager.shown ∧
      (action.isTimed = false → (manager.perform action).throttle = manager.throttle) := by
  cases action with
  | present document delivery =>
      change manager.refusal? document = none at succeeded
      rw [refusal?_eq] at succeeded
      change (manager.present document delivery).shown = _ ∧
        (_ → (manager.present document delivery).throttle = _)
      rw [present_eq_settle]
      generalize manager.verdict document = verdict at succeeded ⊢
      cases verdict with
      | refused error => cases succeeded
      | ignored | served | granted => exact ⟨rfl, fun _ => rfl⟩
  | discard key =>
      change (manager.dispose key).1.shown = _ ∧ (_ → (manager.dispose key).1.throttle = _)
      rw [dispose_eq]
      exact ⟨rfl, fun _ => rfl⟩
  | fire | advance => exact ⟨rfl, nofun⟩
  | _ => exact ⟨rfl, fun _ => rfl⟩

/-- The user and the throttle take notice of an action only if it fails to make an engine, and the throttle
has to be enabled then. -/
structure Announces (manager : Manager κ) (action : Action) : Prop where
  failed : ∀ error, manager.failure? action = some error ↔
    ∃ document delivery, action = .present document delivery ∧ document.isValid = true ∧
      manager.registry.find? document.key = none ∧
      Refusal manager document error (manager.factory.spend error)
  told : ∀ error, manager.failure? action = some error → manager.throttle.enabled = true →
    error ≠ .engine .aborted →
    (manager.perform action).shown = manager.shown ++ [errorHeading ++ error.message] ∧
      (manager.perform action).throttle = manager.throttle.silenced
  dropped : ∀ error, manager.failure? action = some error →
    manager.throttle.enabled = false ∨ error = .engine .aborted →
    (manager.perform action).shown = manager.shown ∧
      (manager.perform action).throttle = manager.throttle
  calm : manager.failure? action = none → (manager.perform action).shown = manager.shown ∧
    (action.isTimed = false → (manager.perform action).throttle = manager.throttle)

private theorem announces (manager : Manager κ) (action : Action) : manager.Announces action where
  failed := manager.failure?_eq_some_iff action
  told := by
    intro error failed enabled unaborted
    have told : (Failure.mk error manager.throttle.enabled).isTold = true :=
      (Failure.isTold_iff _).mpr ⟨enabled, unaborted⟩
    have complained := perform_of_failure failed
    rw [manager.complain_told told] at complained
    exact complained
  dropped := by
    intro error failed cause
    have untold : (Failure.mk error manager.throttle.enabled).isTold = false := by
      rw [Bool.eq_false_iff]
      intro told
      obtain ⟨enabled, unaborted⟩ := (Failure.isTold_iff _).mp told
      rcases cause with disabled | aborted
      · exact absurd enabled (Bool.eq_false_iff.mp disabled)
      · exact unaborted aborted
    have complained := perform_of_failure failed
    rw [manager.complain_untold untold] at complained
    exact complained
  calm := perform_of_success

theorem shown_perform (manager : Manager κ) (action : Action) :
    (manager.perform action).shown = manager.shown ++
      (((manager.failure? action).toList.map (Failure.mk · manager.throttle.enabled)).filter
        Failure.isTold).map Failure.text := by
  cases failed : manager.failure? action with
  | none => exact (perform_of_success failed).1.trans (List.append_nil _).symm
  | some error =>
      rw [(perform_of_failure failed).1]
      change _ = _ ++ ([Failure.mk error manager.throttle.enabled].filter _).map _
      cases told : (Failure.mk error manager.throttle.enabled).isTold with
      | true =>
          rw [manager.complain_told told, List.filter_cons_of_pos told]
          rfl
      | false =>
          rw [manager.complain_untold told, List.filter_cons_of_neg (Bool.eq_false_iff.mp told)]
          exact (List.append_nil _).symm

theorem shown_performAll (manager : Manager κ) (actions : List Action) :
    (manager.performAll actions).shown =
      manager.shown ++ ((manager.failures actions).filter Failure.isTold).map Failure.text := by
  induction actions generalizing manager with
  | nil => exact (List.append_nil _).symm
  | cons action rest ih =>
      rw [failures, List.filter_append, List.map_append, ← List.append_assoc, ← shown_perform]
      exact ih (manager.perform action)

/-- The messages of a run are the texts of the failures that meet an enabled throttle, in order, without those
of aborted engines. Every one of them silences the throttle and has a callback scheduled. No other failure is
noticed and nothing else that is done to the manager is, whatever the timer is. -/
theorem run_shown (start : Manager κ) (operations : List Operation) :
    let actions := actionsOf start.visible operations
    start.run operations = start.performAll actions ∧
      (start.run operations).shown =
        start.shown ++ ((start.failures actions).filter Failure.isTold).map Failure.text ∧
      ∀ before action after, actions = before ++ action :: after →
        (start.performAll before).Announces action := by
  intro actions
  have performed := start.run_eq_performAll operations
  refine ⟨performed, ?_, ?_⟩
  · rw [performed]
    exact start.shown_performAll actions
  · intro before action after _cut
    exact (start.performAll before).announces action

/-- Two failures at once, an aborted engine once the timer has fired, and a failure of another kind. -/
def muffled : List Operation :=
  [.withConfig unusable, .setVisible [untitled "rust", untitled "go"], .updateAll, .fire,
    .withConfig .empty, .failNext .aborted, .openDocument (untitled "rust"), .failNext (.other "busy"),
    .openDocument (untitled "rust")]

theorem run_shown_muffled :
    let actions := actionsOf bilingual.visible muffled
    let problem : BuildError := .settings (.timeoutOutOfRange 20000)
    let failing := Action.present (untitled "rust") (some .refresh)
    (bilingual.failures actions).map Failure.isTold = [true, false, false, true] ∧
      (bilingual.run muffled).shown =
        [errorHeading ++ problem.message, errorHeading ++ (BuildError.engine (.other "busy")).message] ∧
      actions = actions.take 2 ++ failing :: actions.drop 3 ∧
      (bilingual.performAll (actions.take 2)).failure? failing = some problem ∧
      ((bilingual.performAll (actions.take 2)).perform failing).throttle =
        ⟨false, errorCooldown, .manual [errorCooldown]⟩ := by
  intro actions problem failing
  obtain ⟨_performed, shown, announced⟩ := run_shown bilingual muffled
  have failures : bilingual.failures actions =
      [⟨problem, true⟩, ⟨problem, false⟩, ⟨.engine .aborted, true⟩,
        ⟨.engine (.other "busy"), true⟩] := by
    decide +kernel
  have cut : actions = actions.take 2 ++ failing :: actions.drop 3 := rfl
  have failed : (bilingual.performAll (actions.take 2)).failure? failing = some problem := by
    decide +kernel
  obtain ⟨_told, silenced⟩ := (announced _ failing _ cut).told problem failed rfl nofun
  refine ⟨by rw [failures]; rfl, ?_, cut, failed, silenced⟩
  change _ = bilingual.shown ++ ((bilingual.failures actions).filter _).map _ at shown
  rw [shown, failures]
  rfl

end Manager

end BracketDecoration.Decoration
