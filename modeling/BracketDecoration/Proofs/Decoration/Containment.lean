import BracketDecoration.Proofs.Decoration.Legality
import BracketDecoration.Proofs.Decoration.Noninterference
import BracketDecoration.Proofs.Decoration.Verdict
import BracketDecoration.Proofs.Grammar.Builtin

/-!
Failures are contained. If a document cannot be given an engine, the attempt may have loaded a grammar and
silenced the throttle, and nothing that comes later is different for it: over a catalog that only the gate adds
to, the gate answers as it would have, and all else is as it was.
-/

namespace BracketDecoration.Decoration.Manager

open Editor (Document)

def Action.registers : Action → Bool
  | .register _ => true
  | _ => false

def Operation.registers : Operation → Bool
  | .register _ => true
  | _ => false

def Operation.presented? : Operation → Option Document
  | .openDocument document | .updateDocument document | .changeDocument document _
  | .resolve document => some document
  | _ => none

private theorem actions_unregistering (operation : Operation) (unregistering : operation.registers = false)
    (visible : List Document) : ∀ action ∈ operation.actions visible, action.registers = false := by
  have refreshed : ∀ action ∈ Action.refreshes visible, action.registers = false :=
    forall_refreshes (fun _ => rfl) visible
  cases operation with
  | updateAll => exact refreshed
  | reset => exact List.forall_mem_cons.mpr ⟨rfl, refreshed⟩
  | setConfig config =>
      exact List.forall_mem_cons.mpr ⟨rfl, List.forall_mem_cons.mpr ⟨rfl, refreshed⟩⟩
  | register definition => cases unregistering
  | _ => exact List.forall_mem_singleton.mpr rfl

variable {answers : String → Except Grammar.Error Bool} {left right : Manager Grammar.Catalog}

/-- The gates give the same answers, whatever they have. The throttles and the messages may differ too. -/
structure Interchangeable (answers : String → Except Grammar.Error Bool)
    (left right : Manager Grammar.Catalog) : Prop where
  config : left.config = right.config
  factory : left.factory = right.factory
  registry : left.registry = right.registry
  drain : left.drain = right.drain
  visible : left.visible = right.visible
  log : left.log = right.log
  answering : left.gate.Answers answers left.core
  answeringToo : right.gate.Answers answers right.core

private theorem Interchangeable.verdict_eq (alike : Interchangeable answers left right)
    (document : Document) : left.verdict document = right.verdict document := by
  have prospect : left.prospect document = right.prospect document := by
    apply prospect_congr
    · exact (alike.answering.given _).trans (alike.answeringToo.given _).symm
    · unfold settingsFor
      rw [alike.config]
    · rw [alike.factory]
  unfold verdict
  rw [alike.registry, prospect]

private theorem Interchangeable.complain (alike : Interchangeable answers left right) (error : BuildError) :
    Interchangeable answers (left.complain error) (right.complain error) := by
  rw [complain_eq left, complain_eq right]
  exact { alike with }

theorem Interchangeable.settle (alike : Interchangeable answers left right) (document : Document)
    (verdict : Verdict) :
    Interchangeable answers (left.settle document verdict) (right.settle document verdict) := by
  obtain ⟨config, factory, registry, drain, visible, log, answering, answeringToo⟩ := alike
  have asked := answering.after (Grammar.idForLanguage document.language)
  have askedToo := answeringToo.after (Grammar.idForLanguage document.language)
  cases verdict with
  | ignored | served => exact ⟨config, factory, registry, drain, visible, log, answering, answeringToo⟩
  | refused error =>
      have spent := congrArg (Factory.spend · error) factory
      apply Interchangeable.complain
      exact ⟨config, spent, registry, drain, visible, log, asked, askedToo⟩
  | granted settings =>
      unfold Manager.settle enroll Manager.asked
      exact ⟨config, by rw [factory], by rw [registry, factory], drain, visible, by rw [log, factory],
        asked, askedToo⟩

theorem Interchangeable.perform (alike : Interchangeable answers left right) {action : Action}
    (unregistering : action.registers = false) :
    Interchangeable answers (left.perform action) (right.perform action) := by
  cases action with
  | present document delivery =>
      change Interchangeable answers (left.present document delivery) (right.present document delivery)
      rw [present_eq_settle, present_eq_settle, alike.verdict_eq, alike.log, alike.factory]
      exact { alike.settle document (right.verdict document) with log := rfl }
  | discard key =>
      change Interchangeable answers (left.dispose key).1 (right.dispose key).1
      rw [dispose_eq, dispose_eq, alike.registry, alike.log]
      exact { alike with registry := rfl, log := rfl }
  | discardAll =>
      change Interchangeable answers left.disposeAll right.disposeAll
      unfold disposeAll drained
      rw [alike.registry, alike.drain, alike.log]
      exact { alike with registry := rfl, drain := rfl, log := rfl }
  | configure config => exact { alike with config := rfl }
  | display documents => exact { alike with visible := rfl }
  | failNext error =>
      have failing := congrArg (Factory.failNext · error) alike.factory
      exact { alike with factory := failing }
  | register definition => cases unregistering
  | fire | advance => exact { alike with }

private theorem Interchangeable.perform_of_eq {first second : Action}
    (same : first = second ∧ first.registers = false) (alike : Interchangeable answers left right) :
    Interchangeable answers (left.perform first) (right.perform second) := by
  obtain ⟨rfl, unregistering⟩ := same
  exact alike.perform unregistering

theorem Interchangeable.run (alike : Interchangeable answers left right) (operations : List Operation)
    (unregistering : ∀ operation ∈ operations, operation.registers = false) :
    left.episodes (actionsOf left.visible operations) =
        right.episodes (actionsOf right.visible operations) ∧
      Interchangeable answers (left.run operations) (right.run operations) := by
  have harmless : ∀ action ∈ actionsOf right.visible operations, action.registers = false :=
    forall_actionsOf (fun operation member =>
      actions_unregistering operation (unregistering operation member)) right.visible
  have paired : List.Forall₂ (fun first second => first = second ∧ first.registers = false)
      (actionsOf right.visible operations) (actionsOf right.visible operations) :=
    List.forall₂_same.mpr fun action member => ⟨rfl, harmless action member⟩
  rw [run_eq_performAll, run_eq_performAll, alike.visible]
  constructor
  · exact episodes_related Interchangeable.perform_of_eq Interchangeable.log paired alike
  · exact performAll_related Interchangeable.perform_of_eq paired alike

/-- An attempt that makes no engine and takes no queued failure away leaves at most its traces in the gate, the
throttle and the messages. -/
theorem Resolution.interchangeable {manager next : Manager Grammar.Catalog} {document : Document}
    {engine : Option Engine} (resolution : Resolution manager document next engine)
    (answering : manager.gate.Answers answers manager.core) (failed : engine = none)
    (unspent : next.factory.failures = manager.factory.failures) :
    Interchangeable answers next manager := by
  have asked := answering.after (Grammar.idForLanguage document.language)
  cases resolution with
  | invalid undecorated => exact ⟨rfl, rfl, rfl, rfl, rfl, rfl, answering, answering⟩
  | tracked engine valid found => cases failed
  | unsupported valid untracked answered => exact ⟨rfl, rfl, rfl, rfl, rfl, rfl, asked, answering⟩
  | refused error factory valid untracked refusal =>
      rw [complain_eq] at unspent ⊢
      cases refusal with
      | grammar | settings => exact ⟨rfl, rfl, rfl, rfl, rfl, rfl, asked, answering⟩
      | engine cause rest settings answered accepted queued =>
          change rest = manager.factory.failures at unspent
          rw [queued] at unspent
          exact absurd unspent.symm (List.cons_ne_self cause rest)
  | made settings valid untracked answered accepted unqueued => cases failed

private theorem actions_of_presented {operation : Operation} {document : Document}
    (presented : operation.presented? = some document) :
    ∃ delivery, ∀ visible, operation.actions visible = [.present document delivery] := by
  cases operation with
  | openDocument | updateDocument =>
      cases presented
      exact ⟨some .refresh, fun _ => rfl⟩
  | changeDocument other changes =>
      cases presented
      exact ⟨some (.edits changes), fun _ => rfl⟩
  | resolve =>
      cases presented
      exact ⟨none, fun _ => rfl⟩
  | _ => cases presented

/-- An operation that asks for an engine in vain, and does not take a queued failure away, might as well be
left out of a run, as long as nobody else adds to the catalog from then on: the registry and the factory come out
the same, and so does the log, but for the order of the disposals that come together if that differs, too. -/
theorem run_without_failure (start : Manager Grammar.Catalog) (order : DrainOrder)
    (builtin : start.gate.loaders = .ofList Grammar.Loader.builtin) (before after : List Operation)
    (operation : Operation) (document : Document) (presented : operation.presented? = some document)
    (failed : ((start.run before).resolve document).2 = none)
    (unspent : ((start.run before).resolve document).1.factory.failures =
      (start.run before).factory.failures)
    (unregistering : ∀ other ∈ after, other.registers = false) :
    let full := start.run (before ++ operation :: after)
    let reduced := { start with drain := order }.run (before ++ after)
    SameLog start { start with drain := order } (before ++ operation :: after) (before ++ after) ∧
      full.registry = reduced.registry ∧ full.factory.created = reduced.factory.created ∧
      full.factory.failures = reduced.factory.failures := by
  intro full reduced
  let manager := start.run before
  let answers := fun id => (manager.gate.ensure manager.core id).answer
  have answering : manager.gate.Answers answers manager.core :=
    ⟨(start.loaders_run before).trans builtin, fun _ => rfl⟩
  obtain ⟨delivery, single⟩ := actions_of_presented presented
  have attempt := (resolution_resolve manager document).interchangeable answering failed unspent
  have attempted : manager.perform (.present document delivery) = (manager.resolve document).1 := by
    change manager.present document delivery = _
    rw [present_eq, failed, Option.elim_none, List.append_nil]
  rw [← attempted] at attempt
  have silent : manager.issues (.present document delivery) = [] :=
    issues_eq (attempt.log.trans (List.append_nil _).symm)
  obtain ⟨heard, final⟩ := attempt.run after unregistering
  have episodes : start.episodes (actionsOf start.visible (before ++ operation :: after)) =
      start.episodes (actionsOf start.visible (before ++ after)) := by
    rw [episodes_run_append, episodes_run_append, actionsOf_cons, single, List.singleton_append,
      episodes_cons_of_silent silent]
    exact congrArg _ heard
  have fullRun : full = (manager.perform (.present document delivery)).run after := by
    have stepped : manager.step operation = manager.perform (.present document delivery) := by
      rw [step_eq_performAll, single]
      rfl
    rw [← stepped]
    exact List.foldl_append
  have reducedRun : start.run (before ++ after) = manager.run after := List.foldl_append
  have drained : reduced = _ := start.run_redrained order (before ++ after)
  refine ⟨sameLog_redrained start start order rfl rfl episodes, ?_⟩
  rw [fullRun, drained, reducedRun]
  exact ⟨final.registry, congrArg Factory.created final.factory, congrArg Factory.failures final.factory⟩

def misled : List Operation := [.withConfig unusable]

/-- The settings are put right. An engine fails, the next one is told twice, and a last one is made anew. -/
def mended : List Operation :=
  [.withConfig .empty, .failNext (.other "busy"), .updateDocument (untitled "vue"),
    .openDocument (untitled "vue"), .setVisible [untitled "vue"], .reset]

/-- The failure loads a grammar and shows a message, but that is all. -/
theorem run_without_failure_mended :
    let failure := Operation.openDocument (untitled "vue")
    let other := { componentManager with drain := newestFirst }
    componentManager.gate.loaders = .ofList Grammar.Loader.builtin ∧
      ((componentManager.run misled).resolve (untitled "vue")).2 = none ∧
      ((componentManager.run misled).resolve (untitled "vue")).1.factory.failures =
        (componentManager.run misled).factory.failures ∧
      (∀ other ∈ mended, other.registers = false) ∧
      ((componentManager.run misled).step failure).core ≠ (componentManager.run misled).core ∧
      ((componentManager.run misled).step failure).shown.length = 1 ∧
      (componentManager.run (misled ++ mended)).log.length = 5 ∧
      SameLog componentManager other (misled ++ failure :: mended) (misled ++ mended) ∧
      (componentManager.run (misled ++ failure :: mended)).registry =
        (other.run (misled ++ mended)).registry := by
  intro failure other
  have failed : ((componentManager.run misled).resolve (untitled "vue")).2 = none := by
    decide +kernel
  have unspent : ((componentManager.run misled).resolve (untitled "vue")).1.factory.failures =
      (componentManager.run misled).factory.failures := by
    decide +kernel
  have unregistering : ∀ other ∈ mended, other.registers = false := by decide
  obtain ⟨log, registry, _created, _failures⟩ :=
    run_without_failure componentManager newestFirst rfl misled mended failure (untitled "vue") rfl failed
      unspent unregistering
  exact ⟨rfl, failed, unspent, unregistering, by decide +kernel, by decide +kernel,
    by decide +kernel, log, registry⟩

end BracketDecoration.Decoration.Manager
