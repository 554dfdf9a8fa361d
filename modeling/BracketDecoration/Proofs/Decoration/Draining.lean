import BracketDecoration.Proofs.Decoration.Verdict

/-!
The order in which a registry gives up its entries shows in the log, and nowhere else: it is the order of the
disposals where everything is disposed at once.
-/

namespace BracketDecoration.Decoration

open Editor (Document)

def DrainOrder.disposals (order : DrainOrder) (entries : List Entry) : List Event :=
  (order.arrange entries).map fun entry => .disposed entry.engine.id

/-- The events of one action under two orders. They differ at most in the order of the disposals where the action
disposes everything. -/
inductive SameEvents (left right : DrainOrder) : List Event → List Event → Prop where
  | told (events : List Event) : SameEvents left right events events
  | drained (entries : List Entry) :
      SameEvents left right (left.disposals entries) (right.disposals entries)

variable {left right : DrainOrder} {events others : List Event}

theorem SameEvents.perm (same : SameEvents left right events others) : events.Perm others := by
  cases same with
  | told events => exact .refl events
  | drained entries => exact ((left.perm entries).trans (right.perm entries).symm).map _

theorem SameEvents.eq_nil_iff (same : SameEvents left right events others) :
    events = [] ↔ others = [] := by
  have perm := same.perm
  constructor
  · intro silent
    rw [silent] at perm
    exact List.nil_perm.mp perm
  · intro silent
    rw [silent] at perm
    exact List.perm_nil.mp perm

namespace Manager

variable {κ : Type}

def redrained (manager : Manager κ) (order : DrainOrder) (log : List Event) : Manager κ :=
  { manager with drain := order, log }

private theorem complain_redrained (manager : Manager κ) (order : DrainOrder) (log : List Event)
    (error : BuildError) :
    (manager.redrained order log).complain error = (manager.complain error).redrained order log := by
  unfold complain
  cases error.userMessage? with
  | none => rfl
  | some message => rfl

variable [Grammar.Tokenizer κ]

/-- The events of actions in order, in one list for each action. Actions without events are left out. -/
def episodes (manager : Manager κ) : List Action → List (List Event)
  | [] => []
  | action :: rest =>
    if manager.issues action = [] then (manager.perform action).episodes rest
    else manager.issues action :: (manager.perform action).episodes rest

theorem episodes_cons_of_silent {manager : Manager κ} {action : Action}
    (silent : manager.issues action = []) (rest : List Action) :
    manager.episodes (action :: rest) = (manager.perform action).episodes rest := by
  rw [episodes, if_pos silent]

theorem episodes_cons_of_audible {manager : Manager κ} {action : Action}
    (audible : manager.issues action ≠ []) (rest : List Action) :
    manager.episodes (action :: rest) =
      manager.issues action :: (manager.perform action).episodes rest := by
  rw [episodes, if_neg audible]

private theorem flatten_episodes (manager : Manager κ) (actions : List Action) :
    (manager.episodes actions).flatten = manager.issued actions := by
  induction actions generalizing manager with
  | nil => rfl
  | cons action rest ih =>
      by_cases silent : manager.issues action = []
      · rw [episodes_cons_of_silent silent, ih, issued, silent, List.nil_append]
      · rw [episodes_cons_of_audible silent, List.flatten_cons, ih, issued]

theorem log_run (manager : Manager κ) (operations : List Operation) :
    (manager.run operations).log =
      manager.log ++ (manager.episodes (actionsOf manager.visible operations)).flatten := by
  rw [run_eq_performAll, log_performAll, flatten_episodes]

theorem episodes_append (manager : Manager κ) (first second : List Action) :
    manager.episodes (first ++ second) =
      manager.episodes first ++ (manager.performAll first).episodes second := by
  induction first generalizing manager with
  | nil => rfl
  | cons action rest ih =>
      have later := ih (manager.perform action)
      rw [List.cons_append]
      by_cases silent : manager.issues action = []
      · rw [episodes_cons_of_silent silent, episodes_cons_of_silent silent, later]
        rfl
      · rw [episodes_cons_of_audible silent, episodes_cons_of_audible silent, later]
        rfl

theorem episodes_run_append (manager : Manager κ) (first second : List Operation) :
    manager.episodes (actionsOf manager.visible (first ++ second)) =
      manager.episodes (actionsOf manager.visible first) ++
        (manager.run first).episodes (actionsOf (manager.run first).visible second) := by
  rw [actionsOf_append, episodes_append, visible_run, run_eq_performAll]

/-- Managers have the same episodes if every pair of actions that they are given keeps their logs alike. -/
theorem episodes_related {related : Manager κ → Manager κ → Prop} {paired : Action → Action → Prop}
    (kept : ∀ {left right : Manager κ} {first second : Action}, paired first second →
      related left right → related (left.perform first) (right.perform second))
    (logs : ∀ {left right : Manager κ}, related left right → left.log = right.log)
    {firsts seconds : List Action} (pairs : List.Forall₂ paired firsts seconds)
    {left right : Manager κ} (start : related left right) :
    left.episodes firsts = right.episodes seconds := by
  induction pairs generalizing left right with
  | nil => rfl
  | @cons first second _firsts _seconds pair rest ih =>
      have next := kept pair start
      have heard : left.issues first = right.issues second := by
        rw [issues, issues, logs start, logs next]
      rw [episodes, episodes, heard, ih next]

private theorem settle_redrained (manager : Manager κ) (order : DrainOrder) (log later : List Event)
    (document : Document) (verdict : Verdict) :
    { (manager.redrained order log).settle document verdict with log := later } =
      (manager.settle document verdict).redrained order later := by
  cases verdict with
  | ignored | served | granted => rfl
  | refused error =>
      have complained := complain_redrained
        { manager.asked document with factory := manager.factory.spend error } order log error
      exact congrArg (fun settled : Manager κ => { settled with log := later }) complained

theorem perform_redrained (manager : Manager κ) (order : DrainOrder) (log : List Event)
    (action : Action) :
    ∃ events, SameEvents manager.drain order (manager.issues action) events ∧
      (manager.redrained order log).perform action =
        (manager.perform action).redrained order (log ++ events) := by
  cases action with
  | present document delivery =>
      refine ⟨_, .told _, ?_⟩
      change (manager.redrained order log).present document delivery =
        (manager.present document delivery).redrained order _
      rw [issues_present, present_eq_settle, present_eq_settle]
      exact manager.settle_redrained order log _ document (manager.verdict document)
  | discard key =>
      have logged : (manager.perform (.discard key)).log = _ :=
        congrArg Manager.log (manager.dispose_eq key)
      refine ⟨_, .told _, ?_⟩
      change ((manager.redrained order log).dispose key).1 = (manager.dispose key).1.redrained order _
      rw [issues_eq logged, dispose_eq, dispose_eq]
      rfl
  | discardAll =>
      have issued : manager.issues .discardAll = manager.drain.disposals manager.registry.entries :=
        issues_eq rfl
      rw [issued]
      exact ⟨_, .drained manager.registry.entries, rfl⟩
  | _ =>
      refine ⟨[], ?_, ?_⟩
      · rw [issues_eq (List.append_nil _).symm]
        exact .told []
      · rw [List.append_nil]
        rfl

theorem performAll_redrained (manager : Manager κ) (order : DrainOrder) (log : List Event)
    (actions : List Action) :
    List.Forall₂ (SameEvents manager.drain order) (manager.episodes actions)
        ((manager.redrained order log).episodes actions) ∧
      ∃ later, (manager.redrained order log).performAll actions =
        (manager.performAll actions).redrained order later := by
  induction actions generalizing manager log with
  | nil => exact ⟨.nil, log, rfl⟩
  | cons action rest ih =>
      obtain ⟨events, same, performed⟩ := manager.perform_redrained order log action
      have heard : (manager.redrained order log).issues action = events :=
        issues_eq (congrArg Manager.log performed)
      obtain ⟨paired, reached⟩ := ih (manager.perform action) (log ++ events)
      rw [(manager.perform_frame action).2.2, ← performed] at paired
      rw [← performed] at reached
      refine ⟨?_, reached⟩
      by_cases silent : manager.issues action = []
      · have silentToo := heard.trans (same.eq_nil_iff.mp silent)
        rw [episodes_cons_of_silent silent, episodes_cons_of_silent silentToo]
        exact paired
      · have audible : (manager.redrained order log).issues action ≠ [] := by
          rw [heard]
          exact fun none => silent (same.eq_nil_iff.mpr none)
        rw [episodes_cons_of_audible silent, episodes_cons_of_audible audible, heard]
        exact .cons same paired

/-- The runs log the same, action by action, but for the order in which an action disposes everything. If they
drain in the same order their logs are equal. -/
structure SameLog (left right : Manager κ) (firsts seconds : List Operation) : Prop where
  paired : List.Forall₂ (SameEvents left.drain right.drain)
    (left.episodes (actionsOf left.visible firsts)) (right.episodes (actionsOf right.visible seconds))
  equal : left.drain = right.drain → (left.run firsts).log = (right.run seconds).log

theorem run_redrained (manager : Manager κ) (order : DrainOrder) (operations : List Operation) :
    { manager with drain := order }.run operations =
      { manager.run operations with
        drain := order
        log := ({ manager with drain := order }.run operations).log } := by
  obtain ⟨_paired, later, reached⟩ :=
    manager.performAll_redrained order manager.log (actionsOf manager.visible operations)
  change { manager with drain := order }.performAll _ = _ at reached
  rw [run_eq_performAll, run_eq_performAll, reached]
  rfl

/-- If two runs have the same episodes under one order, the second may be drained in another one. -/
theorem sameLog_redrained (left right : Manager κ) (order : DrainOrder) {firsts seconds : List Operation}
    (drains : left.drain = right.drain) (logs : left.log = right.log)
    (heard : left.episodes (actionsOf left.visible firsts) =
      right.episodes (actionsOf right.visible seconds)) :
    SameLog left { right with drain := order } firsts seconds where
  paired := by
    rw [heard, drains]
    exact (right.performAll_redrained order right.log _).1
  equal := by
    intro same
    change left.drain = order at same
    subst same
    rw [drains, log_run, log_run, logs, heard]

end Manager

end BracketDecoration.Decoration
