import BracketDecoration.Proofs.Decoration.Draining
import BracketDecoration.Proofs.Decoration.Origin

/-!
The throttle is for the eyes of the user. It decides which messages are shown, and nothing else: two managers
that differ in the throttle and in what was shown go on to agree in all other respects, however long their
cooldowns are and whenever their timers run.
-/

namespace BracketDecoration.Decoration.Manager

open Editor (Document)

variable {κ : Type}

def masked (manager : Manager κ) (throttle : Throttle) (shown : List String) : Manager κ :=
  { manager with throttle, shown }

/-- The other manager differs at most in the throttle and in the messages that were shown. -/
inductive Agree (manager : Manager κ) : Manager κ → Prop where
  | intro (throttle : Throttle) (shown : List String) : Agree manager (manager.masked throttle shown)

private theorem agree_refl (manager : Manager κ) : Agree manager manager :=
  .intro manager.throttle manager.shown

private theorem Agree.eq_masked {left right : Manager κ} (agree : Agree left right) :
    ∃ throttle shown, right = left.masked throttle shown := by
  obtain ⟨throttle, shown⟩ := agree
  exact ⟨throttle, shown, rfl⟩

theorem Agree.symm {left right : Manager κ} (agree : Agree left right) : Agree right left := by
  cases agree with
  | intro throttle shown => exact .intro left.throttle left.shown

theorem Agree.trans {left middle right : Manager κ} (first : Agree left middle)
    (second : Agree middle right) : Agree left right := by
  cases first with
  | intro => cases second with
    | intro throttle shown => exact .intro throttle shown

variable [Grammar.Tokenizer κ] {left right : Manager κ}

theorem Agree.settle (agree : Agree left right) (document : Document) (verdict : Verdict)
    (log : List Event) :
    Agree { left.settle document verdict with log } { right.settle document verdict with log } := by
  cases agree with
  | intro throttle shown =>
      cases verdict with
      | ignored | served | granted => exact .intro throttle shown
      | refused error =>
          rw [settle, settle, complain_eq,
            complain_eq { (left.masked throttle shown).asked document with factory := _ }]
          exact .intro _ _

theorem Agree.perform (agree : Agree left right) (action : Action) :
    Agree (left.perform action) (right.perform action) := by
  obtain ⟨throttle, shown⟩ := agree
  cases action with
  | present document delivery =>
      change Agree (left.present document delivery) ((left.masked throttle shown).present document delivery)
      rw [present_eq_settle, present_eq_settle]
      exact (Agree.intro throttle shown).settle document (left.verdict document) _
  | fire => exact .intro _ shown
  | advance span => exact .intro _ shown
  | discard key =>
      change Agree (left.dispose key).1 ((left.masked throttle shown).dispose key).1
      rw [dispose_eq, dispose_eq]
      exact .intro throttle shown
  | _ => exact .intro throttle shown

theorem Agree.performAll (agree : Agree left right) (actions : List Action) :
    Agree (left.performAll actions) (right.performAll actions) := by
  induction actions generalizing left right with
  | nil => exact agree
  | cons action rest ih => exact ih (agree.perform action)

private theorem Agree.episodes_eq (agree : Agree left right) (actions : List Action) :
    left.episodes actions = right.episodes actions := by
  have paired : List.Forall₂ Eq actions actions := List.forall₂_same.mpr fun _ _ => rfl
  refine episodes_related ?_ ?_ paired agree
  · rintro left right action _same rfl agree
    exact agree.perform action
  · rintro left right ⟨throttle, shown⟩
    rfl

def Operation.isTimed : Operation → Bool
  | .fire | .advance _ => true
  | _ => false

def untimed (operations : List Operation) : List Operation :=
  operations.filter fun operation => !operation.isTimed

theorem timed_actions (manager : Manager κ) {operation : Operation} (timed : operation.isTimed = true)
    (rest : List Operation) :
    ∃ action, actionsOf manager.visible (operation :: rest) =
        action :: actionsOf (manager.perform action).visible rest ∧
      manager.issues action = [] ∧ Agree manager (manager.perform action) := by
  have silent : manager.log = manager.log ++ [] := (List.append_nil _).symm
  cases operation with
  | fire => exact ⟨.fire, rfl, issues_eq silent, .intro _ manager.shown⟩
  | advance span => exact ⟨.advance span, rfl, issues_eq silent, .intro _ manager.shown⟩
  | _ => cases timed

/-- A run comes out as it would without its timer. -/
theorem Agree.run_untimed (agree : Agree left right) (operations : List Operation) :
    left.episodes (actionsOf left.visible operations) =
        right.episodes (actionsOf right.visible (untimed operations)) ∧
      Agree (left.run operations) (right.run (untimed operations)) := by
  rw [run_eq_performAll, run_eq_performAll]
  induction operations generalizing left right with
  | nil => exact ⟨rfl, agree⟩
  | cons operation rest ih =>
      by_cases timed : operation.isTimed = true
      · have skipped : untimed (operation :: rest) = untimed rest :=
          List.filter_cons_of_neg (by simp [timed])
        obtain ⟨action, single, silent, still⟩ := left.timed_actions timed rest
        rw [skipped, single, episodes_cons_of_silent silent]
        exact ih (still.symm.trans agree)
      · have kept : untimed (operation :: rest) = operation :: untimed rest :=
          List.filter_cons_of_pos (by simp [timed])
        obtain ⟨heard, later⟩ := ih (agree.performAll (operation.actions left.visible))
        have visible : right.visible = left.visible := by
          obtain ⟨throttle, shown⟩ := agree
          rfl
        rw [kept, actionsOf_cons, actionsOf_cons, visible, episodes_append, episodes_append,
          performAll_append, performAll_append, agree.episodes_eq, heard]
        exact ⟨rfl, later⟩

private theorem untimed_eq_of_isPrefix {before first after second : List Operation}
    (same : untimed first = untimed second) (reached : before <+: first) (caught : after <+: second)
    (count : (untimed before).length = (untimed after).length) : untimed before = untimed after := by
  have reached : untimed before <+: untimed second := same ▸ reached.filter _
  have caught : untimed after <+: untimed second := caught.filter _
  exact (List.prefix_of_prefix_length_le reached caught (Nat.le_of_eq count)).eq_of_length count

/-- Two runs that are told the same, apart from the timer, agree whenever equally much has happened, whatever
their throttles are. Only the throttles and the messages can differ, and the order of the disposals that come
together, if the runs drain in different orders. -/
theorem run_agrees (start : Manager κ) (left right : Throttle) (order : DrainOrder)
    (first second : List Operation) (same : untimed first = untimed second) :
    let one := { start with throttle := left }
    let other := { start with throttle := right, drain := order }
    ∀ before after, before <+: first → after <+: second →
      (untimed before).length = (untimed after).length →
      (∃ throttle shown, other.run after =
        { one.run before with throttle, shown, drain := order, log := (other.run after).log }) ∧
      SameLog one other before after := by
  intro one other before after reached caught count
  let middle := { start with throttle := right }
  have both : Agree one middle := .intro right start.shown
  obtain ⟨heard, agree⟩ := both.run_untimed before
  obtain ⟨heardToo, agreeToo⟩ := middle.agree_refl.run_untimed after
  rw [untimed_eq_of_isPrefix same reached caught count] at heard agree
  constructor
  · have drained := middle.run_redrained order after
    obtain ⟨throttle, shown, masked⟩ := (agree.trans agreeToo.symm).eq_masked
    rw [masked] at drained
    exact ⟨throttle, shown, drained⟩
  · exact sameLog_redrained one middle order rfl rfl (heard.trans heardToo.symm)

def unusable : Settings.Config := { global := { timeout := some 20000 } }

def newestFirst : DrainOrder := ⟨List.reverse, List.reverse_perm⟩

/-- Two failures with the timer in between, then a success, and in the end two documents have to be given up. -/
def fired : List Operation :=
  [.withConfig unusable, .openDocument (untitled "rust"), .fire, .openDocument (untitled "go"),
    .withConfig .empty, .openDocument (untitled "go"), .openDocument (second (untitled "go")), .reset]

def unfired : List Operation := fired.eraseIdx 2

/-- The user has seen two messages in one run and one in the other, and the engines are the same, but they are
disposed in different orders. -/
theorem run_agrees_unfired :
    let one := { bilingual with throttle := .make .byHand none }
    let other := { bilingual with throttle := .make .byClock (some 50), drain := newestFirst }
    untimed fired = untimed unfired ∧
      (one.run fired).shown.length = 2 ∧ (other.run unfired).shown.length = 1 ∧
      (one.run fired).log ≠ (other.run unfired).log ∧
      (∃ throttle shown, other.run unfired =
        { one.run fired with throttle, shown, drain := newestFirst, log := (other.run unfired).log }) ∧
      SameLog one other fired unfired := by
  intro one other
  have same : untimed fired = untimed unfired := rfl
  refine ⟨same, by decide +kernel, by decide +kernel, by decide +kernel, ?_⟩
  exact run_agrees bilingual _ _ newestFirst fired unfired same fired unfired List.prefix_rfl
    List.prefix_rfl (congrArg List.length same)

end BracketDecoration.Decoration.Manager
