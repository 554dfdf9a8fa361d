import BracketDecoration.Decoration.Throttle

/-!
A throttle whose timer is fired by hand. One callback waits exactly while the throttle is disabled, so it can
neither stay disabled for good nor be enabled too early, and every message but the last has a callback that was
fired after it.
-/

namespace BracketDecoration.Decoration

namespace Throttle

variable (cooldown : Milliseconds)

/-- The two throttles of a timer that is fired by hand: if it is disabled, its own callback waits alone. -/
def manual (enabled : Bool) : Throttle :=
  ⟨enabled, cooldown, .manual (if enabled then [] else [cooldown])⟩

theorem report_manual (enabled : Bool) :
    (manual cooldown enabled).report = (manual cooldown false, enabled) := by
  cases enabled with
  | true => rfl
  | false => rfl

theorem fire_manual (enabled : Bool) :
    (manual cooldown enabled).fire = (manual cooldown true, if enabled then 0 else 1) := by
  cases enabled with
  | true => rfl
  | false => rfl

def after (throttle : Throttle) : SharedThrottle.Operation → Throttle
  | .report _ _ _ => throttle.report.1
  | .share _ => throttle
  | .fire => throttle.fire.1
  | .advance span => throttle.advance span

end Throttle

namespace SharedThrottle

variable {throttle : Throttle} {state : SharedThrottle}

/-- One throttle is in memory, and all handles refer to it. -/
structure Joint (throttle : Throttle) (state : SharedThrottle) : Prop where
  alone : state.memory = [throttle]
  together : ∀ handle ∈ state.handles, handle = 0

theorem joint_initial (throttle : Throttle) : Joint throttle (initial throttle) :=
  ⟨rfl, fun _ member => List.mem_singleton.mp member⟩

theorem Joint.handleOf_eq (joint : Joint throttle state) (holder : Nat) : state.handleOf holder = 0 := by
  rw [handleOf, List.getD_eq_getElem?_getD]
  cases found : state.handles[holder]? with
  | none => rfl
  | some handle => exact joint.together handle (List.mem_of_getElem? found)

theorem Joint.throttleAt_zero (joint : Joint throttle state) : state.throttleAt 0 = throttle := by
  rw [throttleAt, joint.alone]
  rfl

theorem Joint.throttle_eq (joint : Joint throttle state) : state.throttle = throttle := by
  rw [SharedThrottle.throttle, joint.handleOf_eq, joint.throttleAt_zero]

theorem Joint.enabledFlags_eq (joint : Joint throttle state) :
    state.enabledFlags = List.replicate state.holders throttle.enabled := by
  refine List.eq_replicate_iff.mpr ⟨List.length_map _, ?_⟩
  intro flag member
  obtain ⟨handle, held, rfl⟩ := List.mem_map.mp member
  rw [joint.together handle held, joint.throttleAt_zero]

theorem Joint.report_eq (joint : Joint throttle state) (host : Nat) (message : String) (holder : Nat) :
    state.report host message holder =
      if throttle.enabled then
        ({ state with
            memory := [throttle.report.1]
            notices := state.notices ++ [⟨host, message⟩] }, true)
      else (state, false) := by
  have stored (other : Throttle) : state.memory.set 0 other = [other] := by
    rw [joint.alone]
    rfl
  simp only [report, joint.handleOf_eq, joint.throttleAt_zero, stored, Throttle.report]
  cases throttle.enabled with
  | true => rfl
  | false =>
      simp only [Bool.false_eq_true, if_false]
      rw [← joint.alone]

theorem Joint.step (joint : Joint throttle state) (operation : Operation) :
    Joint (throttle.after operation) (state.step operation) := by
  cases operation with
  | report holder host message =>
      change Joint throttle.report.1 (state.report host message holder).1
      rw [joint.report_eq]
      unfold Throttle.report
      cases throttle.enabled with
      | true => exact ⟨rfl, joint.together⟩
      | false => exact joint
  | share holder =>
      refine ⟨joint.alone, fun handle member => ?_⟩
      rcases List.mem_append.mp member with older | newest
      · exact joint.together handle older
      · rw [List.mem_singleton.mp newest]
        exact joint.handleOf_eq holder
  | fire =>
      refine ⟨?_, joint.together⟩
      change state.memory.map (fun throttle => throttle.fire.1) = _
      rw [joint.alone]
      rfl
  | advance span =>
      refine ⟨?_, joint.together⟩
      change state.memory.map (fun throttle => throttle.advance span) = _
      rw [joint.alone]
      rfl

theorem Joint.fire_eq (joint : Joint throttle state) : state.fire.2 = throttle.fire.2 := by
  unfold SharedThrottle.fire
  rw [joint.alone]
  exact Nat.zero_add _

def Operation.isShare : Operation → Bool
  | .share _ => true
  | _ => false

theorem holders_step (state : SharedThrottle) (operation : Operation) :
    (state.step operation).holders = state.holders + if operation.isShare then 1 else 0 := by
  cases operation with
  | share holder => exact List.length_append
  | _ => rfl

theorem holders_run (state : SharedThrottle) (operations : List Operation) :
    (state.run operations).holders = state.holders + operations.countP Operation.isShare := by
  induction operations generalizing state with
  | nil => rfl
  | cons operation rest ih =>
      rw [List.countP_cons, Nat.add_comm (rest.countP _), ← Nat.add_assoc, ← holders_step]
      exact ih (state.step operation)

private theorem Joint.messagesOn_report (joint : Joint throttle state) (host : Nat) (message : String)
    (holder other : Nat) :
    (state.report host message holder).1.messagesOn other =
      state.messagesOn other ++ if throttle.enabled ∧ host = other then [message] else [] := by
  rw [joint.report_eq]
  cases throttle.enabled with
  | false => exact (List.append_nil _).symm
  | true =>
      simp only [messagesOn, if_true, true_and, List.filter_append, List.map_append]
      by_cases same : host = other
      · simp only [same, List.filter_cons, decide_true, if_true, List.filter_nil, List.map_cons,
          List.map_nil]
      · simp only [same, List.filter_cons, decide_false, Bool.false_eq_true, if_false,
          List.filter_nil, List.map_nil]

theorem Joint.notices_report (joint : Joint throttle state) (host : Nat) (message : String)
    (holder : Nat) :
    (state.report host message holder).1.notices =
      state.notices ++ if (state.report host message holder).2 then [⟨host, message⟩] else [] := by
  rw [joint.report_eq]
  cases throttle.enabled with
  | true => rfl
  | false => exact (List.append_nil _).symm

theorem Joint.report_of_dropped (joint : Joint throttle state) {host holder : Nat} {message : String}
    (dropped : (state.report host message holder).2 = false) :
    (state.report host message holder).1 = state := by
  rw [joint.report_eq] at dropped ⊢
  cases enabled : throttle.enabled with
  | true =>
      rw [enabled] at dropped
      cases dropped
  | false => rfl

def firedBy (state : SharedThrottle) : Operation → Nat
  | .fire => state.fire.2
  | _ => 0

def fired (state : SharedThrottle) : List Operation → Nat
  | [] => 0
  | operation :: rest => state.firedBy operation + (state.step operation).fired rest

/-- Of the messages that were shown, all but the one whose callback waits have had theirs fired. -/
structure Tallied (cooldown : Milliseconds) (enabled : Bool) (state : SharedThrottle) (fired : Nat) :
    Prop where
  joint : Joint (.manual cooldown enabled) state
  tally : state.notices.length = fired + if enabled then 0 else 1

variable {cooldown : Milliseconds} {enabled : Bool} {count : Nat}

theorem Tallied.step (tallied : Tallied cooldown enabled state count) (operation : Operation) :
    ∃ next, Tallied cooldown next (state.step operation) (count + state.firedBy operation) := by
  obtain ⟨joint, tally⟩ := tallied
  have stepped := joint.step operation
  cases operation with
  | report holder host message =>
      rw [Throttle.after, Throttle.report_manual] at stepped
      refine ⟨false, stepped, ?_⟩
      change (state.report host message holder).1.notices.length = count + 1
      rw [joint.report_eq]
      cases enabled with
      | true =>
          change (state.notices ++ [Notice.mk host message]).length = count + 1
          rw [List.length_append, tally]
          rfl
      | false => exact tally
  | share holder => exact ⟨enabled, stepped, tally⟩
  | fire =>
      rw [Throttle.after, Throttle.fire_manual] at stepped
      refine ⟨true, stepped, ?_⟩
      change state.notices.length = count + state.fire.2 + 0
      rw [joint.fire_eq, Throttle.fire_manual]
      exact tally
  | advance span =>
      refine ⟨enabled, ?_, tally⟩
      cases enabled with
      | true => exact stepped
      | false => exact stepped

theorem Tallied.run (tallied : Tallied cooldown enabled state count) (operations : List Operation) :
    ∃ next, Tallied cooldown next (state.run operations) (count + state.fired operations) := by
  induction operations generalizing state enabled count with
  | nil => exact ⟨enabled, tallied⟩
  | cons operation rest ih =>
      obtain ⟨next, stepped⟩ := tallied.step operation
      rw [fired, ← Nat.add_assoc]
      exact ih stepped

structure HandFired (cooldown : Milliseconds) (state : SharedThrottle) (fired : Nat) : Prop where
  waiting : state.throttle.timer.pending? =
    some (if state.throttle.enabled then [] else [cooldown])
  firing : state.fire.2 = (if state.throttle.enabled then 0 else 1) ∧
    state.fire.1.throttle.enabled = true
  /-- A report to an enabled throttle disables it, schedules one callback and is shown. -/
  shown : ∀ holder host message, state.throttle.enabled = true →
    state.report host message holder =
      ({ state with
          memory := [⟨false, cooldown, .manual [cooldown]⟩]
          notices := state.notices ++ [⟨host, message⟩] }, true)
  dropped : ∀ holder host message, state.throttle.enabled = false →
    state.report host message holder = (state, false)
  shown_on : ∀ holder host message other,
    (state.report host message holder).1.messagesOn other =
      state.messagesOn other ++ if state.throttle.enabled ∧ host = other then [message] else []
  tally : state.notices.length = fired + if state.throttle.enabled then 0 else 1
  /-- From here on there is at most one message more than there are callbacks fired. -/
  spaced : ∀ later,
    (state.run later).notices.length ≤ state.notices.length + state.fired later + 1

private theorem Tallied.handFired (tallied : Tallied cooldown enabled state count) :
    HandFired cooldown state count := by
  have joint := tallied.joint
  have seen : state.throttle.enabled = enabled := congrArg Throttle.enabled joint.throttle_eq
  constructor
  case waiting =>
    rw [seen, joint.throttle_eq]
    rfl
  case firing =>
    have fired := joint.step .fire
    rw [Throttle.after, Throttle.fire_manual] at fired
    rw [seen, joint.fire_eq, Throttle.fire_manual]
    exact ⟨rfl, congrArg Throttle.enabled fired.throttle_eq⟩
  case shown =>
    intro holder host message active
    rw [seen] at active
    rw [joint.report_eq, Throttle.report_manual, active]
    rfl
  case dropped =>
    intro holder host message silent
    rw [seen] at silent
    rw [joint.report_eq, silent]
    rfl
  case shown_on =>
    intro holder host message other
    rw [seen]
    exact joint.messagesOn_report host message holder other
  case tally =>
    rw [seen]
    exact tallied.tally
  case spaced =>
    intro later
    obtain ⟨next, reached⟩ := tallied.run later
    have before := tallied.tally
    have after := reached.tally
    split at after
    · omega
    · omega

/-- At every moment of every run the handles of all holders show the same flag, and what may happen next and how
many messages were shown so far are settled by it and the number of callbacks that were fired. -/
theorem run_handFired (cooldown? : Option Milliseconds) (operations : List Operation) :
    let start := initial (.make .byHand cooldown?)
    let state := start.run operations
    state.enabledFlags =
        List.replicate (operations.countP Operation.isShare + 1) state.throttle.enabled ∧
      HandFired (cooldown?.getD errorCooldown) state (start.fired operations) := by
  intro start state
  have opened : Tallied (cooldown?.getD errorCooldown) true start 0 := ⟨joint_initial _, rfl⟩
  obtain ⟨enabled, tallied⟩ := opened.run operations
  rw [Nat.zero_add] at tallied
  refine ⟨?_, tallied.handFired⟩
  rw [tallied.joint.enabledFlags_eq, tallied.joint.throttle_eq, holders_run, Nat.add_comm]
  rfl

end SharedThrottle

end BracketDecoration.Decoration
