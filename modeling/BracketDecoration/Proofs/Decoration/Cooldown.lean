import BracketDecoration.Proofs.Decoration.Throttling
import BracketDecoration.Proofs.History

/-!
A throttle whose timer follows a clock. Whether a message is shown depends on the clock and on the last message
that was shown: the cooldown has to be over by an advance of the clock since then. What was dropped in between
does not count.
-/

namespace BracketDecoration.Decoration

/-- The throttles of a timer that follows a clock: at most one callback waits, and only while the throttle is
disabled. -/
def Throttle.clocked (cooldown now : Milliseconds) (deadline : Option Milliseconds) : Throttle :=
  ⟨deadline.isNone, cooldown, .clock now deadline.toList⟩

namespace Throttle

variable (cooldown now : Milliseconds)

private theorem report_clocked (deadline : Option Milliseconds) :
    (clocked cooldown now deadline).report =
      (clocked cooldown now (deadline.getD (now + cooldown)), deadline.isNone) := by
  cases deadline with
  | none => rfl
  | some deadline => rfl

private theorem fire_clocked (deadline : Option Milliseconds) :
    (clocked cooldown now deadline).fire = (clocked cooldown now deadline, 0) := by
  cases deadline with
  | none => rfl
  | some deadline => rfl

theorem advance_clocked (deadline : Option Milliseconds) (span : Milliseconds) :
    (clocked cooldown now deadline).advance span =
      clocked cooldown (now + span) (deadline.filter fun deadline => now + span < deadline) := by
  cases deadline with
  | none => rfl
  | some deadline =>
      by_cases early : now + span < deadline
      · have waits : ¬deadline ≤ now + span := Nat.not_le_of_lt early
        simp only [advance, clocked, Timer.advance, afterCallbacks, Option.filter, Option.toList_some,
          List.filter_cons, List.filter_nil, early, waits, decide_true, decide_false, if_true]
        rfl
      · have reached : deadline ≤ now + span := Nat.le_of_not_lt early
        simp only [advance, clocked, Timer.advance, afterCallbacks, Option.filter, Option.toList_some,
          List.filter_cons, List.filter_nil, early, reached, decide_true, decide_false]
        rfl

end Throttle

namespace SharedThrottle

def Operation.span : Operation → Milliseconds
  | .advance span => span
  | _ => 0

def elapsed : List Operation → Milliseconds
  | [] => 0
  | operation :: rest => operation.span + elapsed rest

def shows (state : SharedThrottle) : Operation → Bool
  | .report holder host message => (state.report host message holder).2
  | _ => false

/-- One of the messages that are shown in the course of operations: the report of it stands between those
before and those after. -/
structure Shown (start : SharedThrottle) (operations before : List Operation) (report : Operation)
    (after : List Operation) : Prop where
  cut : operations = before ++ report :: after
  accepted : (start.run before).shows report = true

structure LastShown (start : SharedThrottle) (operations before : List Operation) (report : Operation)
    (after : List Operation) : Prop extends Shown start operations before report after where
  last : ∀ before' report' after', Shown start operations before' report' after' →
    before' <+: before

theorem elapsed_append (first second : List Operation) :
    elapsed (first ++ second) = elapsed first + elapsed second := by
  induction first with
  | nil => exact (Nat.zero_add _).symm
  | cons operation rest ih => rw [List.cons_append, elapsed, elapsed, ih, Nat.add_assoc]

private theorem elapsed_le_of_isPrefix {first longer : List Operation} (initial : first <+: longer) :
    elapsed first ≤ elapsed longer := by
  obtain ⟨rest, rfl⟩ := initial
  rw [elapsed_append]
  exact Nat.le_add_right _ _

theorem run_append (state : SharedThrottle) (first second : List Operation) :
    state.run (first ++ second) = (state.run first).run second :=
  List.foldl_append

theorem elapsed_concat (operations : List Operation) (operation : Operation) :
    elapsed (operations ++ [operation]) = elapsed operations + operation.span :=
  elapsed_append operations [operation]

variable {start : SharedThrottle} {operations before after : List Operation}
  {operation report : Operation}

private theorem Shown.isPrefix (shown : Shown start operations before report after) : before <+: operations :=
  ⟨report :: after, shown.cut.symm⟩

theorem Shown.of_concat (shown : Shown start (operations ++ [operation]) before report after) :
    (before = operations ∧ (start.run operations).shows operation = true) ∨
      ∃ rest, Shown start operations before report rest := by
  rcases History.concat_eq_append_cons_iff.mp shown.cut with ⟨rfl, rfl, rfl⟩ | ⟨rest, older, rfl⟩
  · exact Or.inl ⟨rfl, shown.accepted⟩
  · exact Or.inr ⟨rest, older, shown.accepted⟩

theorem LastShown.concat (last : LastShown start operations before report after)
    (silent : (start.run operations).shows operation = false) :
    LastShown start (operations ++ [operation]) before report (after ++ [operation]) where
  cut := by rw [last.cut, List.append_assoc, List.cons_append]
  accepted := last.accepted
  last := by
    intro before' report' after' shown
    rcases shown.of_concat with ⟨_same, shows⟩ | ⟨rest, earlier⟩
    · rw [silent] at shows
      cases shows
    · exact last.last before' report' rest earlier

theorem lastShown_concat (shows : (start.run operations).shows operation = true) :
    LastShown start (operations ++ [operation]) operations operation [] where
  cut := rfl
  accepted := shows
  last := by
    intro before' report' after' shown
    rcases shown.of_concat with ⟨same, _shows⟩ | ⟨rest, earlier⟩
    · exact same ▸ List.prefix_rfl
    · exact earlier.isPrefix

theorem LastShown.unique {before' after' : List Operation} {report' : Operation}
    (last : LastShown start operations before report after)
    (other : LastShown start operations before' report' after') :
    before = before' ∧ after = after' := by
  have forth : before <+: before' := other.last _ _ _ last.toShown
  have back : before' <+: before := last.last _ _ _ other.toShown
  have same : before = before' := forth.eq_of_length_le back.length_le
  subst same
  have rest := List.append_cancel_left (last.cut.symm.trans other.cut)
  exact ⟨rfl, (List.cons.inj rest).2⟩

/-- What the deadline of a throttle says about the messages that were shown: as long as there is one, the last
message was shown a cooldown before it, and no advance has reached it. -/
inductive Window (cooldown : Milliseconds) (start : SharedThrottle) (operations : List Operation) :
    Option Milliseconds → Prop where
  | untouched (unshown : ∀ before report after, ¬Shown start operations before report after) :
      Window cooldown start operations none
  | opened (before : List Operation) (report : Operation) (after : List Operation)
      (last : LastShown start operations before report after)
      (early : (∃ span, .advance span ∈ after) → elapsed operations < elapsed before + cooldown) :
      Window cooldown start operations (some (elapsed before + cooldown))
  | closed (before : List Operation) (report : Operation) (after : List Operation)
      (last : LastShown start operations before report after)
      (moved : ∃ span, .advance span ∈ after)
      (reached : elapsed before + cooldown ≤ elapsed operations) :
      Window cooldown start operations none

variable {cooldown : Milliseconds} {deadline : Option Milliseconds}

theorem Window.isNone_iff (window : Window cooldown start operations deadline) :
    deadline.isNone = true ↔
      (∀ before report after, ¬Shown start operations before report after) ∨
        ∃ before report after, LastShown start operations before report after ∧
          (∃ span, .advance span ∈ after) ∧ elapsed before + cooldown ≤ elapsed operations := by
  cases window with
  | untouched unshown => exact ⟨fun _ => Or.inl unshown, fun _ => rfl⟩
  | closed before report after last moved reached =>
      exact ⟨fun _ => Or.inr ⟨before, report, after, last, moved, reached⟩, fun _ => rfl⟩
  | opened before report after last early =>
      constructor
      · intro absent
        cases absent
      · rintro (unshown | ⟨before', report', after', other, moved, reached⟩)
        · exact absurd last.toShown (unshown before report after)
        · obtain ⟨rfl, rfl⟩ := last.unique other
          exact absurd (early moved) (Nat.not_lt_of_le reached)

theorem unshown_concat
    (unshown : ∀ before report after, ¬Shown start operations before report after)
    (silent : (start.run operations).shows operation = false) (before : List Operation)
    (report : Operation) (after : List Operation) :
    ¬Shown start (operations ++ [operation]) before report after := by
  intro shown
  rcases shown.of_concat with ⟨_same, shows⟩ | ⟨rest, earlier⟩
  · rw [silent] at shows
    cases shows
  · exact unshown before report rest earlier

private theorem Window.idle (window : Window cooldown start operations deadline)
    (silent : (start.run operations).shows operation = false)
    (still : ∀ span, operation ≠ .advance span) :
    Window cooldown start (operations ++ [operation]) deadline := by
  have timeless : operation.span = 0 := by
    cases operation with
    | advance span => exact absurd rfl (still span)
    | _ => rfl
  have time : elapsed (operations ++ [operation]) = elapsed operations := by
    rw [elapsed_concat, timeless, Nat.add_zero]
  cases window with
  | untouched unshown => exact .untouched (unshown_concat unshown silent)
  | opened before report after last early =>
      refine .opened before report _ (last.concat silent) ?_
      rintro ⟨span, member⟩
      rw [time]
      rcases List.mem_append.mp member with earlier | newest
      · exact early ⟨span, earlier⟩
      · exact absurd (List.mem_singleton.mp newest).symm (still span)
  | closed before report after last moved reached =>
      obtain ⟨span, member⟩ := moved
      exact .closed before report _ (last.concat silent) ⟨span, List.mem_append_left _ member⟩
        (time.symm ▸ reached)

private theorem window_of_shows (shows : (start.run operations).shows operation = true) :
    Window cooldown start (operations ++ [operation]) (some (elapsed operations + cooldown)) := by
  refine .opened operations operation [] (lastShown_concat shows) ?_
  rintro ⟨span, member⟩
  cases member

theorem Window.advance (window : Window cooldown start operations deadline) (span : Milliseconds) :
    Window cooldown start (operations ++ [.advance span])
      (deadline.filter fun deadline => elapsed operations + span < deadline) := by
  have time : elapsed (operations ++ [.advance span]) = elapsed operations + span :=
    elapsed_concat operations _
  have newest : Operation.advance span ∈ [Operation.advance span] := List.mem_singleton_self _
  cases window with
  | untouched unshown => exact .untouched (unshown_concat unshown rfl)
  | opened before report after last early =>
      by_cases waits : elapsed operations + span < elapsed before + cooldown
      · rw [Option.filter_some, if_pos (decide_eq_true waits)]
        exact .opened before report _ (last.concat rfl) fun _ => time.symm ▸ waits
      · rw [Option.filter_some, if_neg fun early => waits (of_decide_eq_true early)]
        exact .closed before report _ (last.concat rfl) ⟨span, List.mem_append_right _ newest⟩
          (time.symm ▸ Nat.le_of_not_lt waits)
  | closed before report after last moved reached =>
      exact .closed before report _ (last.concat rfl) ⟨span, List.mem_append_right _ newest⟩
        (time.symm ▸ Nat.le_add_right_of_le reached)

theorem Joint.shows_clocked {now : Milliseconds} {state : SharedThrottle}
    (joint : Joint (.clocked cooldown now deadline) state) (holder host : Nat) (message : String) :
    state.shows (.report holder host message) = deadline.isNone := by
  change (state.report host message holder).2 = deadline.isNone
  rw [joint.report_eq]
  cases deadline with
  | none => rfl
  | some deadline => rfl

theorem run_clocked (cooldown : Milliseconds) (operations : List Operation) :
    let start := initial (.make .byClock (some cooldown))
    ∃ deadline, Joint (.clocked cooldown (elapsed operations) deadline) (start.run operations) ∧
      Window cooldown start operations deadline := by
  intro start
  -- The history grows at its end, where the state is.
  induction operations using List.reverseRecOn with
  | nil =>
      refine ⟨none, joint_initial _, .untouched ?_⟩
      intro before report after shown
      exact History.nil_ne_append_cons shown.cut
  | append_singleton operations operation ih =>
      obtain ⟨deadline, joint, window⟩ := ih
      have stepped := joint.step operation
      rw [run_append, elapsed_concat]
      cases operation with
      | report holder host message =>
          have answer := joint.shows_clocked holder host message
          rw [Throttle.after, Throttle.report_clocked] at stepped
          refine ⟨some (deadline.getD (elapsed operations + cooldown)), stepped, ?_⟩
          cases deadline with
          | none => exact window_of_shows answer
          | some deadline => exact window.idle answer fun span advanced => by cases advanced
      | share holder => exact ⟨deadline, stepped, window.idle rfl fun span advanced => by cases advanced⟩
      | fire =>
          rw [Throttle.after, Throttle.fire_clocked] at stepped
          exact ⟨deadline, stepped, window.idle rfl fun span advanced => by cases advanced⟩
      | advance span =>
          rw [Throttle.after, Throttle.advance_clocked] at stepped
          exact ⟨_, stepped, window.advance span⟩

/-- A message is shown if none was shown before it, or if the clock was advanced since the last one that was
shown and has reached the end of its cooldown. So the times of two messages that are shown differ by the
cooldown at least, and one that is dropped has no effect on anything that comes later. -/
theorem run_shows_iff (cooldown : Milliseconds) (operations : List Operation) (holder host : Nat)
    (message : String) :
    let start := initial (.make .byClock (some cooldown))
    let state := start.run operations
    (∃ deadlines, state.throttle.timer = .clock (elapsed operations) deadlines) ∧
    (state.shows (.report holder host message) = true ↔
      (∀ before report after, ¬Shown start operations before report after) ∨
        ∃ before report after, LastShown start operations before report after ∧
          (∃ span, .advance span ∈ after) ∧ elapsed before + cooldown ≤ elapsed operations) ∧
    (state.step (.report holder host message)).notices = state.notices ++
      (if state.shows (.report holder host message) then [⟨host, message⟩] else []) ∧
    (state.shows (.report holder host message) = true →
      ∀ before report after, Shown start operations before report after →
        elapsed before + cooldown ≤ elapsed operations) ∧
    (state.shows (.report holder host message) = false →
      ∀ later, start.run (operations ++ .report holder host message :: later) =
        start.run (operations ++ later)) := by
  intro start state
  obtain ⟨deadline, joint, window⟩ := run_clocked cooldown operations
  have condition := window.isNone_iff
  rw [← joint.shows_clocked holder host message] at condition
  have clock : state.throttle.timer = .clock (elapsed operations) deadline.toList :=
    congrArg Throttle.timer joint.throttle_eq
  refine ⟨⟨_, clock⟩, condition, joint.notices_report host message holder, ?_, ?_⟩
  · intro shows before report after earlier
    rcases condition.mp shows with unshown | ⟨before', report', after', last, _moved, reached⟩
    · exact absurd earlier (unshown before report after)
    · have sooner := elapsed_le_of_isPrefix (last.last before report after earlier)
      exact Nat.le_trans (Nat.add_le_add_right sooner cooldown) reached
  · intro silent later
    rw [run_append, run_append]
    change (state.report host message holder).1.run later = state.run later
    rw [joint.report_of_dropped silent]

/-- One millisecond is missing. -/
example : ((initial (.make .byClock none)).run [.report 0 0 "first", .advance 2999]).shows
    (.report 0 1 "second") = false := by decide

/-- Without a cooldown the clock still has to be advanced, if by nothing. -/
example : ((initial (.make .byClock (some 0))).run [.report 0 0 "first", .advance 0]).shows
    (.report 0 1 "second") = true := by decide

end SharedThrottle

end BracketDecoration.Decoration
