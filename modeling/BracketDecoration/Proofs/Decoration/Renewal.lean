import BracketDecoration.Proofs.Decoration.Independence
import BracketDecoration.Proofs.Decoration.Noninterference
import BracketDecoration.Proofs.Decoration.Verdict

/-!
A reset forgets the past. Two managers that look alike, but have different engines, counters, logs and
throttles, first dispose what they have and then go on in step: what one of them logs and holds is what the
other does, with the difference of the counters added to the numbers of the engines.
-/

namespace BracketDecoration

namespace Grammar.Gate

variable {κ : Type}

/-- The gates have the same grammars and the same loaders, in whatever order they list them. -/
structure Alike (left right : Gate κ) : Prop where
  available : ∀ id, left.isAvailable id = right.isAvailable id
  loaders : ∀ id, left.loaders.find? id = right.loaders.find? id

variable {left right : Gate κ}

private theorem Alike.grant (alike : Alike left right) (id : String) :
    Alike (left.grant id) (right.grant id) where
  available := by
    intro other
    rw [Bool.eq_iff_iff, isAvailable_grant, isAvailable_grant, alike.available]
  loaders := alike.loaders

theorem Alike.ensure [Tokenizer κ] (alike : Alike left right) {core other : κ} (same : core = other)
    (id : String) :
    (left.ensure core id).answer = (right.ensure other id).answer ∧
      (left.ensure core id).core = (right.ensure other id).core ∧
      Alike (left.ensure core id).gate (right.ensure other id).gate := by
  subst same
  have access : left.access core id = right.access core id := by
    unfold access
    rw [alike.available, alike.loaders]
  unfold Gate.ensure
  rw [access]
  cases right.access core id with
  | available => exact ⟨rfl, rfl, alike⟩
  | unsupported => exact ⟨rfl, rfl, alike⟩
  | adopted => exact ⟨rfl, rfl, alike.grant id⟩
  | loaded loader =>
      dsimp only
      rcases loader core with ⟨next, done | cause⟩
      · exact ⟨rfl, rfl, alike⟩
      · exact ⟨rfl, rfl, alike.grant id⟩

end Grammar.Gate

namespace Decoration

open Editor (Document DocumentKey)

/-- A number that is counted from `last` on, counted from `next` on. -/
def carry (last next : Nat) (engine : Nat) : Nat := engine + next - last

private theorem carry_add (last next further : Nat) : carry last next (last + further) = next + further := by
  unfold carry
  omega

def Entry.renumber (number : Nat → Nat) (entry : Entry) : Entry :=
  { entry with engine := entry.engine.renumber number }

def Registry.renumber (number : Nat → Nat) (registry : Registry) : Registry :=
  ⟨registry.entries.map (Entry.renumber number)⟩

private theorem Registry.find?_renumber (number : Nat → Nat) (registry : Registry) (key : DocumentKey) :
    (registry.renumber number).find? key = (registry.find? key).map (Engine.renumber number) := by
  unfold find? renumber
  rw [List.find?_map, Option.map_map, Option.map_map]
  rfl

private theorem Registry.insert_renumber (number : Nat → Nat) (registry : Registry) (key : DocumentKey)
    (engine : Engine) :
    (registry.insert key engine).renumber number =
      (registry.renumber number).insert key (engine.renumber number) :=
  congrArg Registry.mk List.map_append

def Verdict.renumber (number : Nat → Nat) : Verdict → Verdict
  | .served engine => .served (engine.renumber number)
  | verdict => verdict

private theorem Verdict.events_renumber {number : Nat → Nat} {created next : Nat}
    (newest : number (created + 1) = next + 1) (document : Document) (delivery : Option Delivery)
    (verdict : Verdict) :
    (verdict.renumber number).events document delivery next =
      (verdict.events document delivery created).map (Event.renumber number) := by
  cases verdict with
  | ignored | refused => rfl
  | served engine => exact (map_renumber_told number engine.id delivery).symm
  | granted settings =>
      unfold renumber events
      rw [List.map_cons, map_renumber_told, Event.renumber, newest]

namespace Manager

variable {κ : Type} {number : Nat → Nat} {left right : Manager κ}

/-- The right manager holds the engines of the left one under other numbers, and looks like it otherwise. New
engines get numbers that fit, too. -/
structure Reissued (number : Nat → Nat) (left right : Manager κ) : Prop where
  config : left.config = right.config
  gate : left.gate.Alike right.gate
  core : left.core = right.core
  failures : left.factory.failures = right.factory.failures
  registry : right.registry = left.registry.renumber number
  numbered : ∀ further,
    number (left.factory.created + further) = right.factory.created + further

private theorem Reissued.complain (reissued : Reissued number left right) (error : BuildError) :
    Reissued number (left.complain error) (right.complain error) := by
  rw [complain_eq left, complain_eq right]
  exact { reissued with }

/-- The managers differ at most in their engines and the number of them, in what they have logged and shown,
and in their throttles. -/
structure Lookalike (left right : Manager κ) : Prop where
  config : left.config = right.config
  gate : left.gate.Alike right.gate
  core : left.core = right.core
  failures : left.factory.failures = right.factory.failures
  visible : left.visible = right.visible

private theorem Lookalike.disposeAll (alike : Lookalike left right) :
    Reissued (carry left.factory.created right.factory.created) left.disposeAll right.disposeAll where
  config := alike.config
  gate := alike.gate
  core := alike.core
  failures := alike.failures
  registry := rfl
  numbered := carry_add left.factory.created right.factory.created

variable [Grammar.Tokenizer κ]

private theorem Reissued.verdict_eq (reissued : Reissued number left right) (document : Document) :
    right.verdict document = (left.verdict document).renumber number := by
  have prospect : left.prospect document = right.prospect document := by
    apply prospect_congr
    · exact (reissued.gate.ensure reissued.core _).1
    · unfold settingsFor
      rw [reissued.config]
    · exact reissued.failures
  unfold verdict
  rw [reissued.registry, Registry.find?_renumber, prospect]
  by_cases valid : document.isValid = true
  · rw [if_pos valid, if_pos valid]
    cases left.registry.find? document.key with
    | some engine => rfl
    | none =>
        rcases right.prospect document with error | _ | settings
        · rfl
        · rfl
        · rfl
  · rw [if_neg valid, if_neg valid]
    rfl

theorem Reissued.settle (reissued : Reissued number left right) (document : Document)
    (verdict : Verdict) :
    Reissued number (left.settle document verdict)
      (right.settle document (verdict.renumber number)) := by
  obtain ⟨_answer, askedCore, asked⟩ :=
    reissued.gate.ensure reissued.core (Grammar.idForLanguage document.language)
  cases verdict with
  | ignored | served => exact reissued
  | refused error =>
      apply Reissued.complain
      constructor
      · exact reissued.config
      · exact asked
      · exact askedCore
      · cases error with
        | engine cause => exact congrArg List.tail reissued.failures
        | grammar | settings => exact reissued.failures
      · exact reissued.registry
      · cases error with
        | _ => exact reissued.numbered
  | granted settings =>
      have newest : number (left.factory.created + 1) = right.factory.created + 1 :=
        reissued.numbered 1
      constructor
      · exact reissued.config
      · exact asked
      · exact askedCore
      · exact reissued.failures
      · change right.registry.insert document.key ⟨right.factory.created + 1, settings⟩ =
          (left.registry.insert document.key ⟨left.factory.created + 1, settings⟩).renumber number
        rw [Registry.insert_renumber, reissued.registry, Engine.renumber, newest]
      · intro further
        change number (left.factory.created + 1 + further) = right.factory.created + 1 + further
        rw [Nat.add_assoc, reissued.numbered, Nat.add_assoc]

theorem Reissued.present (reissued : Reissued number left right) (document : Document)
    (delivery : Option Delivery) :
    Reissued number (left.perform (.present document delivery))
        (right.perform (.present document delivery)) ∧
      right.issues (.present document delivery) =
        (left.issues (.present document delivery)).map (Event.renumber number) := by
  constructor
  · change Reissued number (left.present document delivery) (right.present document delivery)
    rw [present_eq_settle, present_eq_settle, reissued.verdict_eq]
    exact { reissued.settle document (left.verdict document) with }
  · rw [issues_present, issues_present, reissued.verdict_eq]
    exact Verdict.events_renumber (reissued.numbered 1) document delivery (left.verdict document)

private theorem Reissued.refreshes (reissued : Reissued number left right) (documents : List Document) :
    Reissued number (left.performAll (Action.refreshes documents))
        (right.performAll (Action.refreshes documents)) ∧
      right.issued (Action.refreshes documents) =
        (left.issued (Action.refreshes documents)).map (Event.renumber number) := by
  induction documents generalizing left right with
  | nil => exact ⟨reissued, rfl⟩
  | cons document rest ih =>
      obtain ⟨presented, issues⟩ := reissued.present document (some .refresh)
      obtain ⟨final, later⟩ := ih presented
      refine ⟨final, ?_⟩
      change right.issues _ ++ _ = (left.issues _ ++ _).map (Event.renumber number)
      rw [List.map_append, issues]
      exact congrArg (_ ++ ·) later

theorem reset_eq_performAll (manager : Manager κ) :
    manager.reset = manager.disposeAll.performAll (Action.refreshes manager.visible) :=
  manager.disposeAll.updateAll_eq_performAll

private theorem log_reset (manager : Manager κ) :
    manager.reset.log =
      manager.log ++ manager.drained.map (fun entry => .disposed entry.engine.id) ++
        manager.disposeAll.issued (Action.refreshes manager.visible) := by
  rw [reset_eq_performAll, log_performAll]
  rfl

theorem ledger_reset (manager : Manager κ) :
    Ledger manager.factory.created (manager.disposeAll.issued (Action.refreshes manager.visible))
      manager.reset.factory.created manager.reset.registry.holdings := by
  have emptied : manager.disposeAll.registry = .empty := rfl
  rw [reset_eq_performAll]
  exact ledger_of_untracked emptied (Action.refreshes manager.visible)

theorem engines_distinct_run {start : Manager κ} (untracked : start.registry = .empty)
    (operations : List Operation) :
    ((start.run operations).registry.entries.map fun entry => entry.engine.id).Nodup := by
  rw [run_eq_performAll]
  exact Registry.engines_distinct (ledger_of_untracked untracked _)

/-- If two managers look alike, however they came to that, a reset disposes the engines of each of them, every
one once and in the order of its own, and from there on does the same in both, with the difference of their
counters added to the numbers of the new engines. -/
theorem reset_forgets (start other : Manager κ) (untracked : start.registry = .empty)
    (untrackedToo : other.registry = .empty) (operations others : List Operation)
    (alike : Lookalike (start.run operations) (other.run others)) :
    let left := start.run operations
    let right := other.run others
    let number := carry left.factory.created right.factory.created
    (left.registry.entries.map fun entry => entry.engine.id).Nodup ∧
      (right.registry.entries.map fun entry => entry.engine.id).Nodup ∧
      left.drained.Perm left.registry.entries ∧ right.drained.Perm right.registry.entries ∧
      ∃ events,
        left.reset.log =
          left.log ++ left.drained.map (fun entry => .disposed entry.engine.id) ++ events ∧
        right.reset.log =
          right.log ++ right.drained.map (fun entry => .disposed entry.engine.id) ++
            events.map (Event.renumber number) ∧
        right.reset.registry = left.reset.registry.renumber number ∧
        (∀ event ∈ events, left.factory.created < event.engine) ∧
        ∀ entry ∈ left.reset.registry.entries, left.factory.created < entry.engine.id := by
  intro left right number
  obtain ⟨reissued, issued⟩ := alike.disposeAll.refreshes left.visible
  refine ⟨engines_distinct_run untracked operations, engines_distinct_run untrackedToo others,
    left.drained_perm, right.drained_perm, left.disposeAll.issued (Action.refreshes left.visible),
    left.log_reset, ?_, ?_, ?_, ?_⟩
  · rw [right.log_reset, ← alike.visible]
    exact congrArg _ issued
  · rw [right.reset_eq_performAll, left.reset_eq_performAll, ← alike.visible]
    exact reissued.registry
  · intro event member
    exact (left.ledger_reset.made_of_mem member).1
  · intro entry member
    have held : ⟨entry.engine.id, entry.key.text⟩ ∈ left.reset.registry.holdings :=
      List.mem_map_of_mem member
    exact (left.ledger_reset.numbered _ held).1

/-- A manager like the other new one, though its gate lists its grammars in another order, its throttle goes by a
clock and its newest engine is disposed first. -/
def reordered : Manager Grammar.Catalog :=
  { componentManager with
    gate := { componentManager.gate with available := ["markup", "javascript", "css"] }
    throttle := .make .byClock (some 50)
    drain := newestFirst }

def awaiting : List Operation :=
  [.setVisible [untitled "vue", second (untitled "vue"), untitled "vue"], .failNext (.other "busy")]

def brief : List Operation := .openDocument (untitled "vue") :: awaiting

def eventful : List Operation :=
  [.openDocument (second (untitled "vue")), .openDocument (untitled "vue"),
    .closeDocument (second (untitled "vue")), .withConfig unusable,
    .updateDocument (second (untitled "vue")), .withConfig .empty,
    .updateDocument (second (untitled "vue"))] ++ awaiting

private theorem lookalike_brief_eventful : Lookalike (componentManager.run brief) (reordered.run eventful) := by
  have listed : (componentManager.run brief).gate.available.Perm
      (reordered.run eventful).gate.available := by
    decide +kernel
  constructor
  · rfl
  · constructor
    · intro id
      rw [Bool.eq_iff_iff, Grammar.Gate.isAvailable_iff, Grammar.Gate.isAvailable_iff]
      exact listed.mem_iff
    · rw [loaders_run, loaders_run]
      exact fun id => rfl
  · decide +kernel
  · decide +kernel
  · rfl

theorem reset_forgets_eventful :
    let left := componentManager.run brief
    let right := reordered.run eventful
    componentManager.registry = .empty ∧ reordered.registry = .empty ∧ Lookalike left right ∧
      left.factory.created = 1 ∧ right.factory.created = 3 ∧ right.shown.length = 1 ∧
      left.reset.registry.entries.length = 2 ∧
      right.reset.registry = left.reset.registry.renumber (carry 1 3) := by
  intro left right
  obtain ⟨_, _, _, _, events, _, _, registry, _⟩ :=
    reset_forgets componentManager reordered rfl rfl brief eventful lookalike_brief_eventful
  have counted : left.factory.created = 1 := by decide +kernel
  have countedToo : right.factory.created = 3 := by decide +kernel
  rw [counted, countedToo] at registry
  exact ⟨rfl, rfl, lookalike_brief_eventful, counted, countedToo, by decide +kernel,
    by decide +kernel, registry⟩

end Manager

end Decoration

end BracketDecoration
