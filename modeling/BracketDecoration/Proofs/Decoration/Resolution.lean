import BracketDecoration.Decoration.Manager

namespace BracketDecoration.Decoration

open Editor (Change Document DocumentKey)

namespace Registry

theorem find?_eq_none_iff (registry : Registry) (key : DocumentKey) :
    registry.find? key = none ↔ ∀ entry ∈ registry.entries, entry.key ≠ key := by
  unfold find?
  rw [Option.map_eq_none_iff, List.find?_eq_none]
  simp only [decide_eq_true_eq, ne_eq]

theorem mem_of_find? {registry : Registry} {key : DocumentKey} {engine : Engine}
    (found : registry.find? key = some engine) : ⟨key, engine⟩ ∈ registry.entries := by
  unfold find? at found
  obtain ⟨entry, present, rfl⟩ := Option.map_eq_some_iff.mp found
  have named : entry.key = key := by
    simpa only [decide_eq_true_eq] using List.find?_some present
  subst named
  exact List.mem_of_find?_eq_some present

theorem find?_insert (registry : Registry) (key other : DocumentKey) (engine : Engine) :
    (registry.insert key engine).find? other =
      (registry.find? other).or (if key = other then some engine else none) := by
  unfold find? insert
  rw [List.find?_append]
  cases registry.entries.find? fun entry => entry.key = other with
  | some entry => rfl
  | none =>
      by_cases same : key = other
      · simp only [same, List.find?_singleton, decide_true, if_true, Option.none_or, Option.map_some,
          Option.map_none]
      · simp only [same, List.find?_singleton, decide_false, if_false, Option.none_or,
          Option.map_none, Bool.false_eq_true]

theorem find?_erase (registry : Registry) (key other : DocumentKey) :
    (registry.erase key).find? other = if other = key then none else registry.find? other := by
  by_cases same : other = key
  · rw [if_pos same, find?_eq_none_iff]
    intro entry member
    have kept := (List.mem_filter.mp member).2
    rw [same]
    exact of_decide_eq_true kept
  · rw [if_neg same]
    unfold find? erase
    rw [List.find?_filter]
    congr 2
    funext entry
    by_cases named : entry.key = other
    · simp only [named, ne_eq, same, not_false_eq_true, decide_true, and_self]
    · simp only [named, decide_false, Bool.false_eq_true, and_false]

theorem erase_of_untracked {registry : Registry} {key : DocumentKey}
    (untracked : registry.find? key = none) : registry.erase key = registry := by
  have kept := (registry.find?_eq_none_iff key).mp untracked
  exact congrArg Registry.mk
    (List.filter_eq_self.mpr fun entry member => decide_eq_true (kept entry member))

end Registry

namespace Manager

variable {κ : Type}

def complain (manager : Manager κ) (error : BuildError) : Manager κ :=
  match error.userMessage? with
  | some message => manager.report message
  | none => manager

/-- Whatever the throttle lets through, only the throttle and the messages can differ afterwards. -/
theorem complain_eq (manager : Manager κ) (error : BuildError) :
    manager.complain error =
      { manager with
        throttle := (manager.complain error).throttle
        shown := (manager.complain error).shown } := by
  unfold complain
  cases error.userMessage? with
  | none => rfl
  | some message => rfl

def enroll (manager : Manager κ) (document : Document) (settings : Settings.Snapshot) : Manager κ :=
  let id := manager.factory.created + 1
  { manager with
    factory := { manager.factory with created := id }
    registry := manager.registry.insert document.key ⟨id, settings⟩
    log := manager.log ++ [.created id document.uri.text settings.grammar] }

def settingsFor (manager : Manager κ) (document : Document) : Except Settings.Error Settings.Snapshot :=
  Settings.Snapshot.resolveAt manager.config (Grammar.idForLanguage document.language)
    document.uri.documentPath

variable [Grammar.Tokenizer κ]

def demand (manager : Manager κ) (document : Document) : Grammar.Demand κ :=
  manager.gate.ensure manager.core (Grammar.idForLanguage document.language)

def asked (manager : Manager κ) (document : Document) : Manager κ :=
  { manager with gate := (manager.demand document).gate, core := (manager.demand document).core }

/-- The errors that keep an engine from being made, with the factory after each: only an engine that fails
takes a queued failure away. -/
inductive Refusal (manager : Manager κ) (document : Document) : BuildError → Factory → Prop where
  | grammar (cause : Grammar.Error) (answered : (manager.demand document).answer = .error cause) :
      Refusal manager document (.grammar cause) manager.factory
  | settings (cause : Settings.Error) (answered : (manager.demand document).answer = .ok true)
      (rejected : manager.settingsFor document = .error cause) :
      Refusal manager document (.settings cause) manager.factory
  | engine (cause : EngineError) (rest : List EngineError) (settings : Settings.Snapshot)
      (answered : (manager.demand document).answer = .ok true)
      (accepted : manager.settingsFor document = .ok settings)
      (queued : manager.factory.failures = cause :: rest) :
      Refusal manager document (.engine cause) { manager.factory with failures := rest }

/-- Every way to answer for a document: the manager afterwards, and the engine if there is one. -/
inductive Resolution (manager : Manager κ) (document : Document) : Manager κ → Option Engine → Prop where
  | invalid (undecorated : document.isValid = false) : Resolution manager document manager none
  | tracked (engine : Engine) (valid : document.isValid = true)
      (found : manager.registry.find? document.key = some engine) :
      Resolution manager document manager (some engine)
  | unsupported (valid : document.isValid = true)
      (untracked : manager.registry.find? document.key = none)
      (answered : (manager.demand document).answer = .ok false) :
      Resolution manager document (manager.asked document) none
  | refused (error : BuildError) (factory : Factory) (valid : document.isValid = true)
      (untracked : manager.registry.find? document.key = none)
      (refusal : Refusal manager document error factory) :
      Resolution manager document ({ manager.asked document with factory }.complain error) none
  | made (settings : Settings.Snapshot) (valid : document.isValid = true)
      (untracked : manager.registry.find? document.key = none)
      (answered : (manager.demand document).answer = .ok true)
      (accepted : manager.settingsFor document = .ok settings)
      (unqueued : manager.factory.failures = []) :
      Resolution manager document ((manager.asked document).enroll document settings)
        (some ⟨manager.factory.created + 1, settings⟩)

theorem build_unsupported {manager : Manager κ} {document : Document}
    (answered : (manager.demand document).answer = .ok false) :
    manager.build document = (manager.asked document, .ok none) := by
  unfold demand at answered
  simp only [build, answered]
  rfl

theorem build_refused {manager : Manager κ} {document : Document} {error : BuildError}
    {factory : Factory} (refusal : Refusal manager document error factory) :
    manager.build document = ({ manager.asked document with factory }, .error error) := by
  cases refusal with
  | grammar cause answered =>
      unfold demand at answered
      simp only [build, answered]
      rfl
  | settings cause answered rejected =>
      unfold demand at answered
      unfold settingsFor at rejected
      simp only [build, answered, rejected]
      rfl
  | engine cause rest settings answered accepted queued =>
      unfold demand at answered
      unfold settingsFor at accepted
      simp only [build, answered, accepted, Factory.create, queued]
      rfl

theorem build_made {manager : Manager κ} {document : Document} {settings : Settings.Snapshot}
    (answered : (manager.demand document).answer = .ok true)
    (accepted : manager.settingsFor document = .ok settings)
    (unqueued : manager.factory.failures = []) :
    manager.build document =
      ({ manager.asked document with
          factory := { manager.factory with created := manager.factory.created + 1 }
          log := manager.log ++
            [.created (manager.factory.created + 1) document.uri.text settings.grammar] },
        .ok (some ⟨manager.factory.created + 1, settings⟩)) := by
  unfold demand at answered
  unfold settingsFor at accepted
  simp only [build, answered, accepted, Factory.create, unqueued]
  rfl

theorem resolve_invalid {manager : Manager κ} {document : Document}
    (undecorated : document.isValid = false) : manager.resolve document = (manager, none) := by
  simp only [resolve, undecorated, Bool.not_false, if_true]

theorem resolve_tracked {manager : Manager κ} {document : Document} {engine : Engine}
    (valid : document.isValid = true)
    (found : manager.registry.find? document.key = some engine) :
    manager.resolve document = (manager, some engine) := by
  simp only [resolve, valid, found, Bool.not_true, Bool.false_eq_true, if_false]

theorem resolve_unsupported {manager : Manager κ} {document : Document}
    (valid : document.isValid = true) (untracked : manager.registry.find? document.key = none)
    (answered : (manager.demand document).answer = .ok false) :
    manager.resolve document = (manager.asked document, none) := by
  simp only [resolve, valid, untracked, build_unsupported answered, Bool.not_true,
    Bool.false_eq_true, if_false]

theorem resolve_refused {manager : Manager κ} {document : Document} {error : BuildError}
    {factory : Factory} (valid : document.isValid = true)
    (untracked : manager.registry.find? document.key = none)
    (refusal : Refusal manager document error factory) :
    manager.resolve document = ({ manager.asked document with factory }.complain error, none) := by
  unfold complain
  simp only [resolve, valid, untracked, build_refused refusal, Bool.not_true, Bool.false_eq_true,
    if_false]
  cases error.userMessage? with
  | none => rfl
  | some message => rfl

theorem resolve_made {manager : Manager κ} {document : Document} {settings : Settings.Snapshot}
    (valid : document.isValid = true) (untracked : manager.registry.find? document.key = none)
    (answered : (manager.demand document).answer = .ok true)
    (accepted : manager.settingsFor document = .ok settings)
    (unqueued : manager.factory.failures = []) :
    manager.resolve document =
      ((manager.asked document).enroll document settings,
        some ⟨manager.factory.created + 1, settings⟩) := by
  simp only [resolve, valid, untracked, build_made answered accepted unqueued, Bool.not_true,
    Bool.false_eq_true, if_false]
  rfl

/-- The cases exclude each other: what they say is what happens. -/
theorem Resolution.resolve_eq {manager next : Manager κ} {document : Document}
    {engine : Option Engine} (resolution : Resolution manager document next engine) :
    manager.resolve document = (next, engine) := by
  cases resolution with
  | invalid undecorated => exact resolve_invalid undecorated
  | tracked engine valid found => exact resolve_tracked valid found
  | unsupported valid untracked answered => exact resolve_unsupported valid untracked answered
  | refused error factory valid untracked refusal => exact resolve_refused valid untracked refusal
  | made settings valid untracked answered accepted unqueued =>
      exact resolve_made valid untracked answered accepted unqueued

theorem resolution_resolve (manager : Manager κ) (document : Document) :
    Resolution manager document (manager.resolve document).1 (manager.resolve document).2 := by
  have refused {error : BuildError} {factory : Factory} (valid : document.isValid = true)
      (untracked : manager.registry.find? document.key = none)
      (refusal : Refusal manager document error factory) :
      Resolution manager document (manager.resolve document).1 (manager.resolve document).2 := by
    rw [resolve_refused valid untracked refusal]
    exact .refused error factory valid untracked refusal
  -- The cases are what the manager looks at, in its order.
  cases valid : document.isValid with
  | false =>
      rw [resolve_invalid valid]
      exact .invalid valid
  | true =>
      cases found : manager.registry.find? document.key with
      | some engine =>
          rw [resolve_tracked valid found]
          exact .tracked engine valid found
      | none =>
          cases answered : (manager.demand document).answer with
          | error cause => exact refused valid found (.grammar cause answered)
          | ok supported =>
              cases supported with
              | false =>
                  rw [resolve_unsupported valid found answered]
                  exact .unsupported valid found answered
              | true =>
                  cases accepted : manager.settingsFor document with
                  | error cause => exact refused valid found (.settings cause answered accepted)
                  | ok settings =>
                      cases queued : manager.factory.failures with
                      | cons cause rest =>
                          exact refused valid found
                            (.engine cause rest settings answered accepted queued)
                      | nil =>
                          rw [resolve_made valid found answered accepted queued]
                          exact .made settings valid found answered accepted queued

end Manager

end BracketDecoration.Decoration
