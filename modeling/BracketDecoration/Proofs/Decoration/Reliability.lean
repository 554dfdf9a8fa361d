import BracketDecoration.Proofs.Decoration.Messages
import BracketDecoration.Proofs.Settings.Acceptance

namespace BracketDecoration.Decoration.Manager

open Editor (Document)
open Settings (Config)

def Operation.config? : Operation → Option Config
  | .setConfig config | .withConfig config => some config
  | _ => none

variable {κ : Type}

private theorem actions_configAfter {P : Config → Prop} {operation : Operation}
    (brought : ∀ config, operation.config? = some config → P config) (visible : List Document) :
    ∀ action ∈ operation.actions visible, ∀ config, P config → P (action.configAfter config) := by
  have refreshes (documents : List Document) :
      ∀ action ∈ Action.refreshes documents, ∀ config, P config → P (action.configAfter config) :=
    forall_refreshes (fun _ _ kept => kept) documents
  cases operation with
  | updateAll => exact refreshes visible
  | reset => exact List.forall_mem_cons.mpr ⟨fun _ kept => kept, refreshes visible⟩
  | setConfig next =>
      have holds : P next := brought next rfl
      exact List.forall_mem_cons.mpr ⟨fun _ _ => holds,
        List.forall_mem_cons.mpr ⟨fun _ kept => kept, refreshes visible⟩⟩
  | withConfig next => exact List.forall_mem_singleton.mpr fun _ _ => brought next rfl
  | _ => exact List.forall_mem_singleton.mpr fun _ kept => kept

variable [Grammar.Tokenizer κ]

private theorem failure?_ne_settings {manager : Manager κ} (accepted : manager.config.LayersAccepted)
    (action : Action) (cause : Settings.Error) : manager.failure? action ≠ some (.settings cause) := by
  intro failed
  obtain ⟨document, _delivery, _presented, _valid, _untracked, refusal⟩ :=
    (manager.failure?_eq_some_iff action _).mp failed
  obtain ⟨settings, made⟩ := accepted.exists_resolveAt (Grammar.idForLanguage document.language)
    document.uri.documentPath
  generalize manager.factory.spend (.settings cause) = factory at refusal
  cases refusal with
  | settings _cause _answered rejected =>
      rw [settingsFor, made] at rejected
      cases rejected

/-- The configuration stays acceptable from action to action, and so no action fails for it. -/
theorem failures_ne_settings {start : Manager κ} (accepted : start.config.LayersAccepted)
    {actions : List Action}
    (kept : ∀ action ∈ actions, ∀ config : Config,
      config.LayersAccepted → (action.configAfter config).LayersAccepted) :
    ∀ failure ∈ start.failures actions, ∀ cause, failure.error ≠ .settings cause := by
  induction actions generalizing start with
  | nil => exact fun failure member => nomatch member
  | cons action rest ih =>
      intro failure member cause
      rcases List.mem_append.mp member with now | later
      · obtain ⟨error, failed, rfl⟩ := List.mem_map.mp now
        intro same
        change error = .settings cause at same
        rw [same] at failed
        exact failure?_ne_settings accepted action cause (Option.mem_toList.mp failed)
      · refine ih ?_ (fun other present => kept other (List.mem_cons_of_mem action present)) failure
          later cause
        rw [(start.perform_frame action).1]
        exact kept action List.mem_cons_self start.config accepted

/-- Layers that are accepted one by one are accepted in all their combinations: settings can be resolved from
any merge of configurations with such layers, for every grammar and every address, and a manager that is only
ever given such merges never fails for its settings. -/
theorem run_reliable (start : Manager κ) (operations : List Operation)
    (initial : Config.MergedFrom Config.LayersAccepted start.config)
    (brought : ∀ operation ∈ operations, ∀ config, operation.config? = some config →
      Config.MergedFrom Config.LayersAccepted config) :
    (∀ config, Config.MergedFrom Config.LayersAccepted config → ∀ grammar (uri : Uri),
      ∃ settings, Settings.Snapshot.resolveAt config grammar uri.documentPath = .ok settings) ∧
    ∀ failure ∈ start.failures (actionsOf start.visible operations), ∀ cause,
      failure.error ≠ .settings cause := by
  constructor
  · intro config merged grammar uri
    exact merged.layersAccepted.exists_resolveAt grammar uri.documentPath
  · refine failures_ne_settings initial.layersAccepted ?_
    refine forall_actionsOf (fun operation member visible => ?_) start.visible
    exact actions_configAfter (fun config set =>
      (brought operation member config set).layersAccepted) visible

/-- A layer of every kind, none of which sets what the others set. -/
def diverse : Config where
  global := { unmatchedColor := some "#c0ffee" }
  scopes := [⟨⟨"**", [.recursiveStart]⟩, { colors := some ["Gold", "#123"] }⟩]
  languages := [⟨"rust", { colorMode := some "Independent", pairs := some [⟨"<", ">"⟩] }⟩]

def interrupted : List Operation :=
  [.setConfig (quick.merge diverse), .failNext (.other "busy"), .openDocument (untitled "rust")]

theorem run_reliable_interrupted :
    Config.MergedFrom Config.LayersAccepted bilingual.config ∧
      (∀ operation ∈ interrupted, ∀ config, operation.config? = some config →
        Config.MergedFrom Config.LayersAccepted config) ∧
      (∃ settings, Settings.Snapshot.resolveAt (quick.merge diverse) "rust"
        (untitled "rust").uri.documentPath = .ok settings) ∧
      bilingual.failures (actionsOf bilingual.visible interrupted) =
        [⟨.engine (.other "busy"), true⟩] ∧
      ∀ cause, (BuildError.engine (.other "busy")) ≠ .settings cause := by
  have alone {config : Config} (accepted : config.LayersAccepted) :
      Config.MergedFrom Config.LayersAccepted config := .alone config accepted
  have initial : Config.MergedFrom Config.LayersAccepted bilingual.config := alone (by decide +kernel)
  have fast : quick.LayersAccepted := by decide +kernel
  have many : diverse.LayersAccepted := by decide +kernel
  have merged := Config.MergedFrom.merge quick diverse (alone fast) (alone many)
  have brought : ∀ operation ∈ interrupted, ∀ config, operation.config? = some config →
      Config.MergedFrom Config.LayersAccepted config := by
    intro operation member config set
    simp only [interrupted, List.mem_cons, List.not_mem_nil, or_false] at member
    rcases member with rfl | rfl | rfl
    · cases set
      exact merged
    · cases set
    · cases set
  have failures : bilingual.failures (actionsOf bilingual.visible interrupted) =
      [⟨.engine (.other "busy"), true⟩] := by
    decide +kernel
  obtain ⟨resolved, unfailing⟩ := run_reliable bilingual interrupted initial brought
  rw [failures] at unfailing
  exact ⟨initial, brought, resolved _ merged "rust" (untitled "rust").uri, failures,
    unfailing ⟨.engine (.other "busy"), true⟩ (List.mem_singleton_self _)⟩

end BracketDecoration.Decoration.Manager
