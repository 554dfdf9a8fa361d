import BracketDecoration.Proofs.Decoration.Legality
import BracketDecoration.Proofs.Decoration.Outcome
import BracketDecoration.Proofs.Grammar.Builtin
import Mathlib.Order.Monotone.Basic

/-!
Documents do not notice each other. A run is compared with the run that is left if everything addressed to other
documents is taken out. What happens to the one document is the same in both, except that its engines have
other numbers, in the same order: the gates may differ on the way, but not in what they answer.
-/

namespace BracketDecoration.Decoration

open Editor (Document DocumentKey)

/-! ### Renumbering -/

def Event.renumber (number : Nat → Nat) : Event → Event
  | .created engine uri grammar => .created (number engine) uri grammar
  | .updated engine => .updated (number engine)
  | .changed engine changes => .changed (number engine) changes
  | .disposed engine => .disposed (number engine)

def Engine.renumber (number : Nat → Nat) (engine : Engine) : Engine :=
  { engine with id := number engine.id }

private theorem Event.renumber_congr {number other : Nat → Nat} {event : Event}
    (same : number event.engine = other event.engine) :
    event.renumber number = event.renumber other := by
  cases event with
  | created engine uri grammar => exact congrArg (Event.created · uri grammar) same
  | updated engine => exact congrArg Event.updated same
  | changed engine changes => exact congrArg (Event.changed · changes) same
  | disposed engine => exact congrArg Event.disposed same

theorem map_renumber_told (number : Nat → Nat) (engine : Nat) (delivery : Option Delivery) :
    (told engine delivery).map (Event.renumber number) = told (number engine) delivery := by
  cases delivery with
  | none => rfl
  | some delivery =>
      cases delivery with
      | refresh => rfl
      | edits changes => rfl

/-- The numbers up to `last` as they were, and the ones after it from `next` on. -/
def extendNumbers (number : Nat → Nat) (last next : Nat) (engine : Nat) : Nat :=
  if engine ≤ last then number engine else next + (engine - last)

private theorem extendNumbers_of_le {number : Nat → Nat} {last next engine : Nat} (known : engine ≤ last) :
    extendNumbers number last next engine = number engine :=
  if_pos known

private theorem extendNumbers_succ (number : Nat → Nat) (last next : Nat) :
    extendNumbers number last next (last + 1) = next + 1 := by
  rw [extendNumbers, if_neg (Nat.not_succ_le_self last), Nat.add_sub_cancel_left]

private theorem strictMono_extendNumbers {number : Nat → Nat} {last next : Nat} (ordered : StrictMono number)
    (bounded : number last ≤ next) : StrictMono (extendNumbers number last next) := by
  intro left right before
  unfold extendNumbers
  by_cases late : right ≤ last
  · rw [if_pos late, if_pos (Nat.le_of_lt (Nat.lt_of_lt_of_le before late))]
    exact ordered before
  · rw [if_neg late]
    by_cases early : left ≤ last
    · rw [if_pos early]
      have below : number left ≤ number last := ordered.monotone early
      omega
    · rw [if_neg early]
      omega

namespace Manager

/-! ### Runs in which nobody else has a hand -/

/-- Whether an action makes engines fail, or changes the catalog behind the back of the gate. -/
def Action.disturbs : Action → Bool
  | .failNext _ | .register _ => true
  | _ => false

def Operation.disturbs : Operation → Bool
  | .failNext _ | .register _ => true
  | _ => false

private theorem actions_undisturbing (operation : Operation) (undisturbing : operation.disturbs = false)
    (visible : List Document) : ∀ action ∈ operation.actions visible, action.disturbs = false := by
  have refreshes_undisturbing : ∀ action ∈ Action.refreshes visible, action.disturbs = false :=
    forall_refreshes (fun _ => rfl) visible
  cases operation with
  | updateAll => exact refreshes_undisturbing
  | reset => exact List.forall_mem_cons.mpr ⟨rfl, refreshes_undisturbing⟩
  | setConfig config =>
      exact List.forall_mem_cons.mpr ⟨rfl, List.forall_mem_cons.mpr ⟨rfl, refreshes_undisturbing⟩⟩
  | failNext error => cases undisturbing
  | register definition => cases undisturbing
  | _ => exact List.forall_mem_singleton.mpr rfl

variable {answers : String → Except Grammar.Error Bool} {first : Nat}

/-- A manager in the midst of such a run, with the events of the run so far. Its gate gives the same answers all
the time. -/
structure Underway (answers : String → Except Grammar.Error Bool) (first : Nat)
    (manager : Manager Grammar.Catalog) (log : List Event) : Prop where
  answering : manager.gate.Answers answers manager.core
  unqueued : manager.factory.failures = []
  ledger : Ledger first log manager.factory.created manager.registry.holdings

theorem Resolution.undisturbed {manager next : Manager Grammar.Catalog} {document : Document}
    {engine : Option Engine} (resolution : Resolution manager document next engine)
    (answering : manager.gate.Answers answers manager.core)
    (unqueued : manager.factory.failures = []) :
    next.gate.Answers answers next.core ∧ next.factory.failures = [] := by
  have asked := answering.after (Grammar.idForLanguage document.language)
  cases resolution with
  | invalid undecorated => exact ⟨answering, unqueued⟩
  | tracked engine valid found => exact ⟨answering, unqueued⟩
  | unsupported valid untracked answered => exact ⟨asked, unqueued⟩
  | refused error factory valid untracked refusal =>
      rw [complain_eq]
      cases refusal with
      | engine cause rest settings answered accepted queued =>
          rw [unqueued] at queued
          cases queued
      | _ => exact ⟨asked, unqueued⟩
  | made settings valid untracked answered accepted unqueued => exact ⟨asked, unqueued⟩

theorem Underway.perform {manager : Manager Grammar.Catalog} {log : List Event}
    (underway : Underway answers first manager log) {action : Action}
    (undisturbing : action.disturbs = false) :
    Underway answers first (manager.perform action) (log ++ manager.issues action) := by
  have ledger := (manager.effect_perform action).ledger underway.ledger
  obtain ⟨answering, unqueued, _ledger⟩ := underway
  cases action with
  | present document delivery =>
      have presented : manager.perform (.present document delivery) = _ :=
        manager.present_eq document delivery
      obtain ⟨stillAnswering, stillUnqueued⟩ :=
        (resolution_resolve manager document).undisturbed answering unqueued
      refine ⟨?_, ?_, ledger⟩
      · rw [presented]
        exact stillAnswering
      · rw [presented]
        exact stillUnqueued
  | discard key =>
      have disposed : manager.perform (.discard key) = _ := manager.dispose_eq key
      refine ⟨?_, ?_, ledger⟩
      · rw [disposed]
        exact answering
      · rw [disposed]
        exact unqueued
  | failNext error => cases undisturbing
  | register definition => cases undisturbing
  | _ => exact ⟨answering, unqueued, ledger⟩

/-! ### Two runs -/

variable {key : DocumentKey} {number : Nat → Nat} {manager reduced : Manager Grammar.Catalog}
  {log reducedLog : List Event}

/-- A manager does for the document what the reduced manager does, which has no other documents. -/
structure Mirrors (key : DocumentKey) (number : Nat → Nat) (manager reduced : Manager Grammar.Catalog)
    (log reducedLog : List Event) : Prop where
  config : manager.config = reduced.config
  ordered : StrictMono number
  bounded : number reduced.factory.created ≤ manager.factory.created
  tracked : manager.registry.find? key =
    (reduced.registry.find? key).map (Engine.renumber number)
  alone : ∀ entry ∈ reduced.registry.entries, entry.key = key
  told : eventsFor key.text log = reducedLog.map (Event.renumber number)

theorem offer_eq (underway : Underway answers first manager log)
    (reducedUnderway : Underway answers first reduced reducedLog)
    (config : manager.config = reduced.config) (document : Document) :
    manager.offer document = reduced.offer document := by
  have same : (manager.demand document).answer = (reduced.demand document).answer :=
    (underway.answering.given _).trans (reducedUnderway.answering.given _).symm
  unfold offer settingsFor
  rw [same, config]

theorem Mirrors.extend (mirrors : Mirrors key number manager reduced log reducedLog)
    (underway : Underway answers first reduced reducedLog) :
    Mirrors key (extendNumbers number reduced.factory.created manager.factory.created) manager reduced
      log reducedLog where
  config := mirrors.config
  ordered := strictMono_extendNumbers mirrors.ordered mirrors.bounded
  bounded := by
    rw [extendNumbers_of_le (Nat.le_refl _)]
    exact mirrors.bounded
  tracked := by
    rw [mirrors.tracked]
    refine Option.map_congr fun engine found => ?_
    have known := (underway.ledger.numbered _ (Registry.mem_holdings found)).2
    rw [Engine.renumber, Engine.renumber, extendNumbers_of_le known]
  alone := mirrors.alone
  told := by
    rw [mirrors.told]
    refine List.map_congr_left fun event member => Event.renumber_congr ?_
    exact (extendNumbers_of_le (underway.ledger.made_of_mem member).2).symm

theorem Mirrors.advance (mirrors : Mirrors key number manager reduced log reducedLog)
    {action : Action} {events reducedEvents : List Event} {registry reducedRegistry : Registry}
    {made reducedMade : Nat} (outcome : Outcome manager action events registry made)
    (reducedOutcome : Outcome reduced (action.narrow key) reducedEvents reducedRegistry reducedMade)
    (bounded : number reducedMade ≤ made)
    (tracked : registry.find? key = (reducedRegistry.find? key).map (Engine.renumber number))
    (alone : ∀ entry ∈ reducedRegistry.entries, entry.key = key)
    (own : eventsFor key.text (log ++ events) =
      eventsFor key.text log ++ reducedEvents.map (Event.renumber number)) :
    Mirrors key number (manager.perform action) (reduced.perform (action.narrow key))
      (log ++ manager.issues action) (reducedLog ++ reduced.issues (action.narrow key)) where
  config := by
    have narrowed (config : Settings.Config) :
        (action.narrow key).configAfter config = action.configAfter config := by
      cases action with
      | _ => rfl
    rw [(manager.perform_frame action).1, (reduced.perform_frame _).1, mirrors.config, narrowed]
  ordered := mirrors.ordered
  bounded := by
    rw [outcome.created, reducedOutcome.created]
    exact bounded
  tracked := by
    rw [outcome.registry, reducedOutcome.registry]
    exact tracked
  alone := by
    rw [reducedOutcome.registry]
    exact alone
  told := by
    rw [outcome.issues, reducedOutcome.issues, own, mirrors.told, List.map_append]

theorem Mirrors.idle (mirrors : Mirrors key number manager reduced log reducedLog) {action : Action}
    (outcome : Outcome manager action [] manager.registry manager.factory.created)
    (reducedOutcome :
      Outcome reduced (action.narrow key) [] reduced.registry reduced.factory.created) :
    Mirrors key number (manager.perform action) (reduced.perform (action.narrow key))
      (log ++ manager.issues action) (reducedLog ++ reduced.issues (action.narrow key)) := by
  refine mirrors.advance outcome reducedOutcome mirrors.bounded mirrors.tracked mirrors.alone ?_
  rw [List.append_nil]
  exact (List.append_nil _).symm

private theorem Mirrors.discarded (mirrors : Mirrors key number manager reduced log reducedLog)
    (underway : Underway answers first manager log) {action : Action} {disposed : List Holding}
    {registry : Registry}
    (outcome : Outcome manager action (disposed.map fun holding => .disposed holding.engine) registry
      manager.factory.created)
    (reducedOutcome : Outcome reduced (action.narrow key)
      ((reduced.registry.heldFor key).map fun holding => .disposed holding.engine) .empty
      reduced.factory.created)
    (living : ∀ holding ∈ disposed, holding ∈ manager.registry.holdings)
    (own : disposed.filter (fun holding => holding.uri = key.text) = manager.registry.heldFor key)
    (gone : registry.find? key = none) :
    Mirrors key number (manager.perform action) (reduced.perform (action.narrow key))
      (log ++ manager.issues action) (reducedLog ++ reduced.issues (action.narrow key)) := by
  refine mirrors.advance outcome reducedOutcome mirrors.bounded gone (fun entry member => nomatch member) ?_
  rw [underway.ledger.eventsFor_disposed key.text living, own]
  unfold Registry.heldFor
  rw [mirrors.tracked]
  cases reduced.registry.find? key with
  | none => rfl
  | some engine => rfl

private theorem Mirrors.made (mirrors : Mirrors key number manager reduced log reducedLog)
    (underway : Underway answers first manager log)
    (reducedUnderway : Underway answers first reduced reducedLog) {document : Document}
    (addressed : document.key = key) (valid : document.isValid = true)
    (untracked : reduced.registry.find? key = none) {settings : Settings.Snapshot}
    (offered : reduced.offer document = some settings) (delivery : Option Delivery) :
    Mirrors key (extendNumbers number reduced.factory.created manager.factory.created)
      (manager.perform (.present document delivery)) (reduced.perform (.present document delivery))
      (log ++ manager.issues (.present document delivery))
      (reducedLog ++ reduced.issues (.present document delivery)) := by
  subst addressed
  have untrackedHere : manager.registry.find? document.key = none := by
    rw [mirrors.tracked, untracked]
    rfl
  have offeredHere : manager.offer document = some settings :=
    (offer_eq underway reducedUnderway mirrors.config document).trans offered
  have newest := extendNumbers_succ number reduced.factory.created manager.factory.created
  have outcome := outcome_made valid untrackedHere offeredHere underway.unqueued delivery
  have reducedOutcome := outcome_made valid untracked offered reducedUnderway.unqueued delivery
  refine (mirrors.extend reducedUnderway).advance outcome reducedOutcome (Nat.le_of_eq newest) ?_ ?_ ?_
  · rw [Registry.find?_insert, Registry.find?_insert, untrackedHere, untracked, if_pos rfl,
      Option.none_or, Option.none_or, if_pos rfl, Option.map_some, Engine.renumber, newest]
  · intro entry member
    rcases List.mem_append.mp member with older | added
    · exact mirrors.alone entry older
    · rw [List.mem_singleton.mp added]
  · have written : document.uri.text = document.key.text := rfl
    rw [underway.ledger.eventsFor_created, if_pos written, List.map_cons, map_renumber_told,
      Event.renumber, newest]

private theorem Mirrors.presented (mirrors : Mirrors key number manager reduced log reducedLog)
    (underway : Underway answers first manager log)
    (reducedUnderway : Underway answers first reduced reducedLog) {document : Document}
    (addressed : document.key = key) (delivery : Option Delivery) :
    ∃ next, Mirrors key next (manager.perform (.present document delivery))
      (reduced.perform (.present document delivery))
      (log ++ manager.issues (.present document delivery))
      (reducedLog ++ reduced.issues (.present document delivery)) := by
  subst addressed
  -- What becomes of the document is decided by its engine and its offer, and they are the same in both runs.
  have sameOffer := offer_eq underway reducedUnderway mirrors.config document
  by_cases unserved : document.isValid = true →
      reduced.registry.find? document.key = none ∧ reduced.offer document = none
  · have unservedHere : document.isValid = true →
        manager.registry.find? document.key = none ∧ manager.offer document = none := by
      intro valid
      rw [mirrors.tracked, (unserved valid).1, sameOffer]
      exact ⟨rfl, (unserved valid).2⟩
    exact ⟨number, mirrors.idle (outcome_unserved unservedHere delivery)
      (outcome_unserved unserved delivery)⟩
  · obtain ⟨valid, served⟩ := Classical.not_imp.mp unserved
    cases reducedFound : reduced.registry.find? document.key with
    | some engine =>
        have found : manager.registry.find? document.key = some (engine.renumber number) := by
          rw [mirrors.tracked, reducedFound]
          rfl
        refine ⟨number, mirrors.advance (outcome_reached valid found delivery)
          (outcome_reached valid reducedFound delivery) mirrors.bounded mirrors.tracked
          mirrors.alone ?_⟩
        rw [underway.ledger.eventsFor_told (Registry.mem_holdings found), if_pos rfl,
          map_renumber_told]
        rfl
    | none =>
        cases offered : reduced.offer document with
        | none => exact absurd ⟨reducedFound, offered⟩ served
        | some settings =>
            exact ⟨_, mirrors.made underway reducedUnderway rfl valid reducedFound offered delivery⟩

theorem Mirrors.perform (mirrors : Mirrors key number manager reduced log reducedLog)
    (underway : Underway answers first manager log)
    (reducedUnderway : Underway answers first reduced reducedLog) {action : Action}
    (concerned : action.concerns key = true) :
    ∃ next, Mirrors key next (manager.perform action) (reduced.perform (action.narrow key))
      (log ++ manager.issues action) (reducedLog ++ reduced.issues (action.narrow key)) := by
  have distinct := Registry.keys_distinct underway.ledger
  have reducedDistinct := Registry.keys_distinct reducedUnderway.ledger
  cases action with
  | present document delivery =>
      exact mirrors.presented underway reducedUnderway (of_decide_eq_true concerned) delivery
  | discard other =>
      have same : other = key := of_decide_eq_true concerned
      subst same
      have reducedOutcome := reduced.outcome_discard other
      rw [Registry.erase_of_alone mirrors.alone] at reducedOutcome
      refine ⟨number, mirrors.discarded underway (manager.outcome_discard other) reducedOutcome ?_ ?_ ?_⟩
      · exact fun holding member => Registry.mem_holdings_of_mem_heldFor member
      · exact Registry.heldFor_filter _ _
      · rw [Registry.find?_erase, if_pos rfl]
  | discardAll =>
      -- With no other documents, all that the reduced manager gives up is the engine of this one.
      have reducedPerm := reduced.released_perm
      rw [Registry.holdings_of_alone reducedDistinct mirrors.alone] at reducedPerm
      have reducedOutcome := reduced.outcome_discardAll
      rw [Registry.eq_heldFor_of_perm reducedPerm] at reducedOutcome
      refine ⟨number, mirrors.discarded underway manager.outcome_discardAll reducedOutcome ?_ ?_ rfl⟩
      · exact fun holding member => manager.released_perm.subset member
      · have own := manager.released_perm.filter fun holding => decide (holding.uri = key.text)
        rw [Registry.holdings_filter distinct key] at own
        exact Registry.eq_heldFor_of_perm own
  | _ => exact ⟨number, mirrors.idle (outcome_quiet rfl) (outcome_quiet rfl)⟩

private theorem Mirrors.skip (mirrors : Mirrors key number manager reduced log reducedLog)
    (underway : Underway answers first manager log) {action : Action}
    (foreign : action.concerns key = false) :
    Mirrors key number (manager.perform action) reduced (log ++ manager.issues action) reducedLog := by
  have effect := manager.effect_perform action
  obtain ⟨kept, unheard⟩ := effect.foreign underway.ledger foreign
  refine ⟨?_, mirrors.ordered, Nat.le_trans mirrors.bounded effect.created_le, kept.trans mirrors.tracked,
    mirrors.alone, unheard.trans mirrors.told⟩
  have unset : action.configAfter manager.config = manager.config := by
    cases action with
    | configure config => cases foreign
    | _ => rfl
  rw [(manager.perform_frame action).1, unset, mirrors.config]

/-! ### Whole runs -/

theorem Mirrors.performAll (mirrors : Mirrors key number manager reduced log reducedLog)
    (underway : Underway answers first manager log)
    (reducedUnderway : Underway answers first reduced reducedLog) (actions : List Action)
    (undisturbing : ∀ action ∈ actions, action.disturbs = false) :
    ∃ next, Mirrors key next (manager.performAll actions)
      (reduced.performAll (narrowedActions key actions)) (log ++ manager.issued actions)
      (reducedLog ++ reduced.issued (narrowedActions key actions)) := by
  induction actions generalizing number manager reduced log reducedLog with
  | nil =>
      refine ⟨number, ?_⟩
      change Mirrors key number manager reduced (log ++ []) (reducedLog ++ [])
      rw [List.append_nil, List.append_nil]
      exact mirrors
  | cons action rest ih =>
      have harmless := undisturbing action List.mem_cons_self
      have later := fun other member => undisturbing other (List.mem_cons_of_mem action member)
      rw [issued, ← List.append_assoc]
      by_cases concerned : action.concerns key = true
      · obtain ⟨next, mirrored⟩ := mirrors.perform underway reducedUnderway concerned
        have harmlessToo : (action.narrow key).disturbs = false := by
          cases action with
          | _ => exact harmless
        rw [narrowedActions_cons_of_concerns concerned, issued, ← List.append_assoc]
        exact ih mirrored (underway.perform harmless) (reducedUnderway.perform harmlessToo) later
      · have foreign := Bool.eq_false_iff.mpr concerned
        rw [narrowedActions_cons_of_not_concerns foreign]
        exact ih (mirrors.skip underway foreign) (underway.perform harmless) reducedUnderway later

/-- A document is told the same, and ends up with the same settings or without an engine, if all that is addressed
to other documents is taken out of a run: only the numbers of its engines change, and not their order. Nobody
may add to the catalog but the gate, and no engine may be made to fail. -/
theorem run_independent (start : Manager Grammar.Catalog) (untracked : start.registry = .empty)
    (builtin : start.gate.loaders = .ofList Grammar.Loader.builtin)
    (unqueued : start.factory.failures = []) (operations : List Operation)
    (undisturbing : ∀ operation ∈ operations, operation.disturbs = false) (key : DocumentKey) :
    ∃ number events reducedEvents, StrictMono number ∧
      (start.run operations).log = start.log ++ events ∧
      (start.runFor key operations).log = start.log ++ reducedEvents ∧
      eventsFor key.text events = reducedEvents.map (Event.renumber number) ∧
      (start.run operations).registry.find? key =
        ((start.runFor key operations).registry.find? key).map (Engine.renumber number) := by
  let reduced : Manager Grammar.Catalog := { start with visible := documentsOf key start.visible }
  let actions := actionsOf start.visible operations
  have undisturbed : ∀ action ∈ actions, action.disturbs = false :=
    forall_actionsOf (fun operation member => actions_undisturbing operation (undisturbing operation member))
      start.visible
  have answering : start.gate.Answers (fun id => (start.gate.ensure start.core id).answer) start.core :=
    ⟨builtin, fun _ => rfl⟩
  have ledger : Ledger start.factory.created [] start.factory.created start.registry.holdings := by
    rw [untracked]
    exact .start
  have mirrors : Mirrors key id start reduced [] [] := by
    refine ⟨rfl, strictMono_id, Nat.le_refl _, Option.map_id'.symm, ?_, rfl⟩
    intro entry member
    change entry ∈ start.registry.entries at member
    rw [untracked] at member
    cases member
  obtain ⟨number, mirrored⟩ := mirrors.performAll ⟨answering, unqueued, ledger⟩
    ⟨answering, unqueued, ledger⟩ actions undisturbed
  have run_eq : start.run operations = start.performAll actions := start.run_eq_performAll operations
  have runFor_eq : start.runFor key operations =
      reduced.performAll (narrowedActions key actions) := by
    rw [← actionsOf_narrowed]
    exact reduced.run_eq_performAll (narrowed key operations)
  refine ⟨number, start.issued actions, reduced.issued (narrowedActions key actions), mirrored.ordered,
    ?_, ?_, mirrored.told, ?_⟩
  · rw [run_eq, log_performAll]
  · rw [runFor_eq, log_performAll]
  · rw [run_eq, runFor_eq]
    exact mirrored.tracked

/-- The second document is shown twice, is the first to ask for its grammar, and does not live long. -/
def neighbours : List Operation :=
  [.openDocument (second (untitled "vue")), .openDocument (untitled "vue"),
    .setVisible [second (untitled "vue"), untitled "vue", second (untitled "vue")], .reset,
    .closeDocument (second (untitled "vue")), .updateDocument (untitled "vue")]

theorem run_independent_neighbours :
    let key := (untitled "vue").key
    let log := (componentManager.run neighbours).log
    let reducedLog := (componentManager.runFor key neighbours).log
    componentManager.registry = .empty ∧
      componentManager.gate.loaders = .ofList Grammar.Loader.builtin ∧
      componentManager.factory.failures = [] ∧
      (∀ operation ∈ neighbours, operation.disturbs = false) ∧
      log.length = 13 ∧ reducedLog.length = 6 ∧
      ∃ number, StrictMono number ∧
        eventsFor key.text log = reducedLog.map (Event.renumber number) ∧
        ((componentManager.run neighbours).registry.find? key).map Engine.id = some 4 ∧
        (componentManager.run neighbours).registry.find? key =
          ((componentManager.runFor key neighbours).registry.find? key).map
            (Engine.renumber number) := by
  intro key log reducedLog
  have undisturbing : ∀ operation ∈ neighbours, operation.disturbs = false := by decide
  refine ⟨rfl, rfl, rfl, undisturbing, by decide +kernel, by decide +kernel, ?_⟩
  obtain ⟨number, events, reducedEvents, ordered, logged, reducedLogged, told, tracked⟩ :=
    run_independent componentManager rfl rfl rfl neighbours undisturbing key
  change log = events at logged
  change reducedLog = reducedEvents at reducedLogged
  subst logged
  subst reducedLogged
  exact ⟨number, ordered, told, by decide +kernel, tracked⟩

end Manager

end BracketDecoration.Decoration
