import BracketDecoration.Proofs.Decoration.Independence
import BracketDecoration.Proofs.Decoration.Messages

/-!
Decorating all that is visible. What is decided about a document does not depend on the others, unless they share
its key: the gate gives the same answers all the time, and nobody else takes or brings an engine. So a second pass
finds every document as the first one has left it, and the order of documents only shows in the numbers of their
engines.
-/

namespace BracketDecoration

namespace Grammar.Gate

variable {gate : Gate Catalog} {catalog : Catalog}

theorem ensure_ensure (builtin : gate.loaders = .ofList Loader.builtin) (id : String) :
    (gate.ensure catalog id).gate.ensure (gate.ensure catalog id).core id = gate.ensure catalog id := by
  by_cases met : (gate.ensure catalog id).answer = .ok true
  · have available := ((gate.meeting_ensure catalog id).isAvailable_iff id).mpr (Or.inr ⟨rfl, met⟩)
    rw [((meeting_ensure _ _ id).of_available available).2, ← met]
  · obtain ⟨sameGate, sameCore⟩ := ensure_unmet builtin id met
    rw [sameGate, sameCore]

def afterComponents (gate : Gate Catalog) (catalog : Catalog) (demanded : Bool) : Gate Catalog × Catalog :=
  if demanded then ((gate.ensure catalog "vue").gate, (gate.ensure catalog "vue").core)
  else (gate, catalog)

private theorem afterComponents_twice (builtin : gate.loaders = .ofList Loader.builtin) (first second : Bool) :
    (gate.afterComponents catalog first).1.afterComponents (gate.afterComponents catalog first).2 second =
      gate.afterComponents catalog (first || second) := by
  cases first with
  | false => rfl
  | true =>
      cases second with
      | false => rfl
      | true =>
          exact congrArg (fun demand => (demand.gate, demand.core)) (ensure_ensure builtin "vue")

end Grammar.Gate

namespace Decoration

open Editor (Document DocumentKey)

namespace Throttle

variable (throttle : Throttle)

def afterReport (reported : Bool) : Throttle :=
  if reported then throttle.report.1 else throttle

def passed (reported : Bool) : Nat :=
  if reported && throttle.enabled then 1 else 0

theorem enabled_report : throttle.report.1.enabled = false := by
  unfold report
  cases enabled : throttle.enabled with
  | false => exact enabled
  | true => rfl

private theorem report_of_disabled (disabled : throttle.enabled = false) :
    throttle.report = (throttle, false) := by
  unfold report
  rw [disabled]
  rfl

private theorem afterReport_twice (first second : Bool) :
    (throttle.afterReport first).afterReport second = throttle.afterReport (first || second) := by
  cases first with
  | false => rfl
  | true =>
      cases second with
      | false => rfl
      | true =>
          change throttle.report.1.report.1 = throttle.report.1
          rw [report_of_disabled _ throttle.enabled_report]

private theorem passed_twice (first second : Bool) :
    throttle.passed first + (throttle.afterReport first).passed second = throttle.passed (first || second) := by
  cases first with
  | false => exact Nat.zero_add _
  | true =>
      have muted : throttle.report.1.passed second = 0 := by
        unfold passed
        rw [enabled_report, Bool.and_false]
        rfl
      change throttle.passed true + throttle.report.1.passed second = throttle.passed true
      rw [muted, Nat.add_zero]

end Throttle

/-- The keys with the settings of their engines, whatever the numbers of the engines are. -/
def Registry.contents (registry : Registry) : List (DocumentKey × Settings.Snapshot) :=
  registry.entries.map fun entry => (entry.key, entry.engine.settings)

structure Decision where
  document : Document
  verdict : Verdict

namespace Decision

def demands (decision : Decision) : Bool :=
  match decision.verdict with
  | .refused _ | .granted _ => Grammar.idForLanguage decision.document.language = "vue"
  | _ => false

def refused (decision : Decision) : Bool := decision.verdict.error?.isSome

def entry? (decision : Decision) : Option (DocumentKey × Settings.Snapshot) :=
  match decision.verdict with
  | .granted settings => some (decision.document.key, settings)
  | _ => none

end Decision

namespace Manager

variable {answers : String → Except Grammar.Error Bool} {config : Settings.Config}
  {manager : Manager Grammar.Catalog}

/-- What all decisions rest on but the registry, and what no document changes. -/
structure Steady (answers : String → Except Grammar.Error Bool) (config : Settings.Config)
    (manager : Manager Grammar.Catalog) : Prop where
  answering : manager.gate.Answers answers manager.core
  unqueued : manager.factory.failures = []
  config : manager.config = config

theorem Steady.present (steady : Steady answers config manager) (document : Document)
    (delivery : Option Delivery) : Steady answers config (manager.present document delivery) := by
  rw [present_eq]
  have resolution := resolution_resolve manager document
  obtain ⟨answering, unqueued⟩ := resolution.undisturbed steady.answering steady.unqueued
  exact ⟨answering, unqueued, resolution.frame.1.trans steady.config⟩

theorem Steady.prospect_eq {left right : Manager Grammar.Catalog} (steady : Steady answers config left)
    (also : Steady answers config right) (document : Document) :
    left.prospect document = right.prospect document := by
  refine prospect_congr ?_ ?_ (steady.unqueued.trans also.unqueued.symm)
  · exact (steady.answering.given _).trans (also.answering.given _).symm
  · unfold settingsFor
    rw [steady.config, also.config]

def newcomer? (manager : Manager Grammar.Catalog) (document : Document) : Option Engine :=
  match manager.verdict document with
  | .granted settings => some ⟨manager.factory.created + 1, settings⟩
  | _ => none

theorem find?_present (manager : Manager Grammar.Catalog) (document : Document)
    (delivery : Option Delivery) (key : DocumentKey) :
    (manager.present document delivery).registry.find? key =
      (manager.registry.find? key).or (if document.key = key then manager.newcomer? document else none) := by
  rw [present_eq_settle]
  unfold newcomer?
  cases manager.verdict document with
  | ignored | served =>
      rw [ite_self, Option.or_none]
      rfl
  | refused error =>
      rw [settle, complain_eq, ite_self, Option.or_none]
      rfl
  | granted settings => exact manager.registry.find?_insert document.key key _

theorem untracked_of_present {document : Document} {delivery : Option Delivery} {key : DocumentKey}
    (untracked : (manager.present document delivery).registry.find? key = none) :
    manager.registry.find? key = none := by
  rw [find?_present, Option.or_eq_none_iff] at untracked
  exact untracked.1

/-- What is decided about a document is decided before all documents with other keys. -/
theorem Steady.verdict_present (steady : Steady answers config manager) (document : Document)
    (delivery : Option Delivery) {later : Document} (other : document.key ≠ later.key) :
    (manager.present document delivery).verdict later = manager.verdict later := by
  unfold verdict
  rw [find?_present, if_neg other, Option.or_none, (steady.present document delivery).prospect_eq steady later]

theorem unaborted_of_refused (unqueued : manager.factory.failures = []) {document : Document}
    {error : BuildError} (decided : manager.verdict document = .refused error) :
    error ≠ .engine .aborted := by
  have failed : manager.failure? (.present document none) = some error := by
    change manager.refusal? document = some error
    rw [refusal?_eq, decided]
    rfl
  obtain ⟨_document, _delivery, _same, _valid, _untracked, refusal⟩ :=
    (manager.failure?_eq_some_iff _ error).mp failed
  cases refusal with
  | engine cause rest settings answered accepted queued =>
      rw [unqueued] at queued
      cases queued
  | grammar | settings => nofun

/-- What decisions come to, in whatever order they are carried out. -/
structure Swept (manager : Manager Grammar.Catalog) (decisions : List Decision)
    (next : Manager Grammar.Catalog) : Prop where
  contents : next.registry.contents = manager.registry.contents ++ decisions.filterMap Decision.entry?
  access : (next.gate, next.core) =
    manager.gate.afterComponents manager.core (decisions.any Decision.demands)
  throttle : next.throttle = manager.throttle.afterReport (decisions.any Decision.refused)
  shown : next.shown.length =
    manager.shown.length + manager.throttle.passed (decisions.any Decision.refused)

theorem Swept.nil : Swept manager [] manager :=
  ⟨(List.append_nil _).symm, rfl, rfl, rfl⟩

theorem Swept.append {middle next : Manager Grammar.Catalog} {earlier later : List Decision}
    (builtin : manager.gate.loaders = .ofList Grammar.Loader.builtin) (first : Swept manager earlier middle)
    (second : Swept middle later next) : Swept manager (earlier ++ later) next where
  contents := by rw [second.contents, first.contents, List.append_assoc, List.filterMap_append]
  access := by
    have gate : middle.gate = _ := congrArg Prod.fst first.access
    have core : middle.core = _ := congrArg Prod.snd first.access
    rw [second.access, gate, core, Grammar.Gate.afterComponents_twice builtin, List.any_append]
  throttle := by rw [second.throttle, first.throttle, Throttle.afterReport_twice, List.any_append]
  shown := by
    rw [second.shown, first.shown, first.throttle, Nat.add_assoc, Throttle.passed_twice, List.any_append]

def decision (manager : Manager Grammar.Catalog) (document : Document) : Decision :=
  ⟨document, manager.verdict document⟩

private theorem asked_access (builtin : manager.gate.loaders = .ofList Grammar.Loader.builtin)
    (document : Document) :
    ((manager.asked document).gate, (manager.asked document).core) =
      manager.gate.afterComponents manager.core (Grammar.idForLanguage document.language = "vue") := by
  unfold asked demand
  by_cases components : Grammar.idForLanguage document.language = "vue"
  · rw [decide_eq_true components, components]
    rfl
  · rw [decide_eq_false components, Grammar.Gate.ensure_of_ne_vue builtin components]
    rfl

private theorem complain_swept (manager : Manager Grammar.Catalog) {error : BuildError}
    (unaborted : error ≠ .engine .aborted) :
    (manager.complain error).throttle = manager.throttle.afterReport true ∧
      (manager.complain error).shown.length = manager.shown.length + manager.throttle.passed true := by
  unfold complain
  rw [BuildError.userMessage?_of_ne unaborted]
  refine ⟨rfl, ?_⟩
  unfold Throttle.passed report Throttle.report
  cases manager.throttle.enabled with
  | false => rfl
  | true => exact List.length_append

theorem swept_present (steady : Steady answers config manager) (document : Document)
    (delivery : Option Delivery) :
    Swept manager [manager.decision document] (manager.present document delivery) := by
  have access := asked_access steady.answering.builtin document
  unfold decision
  rw [present_eq_settle]
  cases decided : manager.verdict document with
  | ignored | served =>
      exact ⟨(List.append_nil _).symm, rfl, rfl, rfl⟩
  | granted settings =>
      refine ⟨?_, ?_, rfl, rfl⟩
      · exact List.map_append
      · rw [List.any_cons, List.any_nil, Bool.or_false]
        exact access
  | refused error =>
      have unaborted := unaborted_of_refused steady.unqueued decided
      obtain ⟨shown, throttle⟩ := manager.settle_refused document error
      obtain ⟨reported, counted⟩ := manager.complain_swept unaborted
      refine ⟨?_, ?_, ?_, ?_⟩
      · rw [settle, complain_eq]
        exact (List.append_nil _).symm
      · rw [settle, complain_eq, List.any_cons, List.any_nil, Bool.or_false]
        exact access
      · exact throttle.trans reported
      · exact (congrArg List.length shown).trans counted

def updateEach (manager : Manager Grammar.Catalog) (documents : List Document) : Manager Grammar.Catalog :=
  documents.foldl update manager

/-- Documents with distinct keys are all decided as if each was the first. -/
theorem swept_updateEach (steady : Steady answers config manager) {documents : List Document}
    (distinct : (documents.map Document.key).Nodup) :
    Swept manager (documents.map manager.decision) (manager.updateEach documents) := by
  induction documents generalizing manager with
  | nil => exact .nil
  | cons document rest ih =>
      rw [List.map_cons, List.nodup_cons] at distinct
      obtain ⟨fresh, distinct⟩ := distinct
      -- The first document is of no account to the others, so their decisions are those at the start.
      have first := swept_present steady document (some .refresh)
      have second := ih (steady.present document (some .refresh)) distinct
      have decided : rest.map (manager.present document (some .refresh)).decision =
          rest.map manager.decision := by
        refine List.map_congr_left fun later member => ?_
        have other : document.key ≠ later.key := fun same => fresh (same ▸ List.mem_map_of_mem member)
        unfold decision
        rw [steady.verdict_present document (some .refresh) other]
      rw [decided] at second
      exact first.append steady.answering.builtin second

private theorem Swept.congr {left right : Manager Grammar.Catalog} {decisions permuted : List Decision}
    (same : permuted.Perm decisions) (first : Swept manager decisions left)
    (second : Swept manager permuted right) :
    right.registry.contents.Perm left.registry.contents ∧ right.gate = left.gate ∧
      right.core = left.core ∧ right.throttle = left.throttle ∧
      right.shown.length = left.shown.length := by
  have access : (right.gate, right.core) = (left.gate, left.core) := by
    rw [first.access, second.access, same.any_eq]
  refine ⟨?_, congrArg Prod.fst access, congrArg Prod.snd access, ?_, ?_⟩
  · rw [first.contents, second.contents]
    exact (same.filterMap Decision.entry?).append_left manager.registry.contents
  · rw [first.throttle, second.throttle, same.any_eq]
  · rw [first.shown, second.shown, same.any_eq]

theorem verdict_eq_granted_iff {document : Document} {settings : Settings.Snapshot} :
    manager.verdict document = .granted settings ↔
      document.isValid = true ∧ manager.registry.find? document.key = none ∧
        manager.prospect document = .ok (some settings) := by
  constructor
  · intro granted
    -- The verdict looks at these three, in this order, and every other finding is another verdict.
    unfold verdict at granted
    split at granted
    · rename_i valid
      split at granted
      · cases granted
      · rename_i untracked
        split at granted
        · cases granted
        · cases granted
        · rename_i offered prospect
          cases granted
          exact ⟨valid, untracked, prospect⟩
    · cases granted
  · rintro ⟨valid, untracked, prospect⟩
    rw [verdict_untracked valid untracked, prospect]

/-- The document would not get an engine now: it has one, or it is not decorated, or none can be made. -/
def Settled (manager : Manager Grammar.Catalog) (document : Document) : Prop :=
  ∀ settings, manager.verdict document ≠ .granted settings

/-- A document can be told something by its engine, but no engine comes or goes. -/
structure Unmoved (before after : Manager Grammar.Catalog) : Prop where
  registry : after.registry = before.registry
  factory : after.factory = before.factory
  told : ∃ events, after.log = before.log ++ events ∧ ∀ event ∈ events, ∃ engine, event = .updated engine

theorem Unmoved.refl (manager : Manager Grammar.Catalog) : Unmoved manager manager :=
  ⟨rfl, rfl, [], (List.append_nil _).symm, nofun⟩

theorem Unmoved.trans {before middle after : Manager Grammar.Catalog} (first : Unmoved before middle)
    (second : Unmoved middle after) : Unmoved before after := by
  obtain ⟨earlier, logged, updates⟩ := first.told
  obtain ⟨later, loggedThen, updatesThen⟩ := second.told
  refine ⟨second.registry.trans first.registry, second.factory.trans first.factory, earlier ++ later, ?_,
    List.forall_mem_append.mpr ⟨updates, updatesThen⟩⟩
  rw [loggedThen, logged, List.append_assoc]

private theorem Settled.unmoved {document : Document} (settled : manager.Settled document)
    (unqueued : manager.factory.failures = []) : Unmoved manager (manager.present document (some .refresh)) := by
  rw [present_eq_settle]
  cases decided : manager.verdict document with
  | ignored => exact ⟨rfl, rfl, [], rfl, nofun⟩
  | served engine =>
      exact ⟨rfl, rfl, [.updated engine.id], rfl, List.forall_mem_singleton.mpr ⟨engine.id, rfl⟩⟩
  | granted settings => exact absurd decided (settled settings)
  | refused error =>
      have spent : manager.factory.spend error = manager.factory := by
        unfold Factory.spend
        cases error with
        | engine cause =>
            dsimp only
            rw [unqueued, List.tail_nil, ← unqueued]
        | grammar | settings => rfl
      rw [settle, complain_eq]
      exact ⟨rfl, spent, [], rfl, nofun⟩

/-- Presenting a document makes no other one that would be refused or ignored get an engine. -/
theorem Steady.granted_of_present (steady : Steady answers config manager) {other document : Document}
    {delivery : Option Delivery} {settings : Settings.Snapshot}
    (granted : (manager.present other delivery).verdict document = .granted settings) :
    manager.verdict document = .granted settings := by
  obtain ⟨valid, untracked, prospect⟩ := verdict_eq_granted_iff.mp granted
  rw [(steady.present other delivery).prospect_eq steady document] at prospect
  exact verdict_eq_granted_iff.mpr ⟨valid, untracked_of_present untracked, prospect⟩

theorem Settled.present {document : Document} (settled : manager.Settled document)
    (steady : Steady answers config manager) (other : Document) (delivery : Option Delivery) :
    (manager.present other delivery).Settled document :=
  fun settings granted => settled settings (steady.granted_of_present granted)

theorem settled_present (steady : Steady answers config manager) (document : Document)
    (delivery : Option Delivery) : (manager.present document delivery).Settled document := by
  intro settings granted
  have before := steady.granted_of_present granted
  obtain ⟨_valid, untracked, _prospect⟩ := verdict_eq_granted_iff.mp granted
  rw [find?_present, if_pos rfl, newcomer?, before, Option.or_eq_none_iff] at untracked
  cases untracked.2

private theorem Settled.updateEach {document : Document} (settled : manager.Settled document)
    (steady : Steady answers config manager) (documents : List Document) :
    (manager.updateEach documents).Settled document := by
  induction documents generalizing manager with
  | nil => exact settled
  | cons other rest ih =>
      exact ih (settled.present steady other (some .refresh)) (steady.present other (some .refresh))

/-- A pass settles every document, even if another one with its key comes in between. -/
theorem settled_updateEach (steady : Steady answers config manager) (documents : List Document) :
    ∀ document ∈ documents, (manager.updateEach documents).Settled document := by
  induction documents generalizing manager with
  | nil => nofun
  | cons first rest ih =>
      have next := steady.present first (some .refresh)
      exact List.forall_mem_cons.mpr
        ⟨(settled_present steady first (some .refresh)).updateEach next rest, ih next⟩

private theorem Steady.updateEach (steady : Steady answers config manager) (documents : List Document) :
    Steady answers config (manager.updateEach documents) := by
  induction documents generalizing manager with
  | nil => exact steady
  | cons document rest ih => exact ih (steady.present document (some .refresh))

private theorem unmoved_updateEach (steady : Steady answers config manager) {documents : List Document}
    (settled : ∀ document ∈ documents, manager.Settled document) :
    Unmoved manager (manager.updateEach documents) := by
  induction documents generalizing manager with
  | nil => exact .refl manager
  | cons document rest ih =>
      obtain ⟨here, later⟩ := List.forall_mem_cons.mp settled
      refine (here.unmoved steady.unqueued).trans (ih (steady.present document (some .refresh)) ?_)
      exact fun other member => (later other member).present steady document (some .refresh)

/-- Decorating all that is visible once more makes no engine and disposes none, whatever failed and whatever shares
its key. If no keys are shared the order of documents does not matter either: the same documents have engines with
the same settings, and gate, catalog and throttle end up the same, as does the number of messages. Nobody but the
gate may add to the catalog, and no failure may be queued. -/
theorem updateAll_stable (manager : Manager Grammar.Catalog)
    (builtin : manager.gate.loaders = .ofList Grammar.Loader.builtin)
    (unqueued : manager.factory.failures = []) :
    let once := manager.updateAll
    Unmoved once once.updateAll ∧
      ∀ documents, documents.Perm manager.visible → (manager.visible.map Document.key).Nodup →
        let other := (manager.setVisible documents).updateAll
        other.registry.contents.Perm once.registry.contents ∧ other.gate = once.gate ∧
          other.core = once.core ∧ other.throttle = once.throttle ∧
          other.shown.length = once.shown.length := by
  intro once
  have steady : Steady (fun id => (manager.gate.ensure manager.core id).answer) manager.config manager :=
    ⟨⟨builtin, fun _ => rfl⟩, unqueued, rfl⟩
  constructor
  · have visible : once.visible = manager.visible := manager.visible_step .updateAll
    change Unmoved once (once.updateEach once.visible)
    rw [visible]
    exact unmoved_updateEach (steady.updateEach manager.visible) (settled_updateEach steady manager.visible)
  · intro documents permuted distinct other
    have rearranged : (documents.map Document.key).Nodup :=
      (permuted.map Document.key).nodup_iff.mpr distinct
    have first : Swept manager (manager.visible.map manager.decision) once :=
      swept_updateEach steady distinct
    have start : Steady _ _ (manager.setVisible documents) := ⟨steady.answering, unqueued, rfl⟩
    obtain ⟨contents, access, throttle, shown⟩ := swept_updateEach start rearranged
    have second : Swept manager (documents.map manager.decision) other :=
      ⟨contents, access, throttle, shown⟩
    exact first.congr (permuted.map manager.decision) second

/-- A manager without usable settings for style sheets, and the documents that it shows. -/
def showing (documents : List Document) : Manager Grammar.Catalog :=
  { componentManager with
    config := { languages := [⟨"css", { timeout := some 20000 }⟩] }
    visible := documents }

/-- One document that is shown under two languages fails under the first. Apart, the other way round, the failure
comes after the grammar of components was loaded. -/
theorem updateAll_stable_showing :
    let shared := showing [untitled "css", untitled "vue"]
    let apart := showing [untitled "css", second (untitled "vue")]
    let turned := apart.setVisible apart.visible.reverse
    (shared.gate.loaders = .ofList Grammar.Loader.builtin ∧ shared.factory.failures = []) ∧
      (shared.updateAll.shown.length = 1 ∧ shared.updateAll.registry.size = 1) ∧
      Unmoved shared.updateAll shared.updateAll.updateAll ∧
      (apart.visible.map Document.key).Nodup ∧
      (apart.updateAll.shown.length = 1 ∧ apart.updateAll.gate.isAvailable "vue" = true) ∧
      turned.updateAll.registry.contents.Perm apart.updateAll.registry.contents ∧
      turned.updateAll.gate = apart.updateAll.gate ∧ turned.updateAll.core = apart.updateAll.core ∧
      turned.updateAll.throttle = apart.updateAll.throttle ∧
      turned.updateAll.shown.length = apart.updateAll.shown.length := by
  intro shared apart turned
  have distinct : (apart.visible.map Document.key).Nodup := by decide +kernel
  have permuted : apart.visible.reverse.Perm apart.visible := List.reverse_perm apart.visible
  exact ⟨⟨rfl, rfl⟩, ⟨by decide +kernel, by decide +kernel⟩, (updateAll_stable shared rfl rfl).1, distinct,
    ⟨by decide +kernel, by decide +kernel⟩, (updateAll_stable apart rfl rfl).2 _ permuted distinct⟩

end Manager

end Decoration

end BracketDecoration
