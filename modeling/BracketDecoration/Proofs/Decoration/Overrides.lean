import BracketDecoration.Proofs.Decoration.Noninterference
import BracketDecoration.Proofs.Decoration.Verdict

/-!
A block of a configuration only affects the documents that it applies to. Runs whose configurations differ
in blocks that apply to none of their documents come out the same, whatever is wrong with the values in such
blocks and wherever they stand among the others.
-/

namespace BracketDecoration

open Editor (Document)

namespace Settings

def ScopeBlock.concerns (documents : List Document) (block : ScopeBlock) : Bool :=
  documents.any fun document => block.covers document.uri.documentPath

def LanguageBlock.concerns (documents : List Document) (block : LanguageBlock) : Bool :=
  documents.any fun document => block.grammar = Grammar.idForLanguage document.language

/-- The configurations differ at most in blocks that concern none of the documents. Those that do concern one
stand in the same order. -/
structure Config.AlikeFor (documents : List Document) (left right : Config) : Prop where
  global : left.global = right.global
  scopes : left.scopes.filter (ScopeBlock.concerns documents) =
    right.scopes.filter (ScopeBlock.concerns documents)
  languages : left.languages.filter (LanguageBlock.concerns documents) =
    right.languages.filter (LanguageBlock.concerns documents)

theorem Config.AlikeFor.refl (documents : List Document) (config : Config) :
    config.AlikeFor documents config :=
  ⟨rfl, rfl, rfl⟩

private theorem filter_eq_of_filter_eq {α : Type} {wide narrow : α → Bool} {left right : List α}
    (same : left.filter wide = right.filter wide)
    (within : ∀ block, narrow block = true → wide block = true) :
    left.filter narrow = right.filter narrow := by
  have refined (blocks : List α) : (blocks.filter wide).filter narrow = blocks.filter narrow := by
    rw [List.filter_filter]
    refine List.filter_congr fun block _member => ?_
    rw [Bool.and_eq_left_iff_imp]
    exact within block
  rw [← refined left, same, refined right]

theorem Config.AlikeFor.effective_eq {documents : List Document} {left right : Config}
    (alike : left.AlikeFor documents right) {document : Document} (known : document ∈ documents) :
    left.effective (Grammar.idForLanguage document.language) document.uri.documentPath =
      right.effective (Grammar.idForLanguage document.language) document.uri.documentPath := by
  have scopes : (left.scopes.filter fun block => block.covers document.uri.documentPath) =
      right.scopes.filter fun block => block.covers document.uri.documentPath := by
    apply filter_eq_of_filter_eq alike.scopes
    intro block covered
    exact List.any_eq_true.mpr ⟨document, known, covered⟩
  have languages :
      (left.languages.filter fun block => block.grammar = Grammar.idForLanguage document.language) =
        right.languages.filter fun block =>
          block.grammar = Grammar.idForLanguage document.language := by
    apply filter_eq_of_filter_eq alike.languages
    intro block named
    exact List.any_eq_true.mpr ⟨document, known, named⟩
  unfold effective language?
  rw [alike.global, scopes, languages]

end Settings

namespace Decoration.Manager

variable {κ : Type}

def Operation.documents : Operation → List Document
  | .openDocument document | .updateDocument document | .changeDocument document _
  | .closeDocument document | .resolve document => [document]
  | .setVisible documents => documents
  | _ => []

def Action.documents : Action → List Document
  | .present document _ => [document]
  | _ => []

inductive Operation.AlikeFor (documents : List Document) : Operation → Operation → Prop where
  | same (operation : Operation) : AlikeFor documents operation operation
  | setConfig {left right : Settings.Config} (alike : left.AlikeFor documents right) :
      AlikeFor documents (.setConfig left) (.setConfig right)
  | withConfig {left right : Settings.Config} (alike : left.AlikeFor documents right) :
      AlikeFor documents (.withConfig left) (.withConfig right)

inductive Action.AlikeFor (documents : List Document) : Action → Action → Prop where
  | same (action : Action) (unset : ∀ config, action.configAfter config = config)
      (known : ∀ document ∈ action.documents, document ∈ documents) :
      AlikeFor documents action action
  | configure {left right : Settings.Config} (alike : left.AlikeFor documents right) :
      AlikeFor documents (.configure left) (.configure right)

variable {documents visible : List Document}

private theorem refreshes_alikeFor (shown : ∀ document ∈ visible, document ∈ documents) :
    List.Forall₂ (Action.AlikeFor documents) (Action.refreshes visible) (Action.refreshes visible) := by
  apply List.forall₂_same.mpr
  intro action member
  obtain ⟨document, present, rfl⟩ := List.mem_map.mp member
  exact .same _ (fun _ => rfl) (List.forall_mem_singleton.mpr (shown document present))

private theorem Operation.AlikeFor.actions {first second : Operation}
    (alike : Operation.AlikeFor documents first second)
    (shown : ∀ document ∈ visible, document ∈ documents)
    (passed : ∀ document ∈ first.documents, document ∈ documents) :
    List.Forall₂ (Action.AlikeFor documents) (first.actions visible) (second.actions visible) := by
  have refreshed := refreshes_alikeFor shown
  have discarded : Action.AlikeFor documents .discardAll .discardAll := .same _ (fun _ => rfl) nofun
  cases alike with
  | setConfig alike => exact .cons (.configure alike) (.cons discarded refreshed)
  | withConfig alike => exact .cons (.configure alike) .nil
  | same =>
      cases first with
      | openDocument | updateDocument | changeDocument | resolve =>
          exact .cons (.same _ (fun _ => rfl) passed) .nil
      | updateAll => exact refreshed
      | reset => exact .cons discarded refreshed
      | setConfig config => exact .cons (.configure (.refl _ config)) (.cons discarded refreshed)
      | withConfig config => exact .cons (.configure (.refl _ config)) .nil
      | _ => exact .cons (.same _ (fun _ => rfl) nofun) .nil

private theorem Operation.AlikeFor.visibleAfter {first second : Operation}
    (alike : Operation.AlikeFor documents first second) (visible : List Document) :
    first.visibleAfter visible = second.visibleAfter visible := by
  cases alike with
  | _ => rfl

private theorem mem_visibleAfter {operation : Operation} {document : Document}
    (member : document ∈ operation.visibleAfter visible) :
    document ∈ visible ∨ document ∈ operation.documents := by
  cases operation with
  | setVisible documents => exact .inr member
  | _ => exact .inl member

private theorem actionsOf_alikeFor {first second : List Operation}
    (alike : List.Forall₂ (Operation.AlikeFor documents) first second)
    (shown : ∀ document ∈ visible, document ∈ documents)
    (passed : ∀ operation ∈ first, ∀ document ∈ operation.documents, document ∈ documents) :
    List.Forall₂ (Action.AlikeFor documents) (actionsOf visible first) (actionsOf visible second) := by
  induction alike generalizing visible with
  | nil => exact .nil
  | @cons operation other rest others alike later ih =>
      obtain ⟨now, afterwards⟩ := List.forall_mem_cons.mp passed
      have shownAfter : ∀ document ∈ operation.visibleAfter visible, document ∈ documents := by
        intro document member
        rcases mem_visibleAfter member with older | newer
        · exact shown document older
        · exact now document newer
      rw [actionsOf, actionsOf, ← alike.visibleAfter]
      exact List.rel_append (alike.actions shown now) (ih shownAfter afterwards)

/-- The other manager differs at most in blocks of its configuration that concern none of the documents. -/
inductive Reworded (documents : List Document) (manager : Manager κ) : Manager κ → Prop where
  | intro (config : Settings.Config) (alike : manager.config.AlikeFor documents config) :
      Reworded documents manager (manager.withConfig config)

private theorem complain_withConfig (manager : Manager κ) (config : Settings.Config) (error : BuildError) :
    (manager.withConfig config).complain error = (manager.complain error).withConfig config := by
  unfold complain
  cases error.userMessage? with
  | none => rfl
  | some message => rfl

private theorem Reworded.log {left right : Manager κ} (reworded : Reworded documents left right) :
    left.log = right.log := by
  obtain ⟨config, _worded⟩ := reworded
  rfl

private theorem Reworded.eq_withConfig {left right : Manager κ} (reworded : Reworded documents left right) :
    right = left.withConfig right.config := by
  obtain ⟨config, _worded⟩ := reworded
  rfl

variable [Grammar.Tokenizer κ]

/-- What is decided about a document is carried out in the same way under every configuration. -/
theorem settle_withConfig (manager : Manager κ) (config : Settings.Config) (document : Document)
    (verdict : Verdict) :
    (manager.withConfig config).settle document verdict =
      (manager.settle document verdict).withConfig config := by
  cases verdict with
  | ignored | served | granted => rfl
  | refused error =>
      exact complain_withConfig { manager.asked document with factory := manager.factory.spend error }
        config error

private theorem verdict_withConfig {manager : Manager κ} {config : Settings.Config}
    (alike : manager.config.AlikeFor documents config) {document : Document}
    (known : document ∈ documents) :
    (manager.withConfig config).verdict document = manager.verdict document := by
  have prospect : (manager.withConfig config).prospect document = manager.prospect document := by
    apply prospect_congr
    · rfl
    · exact congrArg (Settings.Snapshot.ofLayer _) (alike.effective_eq known).symm
    · rfl
  unfold verdict
  rw [prospect]
  rfl

private theorem perform_withConfig {manager : Manager κ} {config : Settings.Config}
    (alike : manager.config.AlikeFor documents config) {action : Action}
    (unset : ∀ config, action.configAfter config = config)
    (known : ∀ document ∈ action.documents, document ∈ documents) :
    (manager.withConfig config).perform action = (manager.perform action).withConfig config := by
  cases action with
  | present document delivery =>
      change (manager.withConfig config).present document delivery =
        (manager.present document delivery).withConfig config
      rw [present_eq_settle, present_eq_settle, settle_withConfig,
        verdict_withConfig alike (known document List.mem_cons_self)]
      rfl
  | discard key =>
      change ((manager.withConfig config).dispose key).1 = (manager.dispose key).1.withConfig config
      rw [dispose_eq, dispose_eq]
      rfl
  | configure next =>
      have same : next = config := unset config
      rw [same]
      rfl
  | _ => rfl

theorem Reworded.perform {left right : Manager κ} (reworded : Reworded documents left right)
    {first second : Action} (alike : Action.AlikeFor documents first second) :
    Reworded documents (left.perform first) (right.perform second) := by
  obtain ⟨config, worded⟩ := reworded
  cases alike with
  | configure alike => exact .intro _ alike
  | same _ unset known =>
      rw [perform_withConfig worded unset known]
      constructor
      rw [(left.perform_frame first).1, unset]
      exact worded

/-- Blocks of a configuration make no difference to a run if they concern none of the documents that are
passed to the manager or are visible, whatever their values are and wherever they stand. At the end only the
configurations may differ, and the order of the disposals that come together, if the runs drain in different
orders. -/
theorem run_reworded (start : Manager κ) (order : DrainOrder) (first second : List Operation)
    (alike : List.Forall₂
      (Operation.AlikeFor (start.visible ++ first.flatMap Operation.documents)) first second) :
    let other := { start with drain := order }
    other.run second =
        { start.run first with
          config := (other.run second).config
          drain := order
          log := (other.run second).log } ∧
      SameLog start other first second := by
  intro other
  have paired : List.Forall₂ (Action.AlikeFor (start.visible ++ first.flatMap Operation.documents))
      (actionsOf start.visible first) (actionsOf start.visible second) := by
    apply actionsOf_alikeFor alike
    · exact fun document shown => List.mem_append_left _ shown
    · intro operation member document passed
      exact List.mem_append_right _ (List.mem_flatMap.mpr ⟨operation, member, passed⟩)
  have opened : Reworded (start.visible ++ first.flatMap Operation.documents) start start :=
    .intro start.config (.refl _ start.config)
  have kept {left right : Manager κ} {action other : Action}
      (pair : action.AlikeFor (start.visible ++ first.flatMap Operation.documents) other)
      (reworded : Reworded (start.visible ++ first.flatMap Operation.documents) left right) :
      Reworded (start.visible ++ first.flatMap Operation.documents) (left.perform action)
        (right.perform other) :=
    reworded.perform pair
  have heard := episodes_related kept Reworded.log paired opened
  have related := (performAll_related kept paired opened).eq_withConfig
  rw [← run_eq_performAll, ← run_eq_performAll] at related
  constructor
  · have drained : other.run second =
        { start.run second with drain := order, log := (other.run second).log } :=
      start.run_redrained order second
    have configured : (other.run second).config = (start.run second).config := by
      rw [drained]
    rw [related] at drained
    rw [configured]
    exact drained
  · exact sameLog_redrained start start order rfl rfl heard

/-- Only the second scope and the first language block apply to the document that is opened. -/
def cluttered : Settings.Config where
  scopes :=
    [⟨⟨"a", [.literal 'a']⟩, { timeout := some 20000 }⟩, ⟨⟨"*", [.anyBytes]⟩, { timeout := some 70 }⟩]
  languages :=
    [⟨"rust", { colorMode := some "consecutive" }⟩, ⟨"go", { colorMode := some "unheard of" }⟩]

def cleared : Settings.Config where
  scopes :=
    [⟨⟨"*", [.anyBytes]⟩, { timeout := some 70 }⟩,
      ⟨⟨"b?", [.literal 'b', .anyByte]⟩, { colors := some [] }⟩]
  languages := [⟨"go", {}⟩, ⟨"rust", { colorMode := some "consecutive" }⟩]

/-- Two documents are opened under a configuration. Both lose their engines, and one gets another. -/
def configured (config : Settings.Config) : List Operation :=
  [.setVisible [untitled "rust"], .withConfig config, .openDocument (untitled "rust"),
    .openDocument (second (untitled "rust")), .setConfig config]

private theorem alikeFor_cleared :
    cluttered.AlikeFor [untitled "rust", untitled "rust", second (untitled "rust")] cleared := by
  constructor
  · rfl
  · rfl
  · rfl

theorem run_reworded_cleared :
    let documents := bilingual.visible ++ (configured cluttered).flatMap Operation.documents
    let other := { bilingual with drain := newestFirst }
    List.Forall₂ (Operation.AlikeFor documents) (configured cluttered) (configured cleared) ∧
      (bilingual.run (configured cluttered)).log.length = 8 ∧
      (bilingual.run (configured cluttered)).log ≠ (other.run (configured cleared)).log ∧
      other.run (configured cleared) =
        { bilingual.run (configured cluttered) with
          config := (other.run (configured cleared)).config
          drain := newestFirst
          log := (other.run (configured cleared)).log } ∧
      SameLog bilingual other (configured cluttered) (configured cleared) := by
  intro documents other
  have alike : List.Forall₂ (Operation.AlikeFor documents) (configured cluttered) (configured cleared) :=
    .cons (.same _) (.cons (.withConfig alikeFor_cleared) (.cons (.same _)
      (.cons (.same _) (.cons (.setConfig alikeFor_cleared) .nil))))
  refine ⟨alike, by decide +kernel, by decide +kernel, ?_⟩
  exact run_reworded bilingual newestFirst (configured cluttered) (configured cleared) alike

end Decoration.Manager

end BracketDecoration
