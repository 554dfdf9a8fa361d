import BracketDecoration.Proofs.Decoration.Origin
import BracketDecoration.Proofs.Grammar.Availability
import BracketDecoration.Proofs.Settings.Validation

namespace BracketDecoration

private theorem Grammar.idForLanguage_not_alias (language : String) :
    idForLanguage language ∉ languageAliases.map Prod.fst := by
  have unaliased : ∀ entry ∈ languageAliases, entry.2 ∉ languageAliases.map Prod.fst := by decide
  unfold idForLanguage
  cases found : languageAliases.lookup language with
  | none =>
      intro aliased
      obtain ⟨entry, member, rfl⟩ := List.mem_map.mp aliased
      exact bne_iff_ne.mp (List.lookup_eq_none_iff.mp found entry member) rfl
  | some grammar =>
      obtain ⟨before, after, cut, _first⟩ := List.lookup_eq_some_iff.mp found
      refine unaliased (language, grammar) ?_
      rw [cut]
      exact List.mem_append_right before List.mem_cons_self

namespace Editor

def DocumentKey.scheme (key : DocumentKey) : String :=
  String.ofList (key.text.toList.takeWhile (· ≠ ':'))

private theorem DocumentKey.scheme_ofUri {uri : Uri} (plain : ':' ∉ uri.scheme.toList) :
    (DocumentKey.ofUri uri).scheme = uri.scheme := by
  have letters : ∀ letter ∈ uri.scheme.toList, decide (letter ≠ ':') = true := by
    intro letter member
    refine decide_eq_true ?_
    rintro rfl
    exact plain member
  obtain ⟨rest, written⟩ : ∃ rest, uri.text.toList = uri.scheme.toList ++ ':' :: rest := by
    refine ⟨(uri.beforePath ++ uri.path ++ Uri.marked "?" uri.query ++
      Uri.marked "#" uri.fragment).toList, ?_⟩
    simp only [Uri.text, String.toList_append, List.append_assoc]
    rfl
  unfold scheme ofUri
  rw [written, List.takeWhile_append_of_pos letters, List.takeWhile_cons_of_neg (by decide),
    List.append_nil, String.ofList_toList]

theorem Document.scheme_of_isValid {document : Document} (valid : document.isValid = true) :
    document.key.scheme ∈ supportedSchemes := by
  have plain : ∀ scheme ∈ supportedSchemes, ':' ∉ scheme.toList := by decide
  have supported : document.uri.scheme ∈ supportedSchemes :=
    List.contains_iff_mem.mp (Bool.and_eq_true_iff.mp valid).2
  unfold key
  rw [DocumentKey.scheme_ofUri (plain _ supported)]
  exact supported

end Editor

namespace Decoration

open Editor (Document)

variable {κ : Type}

/-- The document of the entry may be decorated, the gate has its grammar, and its settings are in order. -/
structure Entry.Legal (gate : Grammar.Gate κ) (entry : Entry) : Prop where
  scheme : entry.key.scheme ∈ Editor.supportedSchemes
  available : gate.isAvailable entry.engine.settings.grammar = true
  unaliased : entry.engine.settings.grammar ∉ Grammar.languageAliases.map Prod.fst
  settings : entry.engine.settings.WellFormed

def Registry.Legal (gate : Grammar.Gate κ) (registry : Registry) : Prop :=
  ∀ entry ∈ registry.entries, entry.Legal gate

theorem Registry.Legal.mono {gate larger : Grammar.Gate κ} {registry : Registry}
    (legal : registry.Legal gate)
    (grown : ∀ id, gate.isAvailable id = true → larger.isAvailable id = true) :
    registry.Legal larger := by
  intro entry member
  obtain ⟨scheme, available, unaliased, settings⟩ := legal entry member
  exact ⟨scheme, grown _ available, unaliased, settings⟩

namespace Manager

private theorem legal_dispose {manager : Manager κ} (legal : manager.registry.Legal manager.gate)
    (key : Editor.DocumentKey) :
    (manager.dispose key).1.registry.Legal (manager.dispose key).1.gate := by
  rw [dispose_eq]
  exact fun entry member => legal entry (List.mem_filter.mp member).1

theorem settings_of_settingsFor {manager : Manager κ} {document : Document}
    {settings : Settings.Snapshot} (accepted : manager.settingsFor document = .ok settings) :
    settings.WellFormed ∧ settings.grammar = Grammar.idForLanguage document.language := by
  obtain ⟨wellFormed, colorMode, rfl⟩ := Settings.Snapshot.eq_fill_of_ofLayer accepted
  exact ⟨wellFormed, rfl⟩

variable [Grammar.Tokenizer κ]

theorem asked_isAvailable_iff (manager : Manager κ) (document : Document) (id : String) :
    (manager.asked document).gate.isAvailable id = true ↔
      manager.gate.isAvailable id = true ∨
        (Grammar.idForLanguage document.language = id ∧
          (manager.demand document).answer = .ok true) :=
  (manager.gate.meeting_ensure manager.core _).isAvailable_iff id

private theorem Resolution.legal {manager next : Manager κ} {document : Document} {engine : Option Engine}
    (resolution : Resolution manager document next engine)
    (legal : manager.registry.Legal manager.gate) : next.registry.Legal next.gate := by
  have grown := legal.mono fun id available =>
    (manager.asked_isAvailable_iff document id).mpr (Or.inl available)
  cases resolution with
  | invalid undecorated => exact legal
  | tracked engine valid found => exact legal
  | unsupported valid untracked answered => exact grown
  | refused error factory valid untracked refusal =>
      rw [complain_eq]
      exact grown
  | made settings valid untracked answered accepted unqueued =>
      obtain ⟨wellFormed, named⟩ := settings_of_settingsFor accepted
      intro entry member
      rcases List.mem_append.mp member with older | newest
      · exact grown entry older
      · rw [List.mem_singleton.mp newest]
        constructor
        · exact Document.scheme_of_isValid valid
        · refine (manager.asked_isAvailable_iff document _).mpr (Or.inr ⟨named.symm, answered⟩)
        · change settings.grammar ∉ _
          rw [named]
          exact Grammar.idForLanguage_not_alias document.language
        · exact wellFormed

theorem legal_perform {manager : Manager κ} (legal : manager.registry.Legal manager.gate)
    (action : Action) : (manager.perform action).registry.Legal (manager.perform action).gate := by
  cases action with
  | present document delivery =>
      change (manager.present document delivery).registry.Legal
        (manager.present document delivery).gate
      rw [present_eq]
      exact (resolution_resolve manager document).legal legal
  | discard key => exact legal_dispose legal key
  | discardAll => exact fun entry member => nomatch member
  | _ => exact legal

theorem legal_performAll {manager : Manager κ} (legal : manager.registry.Legal manager.gate)
    (actions : List Action) :
    (manager.performAll actions).registry.Legal (manager.performAll actions).gate := by
  induction actions generalizing manager with
  | nil => exact legal
  | cons action rest ih => exact ih (legal_perform legal action)

/-- After any run from an empty registry all entries are legal, for the gate as it is then. -/
theorem run_legal (start : Manager κ) (untracked : start.registry = .empty)
    (operations : List Operation) :
    ∀ entry ∈ (start.run operations).registry.entries,
      entry.Legal (start.run operations).gate := by
  rw [run_eq_performAll]
  refine legal_performAll ?_ _
  rw [untracked]
  exact fun entry member => nomatch member

def componentManager : Manager Grammar.Catalog :=
  let core : Grammar.Catalog := ⟨["css", "javascript", "markup"]⟩
  initial core (.ofLoaders core Grammar.Loader.builtin) (.make .byHand none)

/-- Once a component has its engine the configuration becomes unusable, and the document loses its lines. -/
def emptied : List Operation :=
  [.openDocument (untitled "vue"), .withConfig { global := { timeout := some 20000 } },
    .updateDocument { untitled "jsonc" with lineCount := 0 }]

theorem run_legal_emptied :
    componentManager.registry = .empty ∧
      ∃ entry ∈ (componentManager.run emptied).registry.entries,
        entry.engine.settings.grammar = "vue" ∧
          entry.Legal (componentManager.run emptied).gate := by
  have tracked : ∃ entry ∈ (componentManager.run emptied).registry.entries,
      entry.engine.settings.grammar = "vue" := by decide +kernel
  obtain ⟨entry, member, named⟩ := tracked
  exact ⟨rfl, entry, member, named, run_legal componentManager rfl emptied entry member⟩

end Manager

end Decoration

end BracketDecoration
