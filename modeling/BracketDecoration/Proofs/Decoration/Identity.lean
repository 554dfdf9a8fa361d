import BracketDecoration.Proofs.Decoration.Delivery

/-!
What is one document. The registry goes by the written form of an address, where the scopes of the settings go by
the path of the file. Spellings of one path that are written differently have engines of their own.
-/

namespace BracketDecoration.Decoration.Manager

open Editor (Document DocumentKey)

variable {κ : Type} [Grammar.Tokenizer κ] {manager next : Manager κ} {document : Document}

private theorem Resolution.enlists {engine : Engine}
    (resolution : Resolution manager document next (some engine)) :
    next.registry.find? document.key = some engine := by
  cases resolution with
  | tracked _ valid found => exact found
  | made settings valid untracked answered accepted unqueued =>
      change (manager.registry.insert document.key _).find? document.key = _
      rw [Registry.find?_insert, untracked, if_pos rfl]
      rfl

private theorem Resolution.keeps {answer : Option Engine}
    (resolution : Resolution manager document next answer) {key : DocumentKey} {engine : Engine}
    (found : manager.registry.find? key = some engine) :
    next.registry.find? key = some engine := by
  cases resolution with
  | invalid | tracked | unsupported => exact found
  | refused error factory valid untracked refusal =>
      rw [complain_eq]
      exact found
  | made settings valid untracked answered accepted unqueued =>
      change (manager.registry.insert document.key _).find? key = _
      rw [Registry.find?_insert, found]
      rfl

private theorem run_key_eq_iff {start : Manager κ} (untracked : start.registry = .empty)
    (operations : List Operation) {left right : DocumentKey} {first second : Engine}
    (found : (start.run operations).registry.find? left = some first)
    (other : (start.run operations).registry.find? right = some second) :
    first.id = second.id ↔ left = right := by
  constructor
  · intro same
    rw [run_eq_performAll] at found other
    have ledger := ledger_of_untracked untracked (actionsOf start.visible operations)
    exact congrArg Entry.key (entry_eq ledger other _ (Registry.mem_of_find? found) same)
  · intro same
    rw [← same, found] at other
    exact congrArg Engine.id (Option.some.inj other)

/-- Whenever two documents have engines, they have the same one exactly if their addresses are written alike,
whether or not these lead to one file. Where both can be resolved they do have engines afterwards. -/
theorem run_same_engine_iff (start : Manager κ) (untracked : start.registry = .empty)
    (operations : List Operation) (left right : Document) :
    (∀ first second, (start.run operations).registry.find? left.key = some first →
      (start.run operations).registry.find? right.key = some second →
      (first.id = second.id ↔ left.uri.text = right.uri.text)) ∧
    ∀ first second, ((start.run operations).resolve left).2 = some first →
      (((start.run operations).resolve left).1.resolve right).2 = some second →
      let reached := start.run (operations ++ [.resolve left, .resolve right])
      reached.registry.find? left.key = some first ∧
        reached.registry.find? right.key = some second ∧
        (first.id = second.id ↔ left.uri.text = right.uri.text) := by
  have written : left.key = right.key ↔ left.uri.text = right.uri.text := by
    rw [Document.key, Document.key, DocumentKey.ofUri, DocumentKey.ofUri, DocumentKey.mk.injEq]
  constructor
  · intro first second found other
    exact (run_key_eq_iff untracked operations found other).trans written
  · intro first second answered answeredNext reached
    have resolved : reached = (((start.run operations).resolve left).1.resolve right).1 :=
      List.foldl_append
    have earlier := resolution_resolve (start.run operations) left
    have later := resolution_resolve ((start.run operations).resolve left).1 right
    rw [answered] at earlier
    rw [answeredNext] at later
    have found : reached.registry.find? left.key = some first := by
      rw [resolved]
      exact later.keeps earlier.enlists
    have other : reached.registry.find? right.key = some second := by
      rw [resolved]
      exact later.enlists
    exact ⟨found, other, (run_key_eq_iff untracked _ found other).trans written⟩

def localFile (path : String) : Uri := ⟨"file", some .empty, path, none, none⟩

def rustSource (uri : Uri) : Document := .make uri "rust" "fn" none

/-- Dots do not show in the written form, and an escape does. -/
theorem run_same_engine_iff_escaped :
    let plain := rustSource (localFile "/tmp/main.rs")
    let escaped := rustSource (localFile "/tmp/m%61in.rs")
    let opened := bilingual.run [.openDocument plain]
    Uri.parse "FILE:///tmp/./src/../main.rs" = .ok plain.uri ∧
      Uri.parse "file:///tmp/m%61in.rs" = .ok escaped.uri ∧
      bilingual.registry = .empty ∧
      ∃ first second, (opened.resolve plain).2 = some first ∧
        ((opened.resolve plain).1.resolve escaped).2 = some second ∧ first.id = 1 ∧ second.id = 2 ∧
        (first.id = second.id ↔ plain.uri.text = escaped.uri.text) := by
  intro plain escaped opened
  refine ⟨by decide +kernel, by decide +kernel, rfl, ?_⟩
  have oldest : (opened.resolve plain).2.map Engine.id = some 1 := by decide +kernel
  have newest : ((opened.resolve plain).1.resolve escaped).2.map Engine.id = some 2 := by
    decide +kernel
  obtain ⟨first, answered, numbered⟩ := Option.map_eq_some_iff.mp oldest
  obtain ⟨second, answeredNext, numberedNext⟩ := Option.map_eq_some_iff.mp newest
  have shared := (run_same_engine_iff bilingual rfl [.openDocument plain] plain escaped).2
    first second answered answeredNext
  exact ⟨first, second, answered, answeredNext, numbered, numberedNext, shared.2.2⟩

def spellings : List (String × Uri) :=
  [("file:///tmp/main.rs", localFile "/tmp/main.rs"),
    ("file:///tmp/m%61in.rs", localFile "/tmp/m%61in.rs"),
    ("file:///tmp/%6Dain.rs", localFile "/tmp/%6Dain.rs"),
    ("file:///tmp/%6dain.rs", localFile "/tmp/%6dain.rs")]

/-- The path is that of one file, and each spelling gets an engine of its own. -/
theorem run_engine_per_spelling :
    (∀ spelling ∈ spellings, Uri.parse spelling.1 = .ok spelling.2 ∧ spelling.2.scheme = "file" ∧
      spelling.2.documentPath = Text.bytes "/tmp/main.rs".toList) ∧
      (spellings.map fun spelling => DocumentKey.ofUri spelling.2).Nodup ∧
      (bilingual.run (spellings.map fun spelling =>
        .openDocument (rustSource spelling.2))).registry.entries.map Entry.key =
          spellings.map fun spelling => DocumentKey.ofUri spelling.2 := by
  refine ⟨?_, ?_, ?_⟩
  · decide +kernel
  · decide +kernel
  · decide +kernel

end BracketDecoration.Decoration.Manager
