import BracketDecoration.Proofs.Grammar.Availability

namespace BracketDecoration.Grammar.Gate

variable {κ : Type} [Tokenizer κ] {gate : Gate κ} {core : κ} {id : String}

private theorem loaderRun?_of_absent (unavailable : gate.isAvailable id = false) {loader : Loader κ}
    (found : gate.loaders.find? id = some loader) (absent : Tokenizer.hasGrammar core id = false) :
    gate.loaderRun? core id = some loader := by
  simp only [loaderRun?, access, unavailable, found, absent, Bool.false_eq_true, if_false]

private theorem access_of_present (unavailable : gate.isAvailable id = false) {loader : Loader κ}
    (found : gate.loaders.find? id = some loader) (present : Tokenizer.hasGrammar core id = true) :
    gate.access core id = .adopted := by
  simp only [access, unavailable, found, present, Bool.false_eq_true, if_false, if_true]

/-- Only a loader fails, and it is one that was run since neither the gate nor the tokenizer had the grammar. -/
theorem Meeting.of_error {run : Option (Loader κ)} {demand : Demand κ} {error : Error}
    (meeting : Meeting gate core id run demand) (failed : demand.answer = .error error) :
    gate.isAvailable id = false ∧ Tokenizer.hasGrammar core id = false ∧ demand.gate = gate ∧
      ∃ loader, gate.loaders.find? id = some loader ∧ loader core = (demand.core, .error error) := by
  cases meeting with
  | failed unavailable loader found absent cause broken =>
      cases failed
      exact ⟨unavailable, absent, rfl, loader, found, Prod.ext rfl broken⟩
  | held | unsupported | adopted | loaded => cases failed

/-- A demand fails with the error of its loader and leaves the gate alone. The next one runs the loader again
exactly if the tokenizer still lacks the grammar; if the loader has registered it before it failed, the next
demand is met with what is there, and the loader is not run. -/
theorem ensure_after_failure {error : Error} (failed : (gate.ensure core id).answer = .error error) :
    let left := gate.ensure core id
    left.gate = gate ∧ Tokenizer.hasGrammar core id = false ∧
      ∃ loader, gate.loaders.find? id = some loader ∧ loader core = (left.core, .error error) ∧
        (left.gate.loaderRun? left.core id = some loader ↔
          Tokenizer.hasGrammar left.core id = false) ∧
        (Tokenizer.hasGrammar left.core id = true →
          left.gate.loaderRun? left.core id = none ∧
            left.gate.ensure left.core id = ⟨gate.grant id, left.core, .ok true⟩) := by
  intro left
  obtain ⟨unavailable, absent, unchanged, loader, found, broken⟩ :=
    (gate.meeting_ensure core id).of_error failed
  have adopted (present : Tokenizer.hasGrammar left.core id = true) :
      gate.loaderRun? left.core id = none ∧
        gate.ensure left.core id = ⟨gate.grant id, left.core, .ok true⟩ := by
    have given := access_of_present unavailable found present
    exact ⟨by rw [loaderRun?, given], by rw [ensure, given]⟩
  change left.gate = gate at unchanged
  rw [unchanged]
  refine ⟨rfl, absent, loader, found, broken, ⟨fun again => ?_, ?_⟩, adopted⟩
  · rw [← Bool.not_eq_true]
    intro present
    rw [(adopted present).1] at again
    cases again
  · exact loaderRun?_of_absent unavailable found

/-- A gate over a catalog with one grammar. Its loader fails behind a definition that the catalog takes. -/
def brittle (definition : Definition) : Gate Catalog :=
  .ofLoaders ⟨["markup"]⟩
    [("vue", .scripted [definition] (.error (.loadFailed "vue" "script block unreadable")))]

/-- What was registered on the way to a failure may be another grammar. -/
theorem ensure_after_failure_retried :
    let gate := brittle ⟨"pug", "markup", []⟩
    let left := gate.ensure (⟨["markup"]⟩ : Catalog) "vue"
    left.answer = .error (.loadFailed "vue" "script block unreadable") ∧
      left.core = ⟨["markup", "pug"]⟩ ∧
      ∃ loader, gate.loaders.find? "vue" = some loader ∧
        left.gate.loaderRun? left.core "vue" = some loader := by
  intro gate left
  have failed : left.answer = .error (.loadFailed "vue" "script block unreadable") := by rfl
  obtain ⟨_gate, _absent, loader, found, _broken, again, _adopted⟩ := ensure_after_failure failed
  exact ⟨failed, rfl, loader, found, again.mpr rfl⟩

/-- The loader registers its own grammar and fails; the next demand takes the grammar for loaded. -/
theorem failed_load_adopted :
    let gate := brittle ⟨"vue", "markup", []⟩
    let left := gate.ensure (⟨["markup"]⟩ : Catalog) "vue"
    left.answer = .error (.loadFailed "vue" "script block unreadable") ∧
      left.gate.isAvailable "vue" = false ∧
      left.gate.loaderRun? left.core "vue" = none ∧
      (left.gate.ensure left.core "vue").answer = .ok true := by
  decide

end BracketDecoration.Grammar.Gate
