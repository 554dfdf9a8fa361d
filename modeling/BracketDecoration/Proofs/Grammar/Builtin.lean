import BracketDecoration.Proofs.Grammar.Sharing

namespace BracketDecoration.Grammar

theorem LoaderTable.find?_builtin {κ : Type} [Tokenizer κ] (id : String) :
    (LoaderTable.ofList (Loader.builtin : List (String × Loader κ))).find? id =
      if id = "vue" then some .vue else none := by
  change List.lookup id [("vue", Loader.vue)] = _
  by_cases wanted : id = "vue"
  · rw [if_pos wanted, wanted]
    rfl
  · have unlike : (id == "vue") = false := beq_false_of_ne wanted
    rw [if_neg wanted, List.lookup_cons, unlike]
    rfl

namespace Gate

/-- Whoever asks, a gate over a catalog gives these answers, and only the builtin loader stands behind it. -/
structure Answers (answers : String → Except Error Bool) (gate : Gate Catalog)
    (catalog : Catalog) : Prop where
  builtin : gate.loaders = .ofList Loader.builtin
  given : ∀ id, (gate.ensure catalog id).answer = answers id

variable {gate : Gate Catalog} {catalog : Catalog}

theorem ensure_of_ne_vue (builtin : gate.loaders = .ofList Loader.builtin) {id : String}
    (other : id ≠ "vue") : gate.ensure catalog id = ⟨gate, catalog, .ok (gate.isAvailable id)⟩ := by
  have meeting := gate.meeting_ensure catalog id
  cases available : gate.isAvailable id with
  | true => exact (meeting.of_available available).2
  | false =>
      have missing : gate.loaders.find? id = none := by
        rw [builtin, LoaderTable.find?_builtin, if_neg other]
      exact (meeting.of_missing available missing).2

/-- The demand leaves the gate and the catalog as they were, unless it is met. -/
theorem ensure_unmet (builtin : gate.loaders = .ofList Loader.builtin) (id : String)
    (unmet : (gate.ensure catalog id).answer ≠ .ok true) :
    (gate.ensure catalog id).gate = gate ∧ (gate.ensure catalog id).core = catalog := by
  have meeting := gate.meeting_ensure catalog id
  generalize gate.ensure catalog id = demand at meeting unmet ⊢
  generalize gate.loaderRun? catalog id = run at meeting
  cases meeting with
  | unsupported unavailable missing => exact ⟨rfl, rfl⟩
  | failed unavailable loader found absent error broken =>
      refine ⟨rfl, ?_⟩
      rw [builtin, LoaderTable.find?_builtin] at found
      obtain ⟨_vue, same⟩ := Option.ite_none_right_eq_some.mp found
      cases same
      -- A catalog that turns a definition down is the catalog that it was.
      change (catalog.register Loader.vueDefinition).2 = _ at broken
      change (catalog.register Loader.vueDefinition).1 = catalog
      rcases catalog.register_cases Loader.vueDefinition with ⟨_, _, refused⟩ | ⟨_, entered⟩
      · rw [refused]
      · rw [entered] at broken
        cases broken
  | held | adopted | loaded => exact absurd rfl unmet

theorem answer_ensure_ensure (builtin : gate.loaders = .ofList Loader.builtin) (first second : String) :
    ((gate.ensure catalog first).gate.ensure (gate.ensure catalog first).core second).answer =
      (gate.ensure catalog second).answer := by
  by_cases loading : first = "vue"
  · subst loading
    have meeting := gate.meeting_ensure catalog "vue"
    have kept : (gate.ensure catalog "vue").gate.loaders = .ofList Loader.builtin :=
      meeting.loaders_eq.trans builtin
    by_cases again : second = "vue"
    · subst again
      by_cases met : (gate.ensure catalog "vue").answer = .ok true
      · have available := (meeting.isAvailable_iff "vue").mpr (Or.inr ⟨rfl, met⟩)
        rw [((meeting_ensure _ _ "vue").of_available available).2, met]
      · obtain ⟨sameGate, sameCore⟩ := ensure_unmet builtin "vue" met
        rw [sameGate, sameCore]
    · have unmoved : (gate.ensure catalog "vue").gate.isAvailable second = gate.isAvailable second := by
        rw [Bool.eq_iff_iff, meeting.isAvailable_iff, or_iff_left fun both => again both.1.symm]
      rw [ensure_of_ne_vue kept again, ensure_of_ne_vue builtin again, unmoved]
  · rw [ensure_of_ne_vue builtin loading]

theorem Answers.after {answers : String → Except Error Bool} (gives : Answers answers gate catalog)
    (id : String) : Answers answers (gate.ensure catalog id).gate (gate.ensure catalog id).core where
  builtin := (gate.meeting_ensure catalog id).loaders_eq.trans gives.builtin
  given := fun other => (answer_ensure_ensure gives.builtin id other).trans (gives.given other)

end Gate

end BracketDecoration.Grammar
