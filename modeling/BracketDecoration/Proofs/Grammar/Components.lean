import BracketDecoration.Proofs.Grammar.Builtin
import BracketDecoration.Proofs.Grammar.Registration

namespace BracketDecoration.Grammar

def componentParts : List String := ["markup", "javascript", "css"]

/-- The error for the first part that is not among the known grammars. -/
inductive ComponentLack (known : List String) : Error → Prop where
  | markup (absent : "markup" ∉ known) : ComponentLack known (.missingBase "vue" "markup")
  | javascript (based : "markup" ∈ known) (absent : "javascript" ∉ known) :
      ComponentLack known (.missingEmbedded "vue" "javascript")
  | css (based : "markup" ∈ known) (scripted : "javascript" ∈ known) (absent : "css" ∉ known) :
      ComponentLack known (.missingEmbedded "vue" "css")

private theorem ComponentLack.not_all {known : List String} {error : Error} (lack : ComponentLack known error) :
    ¬∀ id ∈ componentParts, id ∈ known := by
  intro all
  cases lack with
  | markup absent => exact absent (all "markup" (by decide))
  | javascript based absent => exact absent (all "javascript" (by decide))
  | css based scripted absent => exact absent (all "css" (by decide))

/-- The grammar of components is turned down for what it lacks, unless its id is taken. -/
theorem Catalog.Fault.lack {catalog : Catalog} {error : Error}
    (fault : catalog.Fault Loader.vueDefinition error) (fresh : "vue" ∉ catalog.ids) :
    ComponentLack catalog.ids error := by
  cases fault with
  | taken present => exact absurd present fresh
  | baseless _fresh missing => exact .markup missing
  | unembedded _fresh based before missing after cut known absent =>
      -- The cut is at one of the two embedded grammars.
      change ["javascript", "css"] = before ++ missing :: after at cut
      cases before with
      | nil =>
          obtain ⟨rfl, _rest⟩ := List.cons.inj cut
          exact .javascript based absent
      | cons first others =>
          obtain ⟨rfl, rest⟩ := List.cons.inj cut
          change ["css"] = others ++ missing :: after at rest
          cases others with
          | nil =>
              obtain ⟨rfl, _end⟩ := List.cons.inj rest
              exact .css based (known "javascript" List.mem_cons_self) absent
          | cons second others =>
              obtain ⟨_second, nothing⟩ := List.cons.inj rest
              exact absurd nothing History.nil_ne_append_cons

private theorem Loader.builtin_registering {κ : Type} [Tokenizer κ] :
    LoaderTable.Registering (Loader.builtin : List (String × Loader κ)) := by
  intro entry member
  rw [List.mem_singleton.mp member]
  exact vue_registers

namespace Gate

variable {gate : Gate Catalog} {catalog : Catalog}

theorem find?_vue (builtin : gate.loaders = .ofList Loader.builtin) :
    gate.loaders.find? "vue" = some Loader.vue := by
  rw [builtin, LoaderTable.find?_builtin, if_pos rfl]

theorem ensure_vue_unmet (builtin : gate.loaders = .ofList Loader.builtin)
    (unmet : (gate.ensure catalog "vue").answer ≠ .ok true) :
    ∃ error, ComponentLack catalog.ids error ∧
      gate.ensure catalog "vue" = ⟨gate, catalog, .error error⟩ := by
  obtain ⟨sameGate, sameCore⟩ := ensure_unmet builtin "vue" unmet
  have found := find?_vue builtin
  have meeting := gate.meeting_ensure catalog "vue"
  generalize gate.ensure catalog "vue" = demand at meeting unmet sameGate sameCore ⊢
  generalize gate.loaderRun? catalog "vue" = run at meeting
  cases meeting with
  | held | adopted | loaded => exact absurd rfl unmet
  | unsupported _unavailable missing =>
      rw [missing] at found
      cases found
  | failed _unavailable loader same absent error broken =>
      cases found.symm.trans same
      have fresh : "vue" ∉ catalog.ids := by
        rw [← catalog.contains_iff]
        exact Bool.eq_false_iff.mp absent
      have fault := (catalog.register_eq_error_iff Loader.vueDefinition error).mp broken
      refine ⟨error, fault.lack fresh, ?_⟩
      rw [Demand.mk.injEq]
      exact ⟨rfl, sameCore, rfl⟩

theorem ensure_vue_met_iff (builtin : gate.loaders = .ofList Loader.builtin) :
    (gate.ensure catalog "vue").answer = .ok true ↔
      gate.isAvailable "vue" = true ∨ "vue" ∈ catalog.ids ∨ ∀ id ∈ componentParts, id ∈ catalog.ids := by
  have found := find?_vue builtin
  have meeting := gate.meeting_ensure catalog "vue"
  constructor
  · intro met
    generalize gate.ensure catalog "vue" = demand at meeting met
    generalize gate.loaderRun? catalog "vue" = run at meeting
    cases meeting with
    | held available => exact Or.inl available
    | adopted _unavailable loader _found present =>
        exact Or.inr (Or.inl ((catalog.contains_iff "vue").mp present))
    | loaded _unavailable loader same _absent succeeded =>
        cases found.symm.trans same
        have fits := (catalog.register_eq_ok_iff Loader.vueDefinition).mp succeeded
        exact Or.inr (Or.inr fits.supported)
    | unsupported | failed => cases met
  · rintro (available | present | all)
    · rw [(meeting.of_available available).2]
    · have loadable : gate.isLoadable "vue" = true := by rw [isLoadable, found, Option.isSome_some]
      exact (meeting.of_present loadable ((catalog.contains_iff "vue").mpr present)).2
    · by_contra unmet
      obtain ⟨_error, lack, _unchanged⟩ := ensure_vue_unmet builtin unmet
      exact lack.not_all all

end Gate

namespace Workshop

def Registered (start : Workshop Catalog) (operations : List (Operation Catalog)) (id : String) : Prop :=
  ∃ before definition after, operations = before ++ .register definition :: after ∧ definition.id = id ∧
    ((start.run before).register definition).2 = .ok ()

/-- What was registered stays, since no gate takes anything away. -/
theorem Registered.mem_core {start : Workshop Catalog} {operations : List (Operation Catalog)} {id : String}
    (registered : start.Registered operations id) (faithful : start.Faithful)
    (registering : ∀ operation ∈ operations, operation.Registering) :
    id ∈ (start.run operations).core.ids := by
  obtain ⟨before, definition, after, rfl, rfl, accepted⟩ := registered
  obtain ⟨early, late⟩ := List.forall_mem_append.mp registering
  obtain ⟨now, late⟩ := List.forall_mem_cons.mp late
  have reached : (start.run before).Faithful := faithful.run early
  have entered : definition.id ∈ ((start.run before).step (.register definition)).core.ids :=
    ((start.run before).core.mem_register definition definition.id).mpr (Or.inr ⟨rfl, accepted⟩)
  rw [run_append]
  exact mem_core_run (reached.step now) late entered

private theorem ensure_vue {workshop : Workshop Catalog} {index : Nat} {gate : Gate Catalog}
    (found : workshop.gates[index]? = some gate) (builtin : gate.loaders = .ofList Loader.builtin) :
    ((workshop.ensure index "vue").2 = .ok true ↔
      gate.isAvailable "vue" = true ∨ "vue" ∈ workshop.core.ids ∨
        ∀ id ∈ componentParts, id ∈ workshop.core.ids) ∧
    ((workshop.ensure index "vue").2 ≠ .ok true →
      ∃ error, ComponentLack workshop.core.ids error ∧
        workshop.ensure index "vue" = (workshop, .error error)) := by
  have answered : (workshop.ensure index "vue").2 = (gate.ensure workshop.core "vue").answer := by
    rw [ensure_eq found]
  rw [answered]
  refine ⟨Gate.ensure_vue_met_iff builtin, fun unmet => ?_⟩
  obtain ⟨error, lack, unchanged⟩ := Gate.ensure_vue_unmet builtin unmet
  exact ⟨error, lack, ensure_unchanged found unchanged⟩

/-- A gate with the builtin loader, at any time after it was opened, among registrations and demands at other gates
in any order. It gives the grammar of components if it has it already, or finds it in the catalog, or finds all
its parts there. Otherwise it says which part is missing, and nothing changes. So as soon as each missing part has
been registered it gives the grammar, whatever was tried before. -/
theorem run_components (catalog : Catalog) (before after : List (Operation Catalog))
    (registering : ∀ operation ∈ before ++ after, operation.Registering) :
    let index := ((initial catalog).run before).gates.length
    let final := (((initial catalog).run before).addGate Loader.builtin).run after
    ∃ gate, final.gates[index]? = some gate ∧
      ((final.ensure index "vue").2 = .ok true ↔
        gate.isAvailable "vue" = true ∨ "vue" ∈ Tokenizer.grammars final.core ∨
          ∀ id ∈ componentParts, id ∈ Tokenizer.grammars final.core) ∧
      ((final.ensure index "vue").2 ≠ .ok true →
        ∃ error, ComponentLack (Tokenizer.grammars final.core) error ∧
          final.ensure index "vue" = (final, .error error)) ∧
      ∀ later, (∀ operation ∈ later, operation.Registering) →
        (∀ id ∈ componentParts, id ∈ Tokenizer.grammars final.core ∨ final.Registered later id) →
          ((final.run later).ensure index "vue").2 = .ok true := by
  intro index final
  obtain ⟨early, late⟩ := List.forall_mem_append.mp registering
  have placed : (((initial catalog).run before).addGate Loader.builtin).gates[index]? =
      some (.ofLoaders ((initial catalog).run before).core Loader.builtin) := List.getElem?_concat_length
  obtain ⟨gate, found, builtin, _available⟩ := gate_run placed after
  obtain ⟨met, unmet⟩ := ensure_vue found builtin
  refine ⟨gate, found, met, unmet, fun later honest parts => ?_⟩
  have opened : (((initial catalog).run before).step (.addGate Loader.builtin)).Faithful :=
    ((faithful_initial catalog).run early).step Loader.builtin_registering
  have faithful : final.Faithful := opened.run late
  obtain ⟨next, foundNext, kept, _grown⟩ := gate_run found later
  refine (ensure_vue foundNext (kept.trans builtin)).1.mpr (Or.inr (Or.inr fun id part => ?_))
  rcases parts id part with present | registered
  · exact mem_core_run faithful honest present
  · exact registered.mem_core faithful honest

/-- A gate over a catalog with a single grammar, at which the grammar of components was demanded in vain. -/
def attempted : Workshop Catalog :=
  ((initial ⟨["css"]⟩).addGate Loader.builtin).run [.ensure 0 "vue"]

/-- The parts that are missing arrive on a base of their own, with another attempt in between. -/
def lateParts : List (Operation Catalog) :=
  [.register ⟨"javascript", "css", []⟩, .ensure 0 "vue", .register ⟨"markup", "css", []⟩]

theorem run_components_lateParts :
    (∀ operation ∈ [] ++ [Operation.ensure 0 "vue"], Operation.Registering operation) ∧
      (∀ operation ∈ lateParts, operation.Registering) ∧
      attempted.ensure 0 "vue" = (attempted, .error (.missingBase "vue" "markup")) ∧
      ((attempted.run lateParts).ensure 0 "vue").2 = .ok true := by
  have registering : ∀ operation ∈ [] ++ [Operation.ensure 0 "vue"], Operation.Registering operation :=
    List.forall_mem_singleton.mpr trivial
  have honest : ∀ operation ∈ lateParts, operation.Registering :=
    List.forall_mem_cons.mpr ⟨trivial, List.forall_mem_cons.mpr ⟨trivial,
      List.forall_mem_singleton.mpr trivial⟩⟩
  obtain ⟨_gate, _found, _met, _unmet, recovers⟩ :=
    run_components ⟨["css"]⟩ [] [.ensure 0 "vue"] registering
  refine ⟨registering, honest, rfl, recovers lateParts honest ?_⟩
  refine List.forall_mem_cons.mpr ⟨Or.inr ?_, List.forall_mem_cons.mpr ⟨Or.inr ?_,
    List.forall_mem_singleton.mpr (Or.inl ?_)⟩⟩
  · exact ⟨[.register ⟨"javascript", "css", []⟩, .ensure 0 "vue"], ⟨"markup", "css", []⟩, [], rfl, rfl, rfl⟩
  · exact ⟨[], ⟨"javascript", "css", []⟩, _, rfl, rfl, rfl⟩
  · exact List.mem_cons_self

end Workshop

end BracketDecoration.Grammar
