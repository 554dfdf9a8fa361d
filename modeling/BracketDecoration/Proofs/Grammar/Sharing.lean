import BracketDecoration.Proofs.Grammar.Availability

namespace BracketDecoration.Grammar

theorem mem_insertId (added : String) (ids : List String) (id : String) :
    id ∈ insertId added ids ↔ id ∈ ids ∨ id = added := by
  induction ids with
  | nil => simp only [insertId, List.mem_singleton, List.not_mem_nil, false_or]
  | cons first rest ih =>
      unfold insertId
      by_cases before : added < first
      · rw [if_pos before, List.mem_cons, or_comm]
      · rw [if_neg before]
        by_cases same : added = first
        · subst same
          rw [if_pos rfl, List.mem_cons, or_right_comm, or_self]
        · rw [if_neg same, List.mem_cons, List.mem_cons, ih, or_assoc]

namespace Catalog

theorem contains_iff (catalog : Catalog) (id : String) :
    catalog.contains id = true ↔ id ∈ catalog.ids :=
  List.contains_iff_mem

theorem register_cases (catalog : Catalog) (definition : Definition) :
    (∃ error, catalog.fault? definition = some error ∧
      catalog.register definition = (catalog, .error error)) ∨
    (catalog.fault? definition = none ∧
      catalog.register definition = (⟨insertId definition.id catalog.ids⟩, .ok ())) := by
  unfold register
  cases catalog.fault? definition with
  | none => exact Or.inr ⟨rfl, rfl⟩
  | some error => exact Or.inl ⟨error, rfl, rfl⟩

theorem mem_register (catalog : Catalog) (definition : Definition) (id : String) :
    id ∈ (catalog.register definition).1.ids ↔
      id ∈ catalog.ids ∨ (id = definition.id ∧ (catalog.register definition).2 = .ok ()) := by
  rcases catalog.register_cases definition with ⟨error, _fault, refused⟩ | ⟨_sound, entered⟩
  · rw [refused]
    exact (or_iff_left fun both => nomatch both.2).symm
  · rw [entered, mem_insertId, and_iff_left rfl]

/-- An id that is not taken is never turned down because it is taken. -/
theorem register_of_absent {catalog : Catalog} {definition : Definition}
    (absent : catalog.contains definition.id = false) (taken : String) :
    (catalog.register definition).2 ≠ .error (.alreadyRegistered taken) := by
  rcases catalog.register_cases definition with ⟨error, fault, refused⟩ | ⟨_sound, entered⟩
  · rw [refused]
    intro same
    cases same
    unfold fault? at fault
    rw [absent, if_neg Bool.false_ne_true] at fault
    by_cases missing : (!catalog.contains definition.base) = true
    · rw [if_pos missing] at fault
      cases fault
    · rw [if_neg missing] at fault
      obtain ⟨embedded, _present, impossible⟩ := Option.map_eq_some_iff.mp fault
      cases impossible
  · rw [entered]
    exact nofun

end Catalog

section Registering

variable {κ : Type}

theorem LoaderTable.mem_of_find? {table : LoaderTable κ} {id : String} {loader : Loader κ}
    (found : table.find? id = some loader) : (id, loader) ∈ table := by
  obtain ⟨before, after, cut, _fresh⟩ := List.lookup_eq_some_iff.mp found
  rw [cut]
  exact List.mem_append_right before List.mem_cons_self

variable [Tokenizer κ]

/-- The loader registers one grammar, under the given id. The rest of the definition may depend on what the
tokenizer has. -/
def Loader.Registers (loader : Loader κ) (id : String) : Prop :=
  ∀ core, ∃ definition : Definition, definition.id = id ∧
    loader core = Tokenizer.register core definition

theorem Loader.vue_registers : (Loader.vue : Loader κ).Registers "vue" :=
  fun _ => ⟨vueDefinition, rfl, rfl⟩

def LoaderTable.Registering (table : LoaderTable κ) : Prop :=
  ∀ entry ∈ table, entry.2.Registers entry.1

private theorem LoaderTable.registering_ofList {entries : List (String × Loader κ)}
    (registering : LoaderTable.Registering entries) :
    (LoaderTable.ofList entries).Registering :=
  fun entry member => registering entry (mem_of_mem_ofList member)

theorem Gate.Meeting.of_present {gate : Gate κ} {core : κ} {id : String} {run : Option (Loader κ)}
    {demand : Demand κ} (meeting : Gate.Meeting gate core id run demand)
    (loadable : gate.isLoadable id = true) (present : Tokenizer.hasGrammar core id = true) :
    run = none ∧ demand.answer = .ok true := by
  cases meeting with
  | held available => exact ⟨rfl, rfl⟩
  | unsupported unavailable missing =>
      rw [isLoadable, missing] at loadable
      cases loadable
  | adopted unavailable loader found _present => exact ⟨rfl, rfl⟩
  | loaded unavailable loader found absent | failed unavailable loader found absent =>
      rw [absent] at present
      cases present

end Registering

/-- The gate has only what the catalog has, and loaders that register their grammars. -/
structure Gate.Faithful (gate : Gate Catalog) (catalog : Catalog) : Prop where
  known : ∀ id, gate.isAvailable id = true → id ∈ catalog.ids
  registering : gate.loaders.Registering

theorem Gate.Faithful.mono {gate : Gate Catalog} {catalog larger : Catalog}
    (faithful : gate.Faithful catalog) (grown : ∀ id ∈ catalog.ids, id ∈ larger.ids) :
    gate.Faithful larger where
  known := fun id available => grown id (faithful.known id available)
  registering := faithful.registering

private theorem Gate.faithful_ofLoaders (catalog : Catalog) {loaders : List (String × Loader Catalog)}
    (registering : LoaderTable.Registering loaders) :
    (Gate.ofLoaders catalog loaders).Faithful catalog where
  known := fun id => (isAvailable_ofLoaders catalog loaders id).mp
  registering := LoaderTable.registering_ofList registering

namespace Gate.Meeting

variable {gate : Gate Catalog} {catalog : Catalog} {id : String} {run : Option (Loader Catalog)}
  {demand : Demand Catalog}

theorem mem_core (meeting : Meeting gate catalog id run demand) (faithful : gate.Faithful catalog)
    (other : String) :
    other ∈ demand.core.ids ↔
      other ∈ catalog.ids ∨ (other = id ∧ demand.answer = .ok true) := by
  -- Only a loader can change the catalog, and it registers exactly the grammar that was demanded.
  have registers {loader : Loader Catalog} (found : gate.loaders.find? id = some loader) :
      other ∈ (loader catalog).1.ids ↔
        other ∈ catalog.ids ∨ (other = id ∧ (loader catalog).2 = .ok ()) := by
    obtain ⟨definition, rfl, same⟩ :=
      faithful.registering _ (LoaderTable.mem_of_find? found) catalog
    rw [show loader catalog = catalog.register definition from same]
    exact catalog.mem_register definition other
  cases meeting with
  | held available =>
      refine (or_iff_left_of_imp ?_).symm
      rintro ⟨rfl, _yes⟩
      exact faithful.known other available
  | unsupported unavailable missing => exact (or_iff_left fun both => nomatch both.2).symm
  | adopted unavailable loader found present =>
      refine (or_iff_left_of_imp ?_).symm
      rintro ⟨rfl, _yes⟩
      exact (catalog.contains_iff other).mp present
  | loaded unavailable loader found absent succeeded =>
      rw [registers found, succeeded, and_iff_left rfl, and_iff_left rfl]
  | failed unavailable loader found absent error broken =>
      rw [registers found, broken]
      exact or_congr_right (iff_of_false (fun both => nomatch both.2) (fun both => nomatch both.2))

private theorem faithful_after (meeting : Meeting gate catalog id run demand)
    (faithful : gate.Faithful catalog) : demand.gate.Faithful demand.core where
  known := by
    intro other available
    rw [meeting.mem_core faithful]
    rcases (meeting.isAvailable_iff other).mp available with before | ⟨rfl, answered⟩
    · exact Or.inl (faithful.known other before)
    · exact Or.inr ⟨rfl, answered⟩
  registering := by
    rw [meeting.loaders_eq]
    exact faithful.registering

private theorem answer_ne_alreadyRegistered (meeting : Meeting gate catalog id run demand)
    (faithful : gate.Faithful catalog) (taken : String) :
    demand.answer ≠ .error (.alreadyRegistered taken) := by
  cases meeting with
  | failed unavailable loader found absent error broken =>
      -- The loader was run because the catalog lacks the very id that it registers.
      obtain ⟨definition, rfl, same⟩ :=
        faithful.registering _ (LoaderTable.mem_of_find? found) catalog
      have untaken := Catalog.register_of_absent absent taken
      intro refused
      cases refused
      exact untaken ((congrArg Prod.snd same).symm.trans broken)
  | _ => exact nofun

end Gate.Meeting

namespace Workshop

def Faithful (workshop : Workshop Catalog) : Prop :=
  ∀ gate ∈ workshop.gates, gate.Faithful workshop.core

def Operation.Registering : Operation Catalog → Prop
  | .addGate loaders => LoaderTable.Registering loaders
  | _ => True

variable {workshop : Workshop Catalog}

theorem faithful_initial (catalog : Catalog) : (initial catalog).Faithful :=
  fun _ member => nomatch member

theorem Faithful.getElem? (faithful : workshop.Faithful) {index : Nat} {gate : Gate Catalog}
    (found : workshop.gates[index]? = some gate) : gate.Faithful workshop.core :=
  faithful gate (List.mem_of_getElem? found)

theorem mem_core_ensure (faithful : workshop.Faithful) {index : Nat} {gate : Gate Catalog}
    (found : workshop.gates[index]? = some gate) (id other : String) :
    other ∈ (workshop.ensure index id).1.core.ids ↔
      other ∈ workshop.core.ids ∨ (other = id ∧ (workshop.ensure index id).2 = .ok true) := by
  rw [ensure_eq found]
  exact (gate.meeting_ensure workshop.core id).mem_core (faithful.getElem? found) other

theorem mem_core_step (faithful : workshop.Faithful) (operation : Operation Catalog) :
    ∀ id ∈ workshop.core.ids, id ∈ (workshop.step operation).core.ids := by
  intro id present
  cases operation with
  | addGate loaders => exact present
  | register definition => exact (workshop.core.mem_register definition id).mpr (Or.inl present)
  | ensure index wanted =>
      change id ∈ (workshop.ensure index wanted).1.core.ids
      cases found : workshop.gates[index]? with
      | none =>
          simp only [ensure, found]
          exact present
      | some gate => exact (mem_core_ensure faithful found wanted id).mpr (Or.inl present)

theorem Faithful.step (faithful : workshop.Faithful) {operation : Operation Catalog}
    (registering : operation.Registering) : (workshop.step operation).Faithful := by
  have grown := mem_core_step faithful operation
  intro gate member
  cases operation with
  | addGate loaders =>
      rcases List.mem_append.mp member with older | newest
      · exact faithful gate older
      · rw [List.mem_singleton.mp newest]
        exact Gate.faithful_ofLoaders workshop.core registering
  | register definition => exact (faithful gate member).mono grown
  | ensure index wanted =>
      change gate ∈ (workshop.ensure index wanted).1.gates at member
      change gate.Faithful (workshop.ensure index wanted).1.core
      cases found : workshop.gates[index]? with
      | none =>
          simp only [ensure, found] at member ⊢
          exact faithful gate member
      | some asked =>
          have after := (asked.meeting_ensure workshop.core wanted).faithful_after
            (faithful.getElem? found)
          change ∀ id ∈ workshop.core.ids, id ∈ (workshop.ensure index wanted).1.core.ids at grown
          rw [ensure_eq found] at member grown ⊢
          rcases List.mem_or_eq_of_mem_set member with other | rfl
          · exact (faithful gate other).mono grown
          · exact after

theorem Faithful.run (faithful : workshop.Faithful) {operations : List (Operation Catalog)}
    (registering : ∀ operation ∈ operations, operation.Registering) :
    (workshop.run operations).Faithful := by
  induction operations generalizing workshop with
  | nil => exact faithful
  | cons operation rest ih =>
      exact ih (faithful.step (registering operation List.mem_cons_self)) fun later member =>
        registering later (List.mem_cons_of_mem operation member)

theorem mem_core_run (faithful : workshop.Faithful) {operations : List (Operation Catalog)}
    (registering : ∀ operation ∈ operations, operation.Registering) {id : String}
    (present : id ∈ workshop.core.ids) : id ∈ (workshop.run operations).core.ids := by
  induction operations generalizing workshop with
  | nil => exact present
  | cons operation rest ih =>
      exact ih (faithful.step (registering operation List.mem_cons_self))
        (fun later member => registering later (List.mem_cons_of_mem operation member))
        (mem_core_step faithful operation id present)

private theorem mem_core_of_loaderAnswer? (faithful : workshop.Faithful) {index : Nat} {id : String}
    {operation : Operation Catalog}
    (loaded : workshop.loaderAnswer? index id operation = some (.ok ())) :
    id ∈ (workshop.step operation).core.ids := by
  cases found : workshop.gates[index]? with
  | none =>
      cases operation with
      | addGate loaders | register definition => cases loaded
      | ensure place wanted =>
          change (if place = index ∧ wanted = id then workshop.gates[index]?.bind _ else none) = _
            at loaded
          rw [found, Option.bind_none, ite_self] at loaded
          cases loaded
  | some gate =>
      obtain ⟨rfl, answered⟩ := met_of_loaderAnswer? found loaded rfl
      exact (mem_core_ensure faithful found id id).mpr (Or.inr ⟨rfl, answered⟩)

theorem mem_core_of_loaderAnswers (faithful : workshop.Faithful)
    {operations : List (Operation Catalog)}
    (registering : ∀ operation ∈ operations, operation.Registering) {index : Nat} {id : String}
    (loaded : .ok () ∈ workshop.loaderAnswers index id operations) :
    id ∈ (workshop.run operations).core.ids := by
  induction operations generalizing workshop with
  | nil => cases loaded
  | cons operation rest ih =>
      have next := faithful.step (registering operation List.mem_cons_self)
      have others : ∀ later ∈ rest, later.Registering := fun later member =>
        registering later (List.mem_cons_of_mem operation member)
      rcases List.mem_append.mp loaded with now | afterwards
      · exact mem_core_run next others (mem_core_of_loaderAnswer? faithful (Option.mem_toList.mp now))
      · exact ih next others afterwards

/-- Whatever happens at gates whose loaders register their own grammars: the catalog has all that any of them
has, so a demand that is met is met with a grammar of the catalog; no loader finds its grammar registered
already; and a grammar that was loaded at one gate is given at all others that could load it, without a
loader. -/
theorem run_sharing (catalog : Catalog) (operations : List (Operation Catalog))
    (registering : ∀ operation ∈ operations, operation.Registering) :
    let final := (initial catalog).run operations
    (∀ gate ∈ final.gates, ∀ id, gate.isAvailable id = true →
      id ∈ Tokenizer.grammars final.core) ∧
    ∀ index gate id, final.gates[index]? = some gate →
      ((final.ensure index id).2 = .ok true →
        id ∈ Tokenizer.grammars (final.ensure index id).1.core) ∧
      (∀ taken, (final.ensure index id).2 ≠ .error (.alreadyRegistered taken)) ∧
      (gate.isLoadable id = true →
        ∀ place, .ok () ∈ (initial catalog).loaderAnswers place id operations →
          gate.loaderRun? final.core id = none ∧ (final.ensure index id).2 = .ok true) := by
  intro final
  have faithful : final.Faithful := (faithful_initial catalog).run registering
  refine ⟨fun gate member => (faithful gate member).known, ?_⟩
  intro index gate id found
  have meeting := gate.meeting_ensure final.core id
  refine ⟨?_, ?_, ?_⟩
  · intro answered
    exact (mem_core_ensure faithful found id id).mpr (Or.inr ⟨rfl, answered⟩)
  · intro taken
    rw [ensure_eq found]
    exact meeting.answer_ne_alreadyRegistered (faithful.getElem? found) taken
  · intro loadable place loaded
    have present : id ∈ final.core.ids :=
      mem_core_of_loaderAnswers (faithful_initial catalog) registering loaded
    rw [ensure_eq found]
    exact meeting.of_present loadable ((final.core.contains_iff id).mpr present)

/-- Two gates are opened before either of them has the grammar for components; the second adopts what the
first has loaded, and a registration in between does not matter. -/
def twoGates : List (Operation Catalog) :=
  [.addGate Loader.builtin, .addGate Loader.builtin, .ensure 0 "vue",
    .register ⟨"astro", "markup", ["vue"]⟩]

theorem run_sharing_twoGates :
    (∀ operation ∈ twoGates, operation.Registering) ∧
      .ok () ∈ (initial ⟨["css", "javascript", "markup"]⟩).loaderAnswers 0 "vue" twoGates ∧
      (((initial ⟨["css", "javascript", "markup"]⟩).run twoGates).ensure 1 "vue").2 = .ok true := by
  have registering : ∀ operation ∈ twoGates, operation.Registering := by
    have builtin : LoaderTable.Registering (Loader.builtin : List (String × Loader Catalog)) := by
      intro entry member
      rw [List.mem_singleton.mp member]
      exact Loader.vue_registers
    exact List.forall_mem_cons.mpr ⟨builtin, List.forall_mem_cons.mpr ⟨builtin,
      List.forall_mem_cons.mpr ⟨trivial, List.forall_mem_singleton.mpr trivial⟩⟩⟩
  have loaded : .ok () ∈
      (initial ⟨["css", "javascript", "markup"]⟩).loaderAnswers 0 "vue" twoGates := by
    exact List.mem_cons_self
  obtain ⟨gate, found, loadable⟩ : ∃ gate,
      ((initial ⟨["css", "javascript", "markup"]⟩).run twoGates).gates[1]? = some gate ∧
        gate.isLoadable "vue" = true := ⟨_, rfl, rfl⟩
  have sharing := (run_sharing ⟨["css", "javascript", "markup"]⟩ twoGates registering).2 1 gate "vue"
    found
  exact ⟨registering, loaded, (sharing.2.2 loadable 0 loaded).2⟩

end Workshop

end BracketDecoration.Grammar
