import BracketDecoration.Proofs.Grammar.Sharing
import BracketDecoration.Proofs.History
import BracketDecoration.Proofs.Text.ByteOrder
import Mathlib.Data.List.Basic
import Mathlib.Order.WellFounded

/-!
What a catalog holds after any registrations. Every definition is either entered or turned down for the first
cause that applies. The catalog has its seed and what was entered, in the order of bytes; and since an entered
definition needs only what was there before it, the entered definitions never need each other in a circle.
-/

namespace BracketDecoration.Grammar

namespace Definition

def needs (definition : Definition) : List String := definition.base :: definition.embedded

structure Fits (definition : Definition) (known : List String) : Prop where
  fresh : definition.id ∉ known
  supported : ∀ id ∈ definition.needs, id ∈ known

private theorem Fits.congr {definition : Definition} {known other : List String}
    (same : ∀ id, id ∈ known ↔ id ∈ other) : definition.Fits known ↔ definition.Fits other := by
  constructor
  · intro fits
    exact ⟨fun taken => fits.fresh ((same _).mpr taken), fun id needed =>
      (same id).mp (fits.supported id needed)⟩
  · intro fits
    exact ⟨fun taken => fits.fresh ((same _).mp taken), fun id needed =>
      (same id).mpr (fits.supported id needed)⟩

/-- Each definition can be added to the seed and the definitions before it. -/
def InOrder (seed : List String) (definitions : List Definition) : Prop :=
  ∀ before definition after, definitions = before ++ definition :: after →
    definition.Fits (seed ++ before.map Definition.id)

/-- One of the definitions has the id and needs the other grammar for it. -/
def NeededFor (definitions : List Definition) (needed id : String) : Prop :=
  ∃ definition ∈ definitions, definition.id = id ∧ needed ∈ definition.needs

variable {seed : List String} {definitions : List Definition}

theorem inOrder_nil (seed : List String) : InOrder seed [] :=
  fun _before _definition _after cut => absurd cut History.nil_ne_append_cons

theorem InOrder.concat (ordered : InOrder seed definitions) {newest : Definition}
    (fits : newest.Fits (seed ++ definitions.map Definition.id)) : InOrder seed (definitions ++ [newest]) := by
  intro before definition after cut
  rcases History.concat_eq_append_cons_iff.mp cut with ⟨rfl, rfl, _last⟩ | ⟨rest, older, _later⟩
  · exact fits
  · exact ordered before definition rest older

theorem InOrder.idxOf_lt (ordered : InOrder seed definitions) {needed id : String}
    (need : NeededFor definitions needed id) :
    (seed ++ definitions.map Definition.id).idxOf needed <
      (seed ++ definitions.map Definition.id).idxOf id := by
  obtain ⟨definition, member, rfl, required⟩ := need
  obtain ⟨before, after, cut⟩ := List.append_of_mem member
  have fits := ordered before definition after cut
  have known := fits.supported needed required
  have listed : seed ++ definitions.map Definition.id =
      (seed ++ before.map Definition.id) ++ definition.id :: after.map Definition.id := by
    rw [cut, List.map_append, List.map_cons, List.append_assoc]
  rw [listed, List.idxOf_append_of_mem known, List.idxOf_append_of_notMem fits.fresh,
    List.idxOf_cons_self]
  exact List.idxOf_lt_length_of_mem known

private theorem InOrder.wellFounded (ordered : InOrder seed definitions) :
    WellFounded (NeededFor definitions) :=
  Subrelation.wf (fun need => ordered.idxOf_lt need)
    (InvImage.wf (seed ++ definitions.map Definition.id).idxOf Nat.lt_wfRel.wf)

end Definition

theorem pairwise_insertId {ids : List String} (ascending : ids.Pairwise (· < ·)) (added : String) :
    (insertId added ids).Pairwise (· < ·) := by
  induction ids with
  | nil => exact List.pairwise_singleton _ added
  | cons first rest ih =>
      obtain ⟨least, ascendingRest⟩ := List.pairwise_cons.mp ascending
      unfold insertId
      by_cases before : added < first
      · rw [if_pos before]
        refine List.pairwise_cons.mpr ⟨?_, ascending⟩
        intro other member
        rcases List.mem_cons.mp member with rfl | later
        · exact before
        · exact String.lt_trans before (least other later)
      · rw [if_neg before]
        by_cases same : added = first
        · rw [if_pos same]
          exact ascending
        · rw [if_neg same]
          refine List.pairwise_cons.mpr ⟨?_, ih ascendingRest⟩
          intro other member
          rcases (mem_insertId added rest other).mp member with older | rfl
          · exact least other older
          · have behind : first ≤ other := String.not_lt.mp before
            exact String.not_le.mp fun unordered => same (String.le_antisymm unordered behind)

namespace Catalog

private theorem mem_ofList (seed : List String) (id : String) : id ∈ (ofList seed).ids ↔ id ∈ seed := by
  suffices entered : ∀ ids : List String,
      id ∈ seed.foldl (fun sorted id => insertId id sorted) ids ↔ id ∈ ids ∨ id ∈ seed from
    (entered []).trans (or_iff_right List.not_mem_nil)
  induction seed with
  | nil => exact fun ids => (or_iff_left List.not_mem_nil).symm
  | cons first rest ih =>
      intro ids
      rw [List.foldl_cons, ih, mem_insertId, List.mem_cons, or_assoc]

def Ascending (catalog : Catalog) : Prop := catalog.ids.Pairwise (· < ·)

private theorem ascending_ofList (seed : List String) : (ofList seed).Ascending := by
  suffices kept : ∀ ids : List String, ids.Pairwise (· < ·) →
      (seed.foldl (fun sorted id => insertId id sorted) ids).Pairwise (· < ·) from
    kept [] List.Pairwise.nil
  induction seed with
  | nil => exact fun ids ascending => ascending
  | cons first rest ih => exact fun ids ascending => ih _ (pairwise_insertId ascending first)

private theorem Ascending.bytes {catalog : Catalog} (ascending : catalog.Ascending) :
    catalog.ids.Pairwise fun lower upper => Text.bytes lower.toList < Text.bytes upper.toList :=
  ascending.imp fun less => Text.bytes_lt_of_lt less

private theorem Ascending.nodup {catalog : Catalog} (ascending : catalog.Ascending) : catalog.ids.Nodup := by
  refine ascending.imp ?_
  rintro id _other less rfl
  exact String.lt_irrefl id less

/-- The cause for which a definition is turned down. -/
inductive Fault (catalog : Catalog) (definition : Definition) : Error → Prop where
  | taken (present : definition.id ∈ catalog.ids) :
      Fault catalog definition (.alreadyRegistered definition.id)
  | baseless (fresh : definition.id ∉ catalog.ids) (missing : definition.base ∉ catalog.ids) :
      Fault catalog definition (.missingBase definition.id definition.base)
  | unembedded (fresh : definition.id ∉ catalog.ids) (based : definition.base ∈ catalog.ids)
      (before : List String) (missing : String) (after : List String)
      (cut : definition.embedded = before ++ missing :: after)
      (known : ∀ id ∈ before, id ∈ catalog.ids) (absent : missing ∉ catalog.ids) :
      Fault catalog definition (.missingEmbedded definition.id missing)

theorem not_contains_iff (catalog : Catalog) (id : String) :
    (!catalog.contains id) = true ↔ id ∉ catalog.ids := by
  rw [Bool.not_eq_true', ← Bool.not_eq_true, contains_iff]

/-- The causes are looked for in the order of `Fault`. -/
theorem fault_spec (catalog : Catalog) (definition : Definition) :
    (catalog.fault? definition = none ∧ definition.Fits catalog.ids) ∨
      ∃ error, catalog.fault? definition = some error ∧ catalog.Fault definition error := by
  unfold fault?
  by_cases taken : catalog.contains definition.id = true
  · rw [if_pos taken]
    exact Or.inr ⟨_, rfl, .taken ((catalog.contains_iff _).mp taken)⟩
  · have fresh : definition.id ∉ catalog.ids := fun present =>
      taken ((catalog.contains_iff _).mpr present)
    rw [if_neg taken]
    by_cases missing : (!catalog.contains definition.base) = true
    · rw [if_pos missing]
      exact Or.inr ⟨_, rfl, .baseless fresh ((catalog.not_contains_iff _).mp missing)⟩
    · have based : definition.base ∈ catalog.ids := by
        rwa [catalog.not_contains_iff, not_not] at missing
      rw [if_neg missing]
      cases found : definition.embedded.find? fun id => !catalog.contains id with
      | none =>
          refine Or.inl ⟨rfl, fresh, List.forall_mem_cons.mpr ⟨based, fun id embedded => ?_⟩⟩
          have present := List.find?_eq_none.mp found id embedded
          rwa [catalog.not_contains_iff, not_not] at present
      | some absent =>
          obtain ⟨lacking, before, after, cut, earlier⟩ := List.find?_eq_some_iff_append.mp found
          refine Or.inr ⟨_, rfl, .unembedded fresh based before absent after cut ?_
            ((catalog.not_contains_iff absent).mp lacking)⟩
          intro id present
          have known := earlier id present
          rwa [Bool.not_not, contains_iff] at known

private theorem Fault.not_fits {catalog : Catalog} {definition : Definition} {error : Error}
    (fault : catalog.Fault definition error) : ¬definition.Fits catalog.ids := by
  intro fits
  cases fault with
  | taken present => exact fits.fresh present
  | baseless fresh missing => exact missing (fits.supported _ List.mem_cons_self)
  | unembedded fresh based before missing after cut known absent =>
      refine absent (fits.supported _ (List.mem_cons_of_mem _ ?_))
      rw [cut]
      exact List.mem_append_right before List.mem_cons_self

theorem Fault.fault?_eq {catalog : Catalog} {definition : Definition} {error : Error}
    (fault : catalog.Fault definition error) : catalog.fault? definition = some error := by
  unfold fault?
  cases fault with
  | taken present => exact if_pos ((catalog.contains_iff _).mpr present)
  | baseless fresh missing =>
      rw [if_neg (mt (catalog.contains_iff _).mp fresh), if_pos ((catalog.not_contains_iff _).mpr missing)]
  | unembedded fresh based before missing after cut known absent =>
      have found : (definition.embedded.find? fun id => !catalog.contains id) = some missing := by
        refine List.find?_eq_some_iff_append.mpr ⟨(catalog.not_contains_iff missing).mpr absent, before,
          after, cut, fun id member => ?_⟩
        rw [Bool.not_not, contains_iff]
        exact known id member
      rw [if_neg (mt (catalog.contains_iff _).mp fresh),
        if_neg (mt (catalog.not_contains_iff _).mp (not_not_intro based)), found]
      rfl

theorem register_eq_ok_iff (catalog : Catalog) (definition : Definition) :
    (catalog.register definition).2 = .ok () ↔ definition.Fits catalog.ids := by
  rcases catalog.register_cases definition with ⟨error, fault, refused⟩ | ⟨sound, admitted⟩
  · rw [refused]
    rcases catalog.fault_spec definition with ⟨none_found, _fits⟩ | ⟨_cause, _found, blocked⟩
    · rw [none_found] at fault
      cases fault
    · exact iff_of_false nofun blocked.not_fits
  · rw [admitted]
    rcases catalog.fault_spec definition with ⟨_none, fits⟩ | ⟨_cause, found, _blocked⟩
    · exact iff_of_true rfl fits
    · rw [sound] at found
      cases found

theorem register_eq_error_iff (catalog : Catalog) (definition : Definition) (error : Error) :
    (catalog.register definition).2 = .error error ↔ catalog.Fault definition error := by
  unfold register
  constructor
  · intro refused
    rcases catalog.fault_spec definition with ⟨sound, _fits⟩ | ⟨cause, found, fault⟩
    · rw [sound] at refused
      cases refused
    · rw [found] at refused
      change Except.error cause = .error error at refused
      cases refused
      exact fault
  · intro fault
    rw [fault.fault?_eq]

theorem register_of_error {catalog : Catalog} {definition : Definition} {error : Error}
    (failed : (catalog.register definition).2 = .error error) :
    (catalog.register definition).1 = catalog := by
  rcases catalog.register_cases definition with ⟨_cause, _fault, refused⟩ | ⟨_sound, admitted⟩
  · rw [refused]
  · rw [admitted] at failed
    cases failed

def registerEach (catalog : Catalog) (calls : List Definition) : Catalog :=
  calls.foldl (fun known definition => (known.register definition).1) catalog

def entered (catalog : Catalog) : List Definition → List Definition
  | [] => []
  | definition :: rest =>
    match catalog.register definition with
    | (next, .ok ()) => definition :: next.entered rest
    | (next, .error _) => next.entered rest

/-- The catalog holds its seed and the definitions that were entered, and each of these came when it could. -/
structure Holds (catalog : Catalog) (seed : List String) (entered : List Definition) : Prop where
  contents : ∀ id, id ∈ catalog.ids ↔ id ∈ seed ++ entered.map Definition.id
  ordered : Definition.InOrder seed entered
  ascending : catalog.Ascending

private theorem holds_ofList (seed : List String) : (ofList seed).Holds seed [] where
  contents := fun id => by rw [mem_ofList, List.map_nil, List.append_nil]
  ordered := Definition.inOrder_nil seed
  ascending := ascending_ofList seed

variable {catalog : Catalog} {seed : List String} {earlier : List Definition}

theorem Holds.enter (holds : catalog.Holds seed earlier) {definition : Definition}
    (fits : definition.Fits catalog.ids) :
    Holds ⟨insertId definition.id catalog.ids⟩ seed (earlier ++ [definition]) where
  contents := by
    intro id
    rw [mem_insertId, holds.contents, List.map_append, ← List.append_assoc, List.map_singleton,
      List.mem_append (s := seed ++ _), List.mem_singleton]
  ordered := holds.ordered.concat ((Definition.Fits.congr holds.contents).mp fits)
  ascending := pairwise_insertId holds.ascending definition.id

theorem Holds.registerEach (holds : catalog.Holds seed earlier) (calls : List Definition) :
    (catalog.registerEach calls).Holds seed (earlier ++ catalog.entered calls) := by
  -- A registration leaves the catalog and its history alone, or both grow by the same definition.
  induction calls generalizing catalog earlier with
  | nil =>
      rw [entered, List.append_nil]
      exact holds
  | cons definition rest ih =>
      change ((catalog.register definition).1.registerEach rest).Holds seed _
      unfold entered
      rcases catalog.register_cases definition with ⟨error, _fault, refused⟩ | ⟨_sound, admitted⟩
      · rw [refused]
        exact ih holds
      · have fits := (catalog.register_eq_ok_iff definition).mp (by rw [admitted])
        have longer := ih (holds.enter fits)
        rw [List.append_assoc] at longer
        rw [admitted]
        exact longer

/-- After any registrations on a catalog with any seed. A definition is entered exactly if it is new and all
that it needs is there; otherwise the error is its first fault and nothing changes. The catalog has its seed and
what was entered, each definition after all that it needs, so that none needs itself by any detour. The
inventory is in the order of bytes, each id once, and everything that can be asked of the catalog agrees
with it. -/
theorem registerEach_history (seed : List String) (calls : List Definition) :
    let catalog := (ofList seed).registerEach calls
    let entered := (ofList seed).entered calls
    let inventory := Tokenizer.grammars catalog
    (∀ definition : Definition,
      ((Tokenizer.register catalog definition).2 = .ok () ↔ definition.Fits inventory) ∧
      (∀ error, (Tokenizer.register catalog definition).2 = .error error ↔
        catalog.Fault definition error) ∧
      (∀ error, (Tokenizer.register catalog definition).2 = .error error →
        (Tokenizer.register catalog definition).1 = catalog)) ∧
    (∀ id, id ∈ inventory ↔ id ∈ seed ∨ id ∈ entered.map Definition.id) ∧
    Definition.InOrder seed entered ∧
    (∀ id, ¬Relation.TransGen (Definition.NeededFor entered) id id) ∧
    (inventory.Pairwise fun lower upper => Text.bytes lower.toList < Text.bytes upper.toList) ∧
    inventory.Nodup ∧
    (∀ id, catalog.contains id = decide (id ∈ inventory) ∧
      Tokenizer.hasGrammar catalog id = decide (id ∈ inventory) ∧
      inventory.contains id = decide (id ∈ inventory)) ∧
    catalog.size = inventory.length ∧
    catalog.isEmpty = decide (inventory = []) := by
  intro catalog entered inventory
  have holds : catalog.Holds seed entered := (holds_ofList seed).registerEach calls
  have listed (id : String) : inventory.contains id = decide (id ∈ inventory) :=
    List.contains_eq_mem id inventory
  refine ⟨?_, ?_, holds.ordered, ?_, holds.ascending.bytes, holds.ascending.nodup,
    fun id => ⟨listed id, listed id, listed id⟩, rfl, ?_⟩
  · intro definition
    exact ⟨catalog.register_eq_ok_iff definition, catalog.register_eq_error_iff definition,
      fun error failed => register_of_error failed⟩
  · intro id
    rw [← List.mem_append]
    exact holds.contents id
  · intro id circle
    exact holds.ordered.wellFounded.transGen.asymmetric id id circle circle
  · rw [Bool.eq_iff_iff, decide_eq_true_eq]
    exact List.isEmpty_iff

end Catalog

end BracketDecoration.Grammar
