import BracketDecoration.Proofs.Settings.Validation

/-!
Checks that are made one after the other. What they accept together, and which fault they report, follows from
the same of each of them: the fault is that of the first check that fails, and the checks behind it do not
count.
-/

namespace BracketDecoration.Settings

variable {α β : Type}

/-- There is a result exactly if all is `sound`, and otherwise a fault exactly if it is one of the `faulty`. -/
structure Decided (result : Except Error α) (sound : Prop) (faulty : Error → Prop) : Prop where
  accepted : (∃ value, result = .ok value) ↔ sound
  rejected : ∀ fault, result = .error fault ↔ faulty fault

def FirstFault (sound : α → Prop) (faulty : α → Error → Prop) (members : List α) (fault : Error) : Prop :=
  ∃ before member after, members = before ++ member :: after ∧ (∀ earlier ∈ before, sound earlier) ∧
    faulty member fault

theorem firstFault_cons {sound : α → Prop} {faulty : α → Error → Prop} {member : α} {rest : List α}
    {fault : Error} :
    FirstFault sound faulty (member :: rest) fault ↔
      faulty member fault ∨ (sound member ∧ FirstFault sound faulty rest fault) := by
  constructor
  · rintro ⟨before, culprit, after, split, earlier, found⟩
    cases before with
    | nil =>
        obtain ⟨rfl, _same⟩ := List.cons.inj split
        exact Or.inl found
    | cons first others =>
        obtain ⟨rfl, later⟩ := List.cons.inj split
        obtain ⟨passed, between⟩ := List.forall_mem_cons.mp earlier
        exact Or.inr ⟨passed, others, culprit, after, later, between, found⟩
  · rintro (found | ⟨passed, before, culprit, after, rfl, earlier, found⟩)
    · exact ⟨[], member, rest, rfl, nofun, found⟩
    · exact ⟨member :: before, culprit, after, rfl, List.forall_mem_cons.mpr ⟨passed, earlier⟩, found⟩

theorem bind_eq_error_iff {first : Except Error α} {next : α → Except Error β} {fault : Error} :
    first >>= next = .error fault ↔
      first = .error fault ∨ ∃ value, first = .ok value ∧ next value = .error fault := by
  cases first with
  | error cause =>
      change Except.error cause = .error fault ↔ _
      rw [Except.error.injEq, Except.error.injEq]
      refine (or_iff_left ?_).symm
      rintro ⟨value, impossible, _failed⟩
      cases impossible
  | ok value =>
      change next value = .error fault ↔ _
      constructor
      · exact fun failed => Or.inr ⟨value, rfl, failed⟩
      · rintro (impossible | ⟨passed, same, failed⟩)
        · cases impossible
        · cases same
          exact failed

namespace Decided

variable {first : Except Error α} {sound following : Prop} {faulty later : Error → Prop}

theorem ok (value : α) : Decided (.ok value) True fun _ => False where
  accepted := ⟨fun _ => trivial, fun _ => ⟨value, rfl⟩⟩
  rejected := fun _ => ⟨nofun, False.elim⟩

theorem error {cause : Error} (unsound : ¬sound) (only : ∀ fault, cause = fault ↔ faulty fault) :
    Decided (.error cause : Except Error α) sound faulty where
  accepted := iff_of_false nofun unsound
  rejected := fun fault => Except.error.injEq cause fault ▸ only fault

theorem congr {sound' : Prop} {faulty' : Error → Prop} (decided : Decided first sound faulty)
    (same : sound ↔ sound') (alike : ∀ fault, faulty fault ↔ faulty' fault) :
    Decided first sound' faulty' where
  accepted := decided.accepted.trans same
  rejected := fun fault => (decided.rejected fault).trans (alike fault)

theorem bind {next : α → Except Error β} (decided : Decided first sound faulty)
    (decides : ∀ value, first = .ok value → Decided (next value) following later) :
    Decided (first >>= next) (sound ∧ following) fun fault => faulty fault ∨ (sound ∧ later fault) where
  accepted := by
    rw [← decided.accepted]
    constructor
    · rintro ⟨result, made⟩
      obtain ⟨value, passed, made⟩ := bind_eq_ok_iff.mp made
      exact ⟨⟨value, passed⟩, (decides value passed).accepted.mp ⟨result, made⟩⟩
    · rintro ⟨⟨value, passed⟩, holds⟩
      obtain ⟨result, made⟩ := (decides value passed).accepted.mpr holds
      exact ⟨result, bind_eq_ok_iff.mpr ⟨value, passed, made⟩⟩
  rejected := by
    intro fault
    rw [bind_eq_error_iff, decided.rejected fault, ← decided.accepted]
    refine or_congr_right ?_
    constructor
    · rintro ⟨value, passed, failed⟩
      exact ⟨⟨value, passed⟩, ((decides value passed).rejected fault).mp failed⟩
    · rintro ⟨⟨value, passed⟩, found⟩
      exact ⟨value, passed, ((decides value passed).rejected fault).mpr found⟩

theorem map (decided : Decided first sound faulty) (result : α → β) :
    Decided (first >>= fun value => pure (result value)) sound faulty :=
  (decided.bind fun value _passed => ok (result value)).congr (and_iff_left trivial) fun _fault =>
    or_iff_left fun both => both.2

theorem ite (condition : Prop) [Decidable condition] (value : α) (cause : Error) :
    Decided (if condition then .ok value else .error cause) condition fun fault =>
      ¬condition ∧ cause = fault := by
  by_cases holds : condition
  · rw [if_pos holds]
    exact (ok value).congr (iff_of_true trivial holds) fun _fault =>
      ⟨False.elim, fun both => both.1 holds⟩
  · rw [if_neg holds]
    exact error holds fun _fault => (and_iff_right holds).symm

theorem found {value? : Option α} {cause : Error} (present : ∀ value, value? = some value → first = .ok value)
    (absent : value? = none → first = .error cause) :
    Decided first (∃ value, value? = some value) fun fault =>
      (¬∃ value, value? = some value) ∧ cause = fault := by
  cases value? with
  | some value =>
      have there : ∃ other, some value = some other := ⟨value, rfl⟩
      rw [present value rfl]
      exact (ok value).congr (iff_of_true trivial there) fun _fault =>
        ⟨False.elim, fun both => both.1 there⟩
  | none =>
      have missing : ¬∃ value : α, none = some value := nofun
      rw [absent rfl]
      exact error missing fun _fault => (and_iff_right missing).symm

theorem refuseIf {condition : Prop} [Decidable condition] (cause : Error)
    (decided : ¬condition → Decided first sound faulty) :
    Decided (if condition then .error cause else first) (¬condition ∧ sound) fun fault =>
      (condition ∧ cause = fault) ∨ (¬condition ∧ faulty fault) := by
  by_cases holds : condition
  · rw [if_pos holds]
    refine error (fun both => both.1 holds) fun fault => ?_
    rw [and_iff_right holds]
    exact (or_iff_left fun both => both.1 holds).symm
  · rw [if_neg holds]
    exact (decided holds).congr (and_iff_right holds).symm fun fault => by
      rw [and_iff_right holds]
      exact (or_iff_right fun both => holds both.1).symm

variable {sound : α → Prop} {faulty : α → Error → Prop}

theorem nothing (value : β) :
    Decided (.ok value) (∀ member ∈ ([] : List α), sound member) (FirstFault sound faulty []) :=
  (ok value).congr ⟨fun _ => nofun, fun _ => trivial⟩ fun _fault =>
    ⟨False.elim, fun ⟨_before, _member, _after, split, _⟩ => nomatch List.append_eq_nil_iff.mp split.symm⟩

theorem cons {member : α} {rest : List α} {γ : Type} {step : Except Error β} {next : β → Except Error γ}
    (decided : Decided step (sound member) (faulty member))
    (decides : ∀ value, Decided (next value) (∀ later ∈ rest, sound later) (FirstFault sound faulty rest)) :
    Decided (step >>= next) (∀ other ∈ member :: rest, sound other)
      (FirstFault sound faulty (member :: rest)) :=
  (decided.bind fun value _passed => decides value).congr List.forall_mem_cons.symm fun _fault =>
    firstFault_cons.symm

theorem forM {check : α → Except Error Unit}
    (each : ∀ member, Decided (check member) (sound member) (faulty member)) (members : List α) :
    Decided (members.forM check) (∀ member ∈ members, sound member) (FirstFault sound faulty members) := by
  induction members with
  | nil => exact nothing ()
  | cons member rest ih => exact (each member).cons fun _done => ih

theorem mapM {read : α → Except Error β}
    (each : ∀ member, Decided (read member) (sound member) (faulty member)) (members : List α) :
    Decided (members.mapM read) (∀ member ∈ members, sound member) (FirstFault sound faulty members) := by
  induction members with
  | nil => exact nothing []
  | cons member rest ih =>
      rw [List.mapM_cons]
      exact (each member).cons fun value => ih.map (value :: ·)

theorem foldlM {step : β → α → Except Error β}
    (each : ∀ state member, Decided (step state member) (sound member) (faulty member))
    (members : List α) (state : β) :
    Decided (members.foldlM step state) (∀ member ∈ members, sound member)
      (FirstFault sound faulty members) := by
  induction members generalizing state with
  | nil => exact nothing state
  | cons member rest ih =>
      rw [List.foldlM_cons]
      exact (each state member).cons ih

end Decided

end BracketDecoration.Settings
