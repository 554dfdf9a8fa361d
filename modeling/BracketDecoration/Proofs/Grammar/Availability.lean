import BracketDecoration.Grammar.Workshop
import BracketDecoration.Proofs.History

/-!
What a gate lets through. It starts with the grammars that the tokenizer has then, and from there on has exactly
those that were demanded of it with success, whatever happens to the tokenizer behind it. A grammar that it has
costs nothing, and its loader has succeeded at most once.
-/

namespace BracketDecoration.Grammar

variable {κ : Type}

theorem mem_addId (ids : List String) (added id : String) :
    id ∈ addId ids added ↔ id ∈ ids ∨ id = added := by
  unfold addId
  by_cases present : ids.contains added = true
  · rw [if_pos present]
    constructor
    · exact Or.inl
    · rintro (member | rfl)
      · exact member
      · exact List.contains_iff_mem.mp present
  · rw [if_neg present, List.mem_append, List.mem_singleton]

private theorem mem_foldl_addId (ids added : List String) (id : String) :
    id ∈ added.foldl addId ids ↔ id ∈ ids ∨ id ∈ added := by
  induction added generalizing ids with
  | nil => simp only [List.foldl_nil, List.not_mem_nil, or_false]
  | cons first rest ih => rw [List.foldl_cons, ih, mem_addId, List.mem_cons, or_assoc]

theorem LoaderTable.mem_of_mem_ofList {entries : List (String × Loader κ)}
    {entry : String × Loader κ} (member : entry ∈ LoaderTable.ofList entries) : entry ∈ entries := by
  suffices kept : ∀ (table : LoaderTable κ) (added : List (String × Loader κ)),
      entry ∈ added.foldl add table → entry ∈ table ∨ entry ∈ added from
    (kept [] entries member).resolve_left List.not_mem_nil
  intro table added
  induction added generalizing table with
  | nil => exact Or.inl
  | cons first rest ih =>
      intro found
      rcases ih (add table first) found with placed | later
      · rcases List.mem_append.mp placed with older | newest
        · exact Or.inl (List.mem_filter.mp older).1
        · exact Or.inr (List.mem_singleton.mp newest ▸ List.mem_cons_self)
      · exact Or.inr (List.mem_cons_of_mem first later)

private theorem LoaderTable.find?_ofList_eq_none {entries : List (String × Loader κ)} {id : String}
    (missing : id ∉ entries.map Prod.fst) : (LoaderTable.ofList entries).find? id = none := by
  refine List.lookup_eq_none_iff.mpr ?_
  intro entry member
  refine bne_iff_ne.mpr ?_
  rintro rfl
  exact missing (List.mem_map_of_mem (mem_of_mem_ofList member))

namespace Gate

theorem isAvailable_iff (gate : Gate κ) (id : String) :
    gate.isAvailable id = true ↔ id ∈ gate.available :=
  List.contains_iff_mem

theorem isAvailable_grant (gate : Gate κ) (granted id : String) :
    (gate.grant granted).isAvailable id = true ↔ gate.isAvailable id = true ∨ id = granted := by
  rw [isAvailable_iff, isAvailable_iff]
  exact mem_addId gate.available granted id

variable [Tokenizer κ]

theorem isAvailable_ofLoaders (core : κ) (loaders : List (String × Loader κ)) (id : String) :
    (ofLoaders core loaders).isAvailable id = true ↔ id ∈ Tokenizer.grammars core := by
  rw [isAvailable_iff]
  exact (mem_foldl_addId [] _ id).trans (or_iff_right List.not_mem_nil)

def loaderRun? (gate : Gate κ) (core : κ) (id : String) : Option (Loader κ) :=
  match gate.access core id with
  | .loaded loader => some loader
  | _ => none

def loaderAnswer? (gate : Gate κ) (core : κ) (id : String) : Option (Except Error Unit) :=
  (gate.loaderRun? core id).map fun loader => (loader core).2

/-- Every way to meet a demand: the loader that is run for it, and what comes of it. -/
inductive Meeting (gate : Gate κ) (core : κ) (id : String) : Option (Loader κ) → Demand κ → Prop where
  | held (available : gate.isAvailable id = true) :
      Meeting gate core id none ⟨gate, core, .ok true⟩
  | unsupported (unavailable : gate.isAvailable id = false)
      (missing : gate.loaders.find? id = none) :
      Meeting gate core id none ⟨gate, core, .ok false⟩
  | adopted (unavailable : gate.isAvailable id = false) (loader : Loader κ)
      (found : gate.loaders.find? id = some loader)
      (present : Tokenizer.hasGrammar core id = true) :
      Meeting gate core id none ⟨gate.grant id, core, .ok true⟩
  | loaded (unavailable : gate.isAvailable id = false) (loader : Loader κ)
      (found : gate.loaders.find? id = some loader)
      (absent : Tokenizer.hasGrammar core id = false) (succeeded : (loader core).2 = .ok ()) :
      Meeting gate core id (some loader) ⟨gate.grant id, (loader core).1, .ok true⟩
  | failed (unavailable : gate.isAvailable id = false) (loader : Loader κ)
      (found : gate.loaders.find? id = some loader)
      (absent : Tokenizer.hasGrammar core id = false) (error : Error) (broken : (loader core).2 = .error error) :
      Meeting gate core id (some loader) ⟨gate, (loader core).1, .error error⟩

theorem meeting_ensure (gate : Gate κ) (core : κ) (id : String) :
    Meeting gate core id (gate.loaderRun? core id) (gate.ensure core id) := by
  -- The cases are what the gate looks at, in its order.
  unfold loaderRun? ensure access
  cases available : gate.isAvailable id with
  | true => exact .held available
  | false =>
      cases found : gate.loaders.find? id with
      | none => exact .unsupported available found
      | some loader =>
          cases present : Tokenizer.hasGrammar core id with
          | true => exact .adopted available loader found present
          | false =>
              rcases run : loader core with ⟨next, answer⟩
              cases answer with
              | ok done =>
                  have loaded := Meeting.loaded available loader found present (by rw [run])
                  rw [run] at loaded
                  simp only [run, Bool.false_eq_true, if_false]
                  exact loaded
              | error cause =>
                  have failed := Meeting.failed available loader found present cause (by rw [run])
                  rw [run] at failed
                  simp only [run, Bool.false_eq_true, if_false]
                  exact failed

variable {gate : Gate κ} {core : κ} {id : String} {run : Option (Loader κ)} {demand : Demand κ}

theorem Meeting.loaders_eq (meeting : Meeting gate core id run demand) :
    demand.gate.loaders = gate.loaders := by
  cases meeting with
  | _ => rfl

/-- Only the grammar that was demanded can come in, and it does if the answer is yes. -/
theorem Meeting.isAvailable_iff (meeting : Meeting gate core id run demand) (other : String) :
    demand.gate.isAvailable other = true ↔
      gate.isAvailable other = true ∨ (id = other ∧ demand.answer = .ok true) := by
  have granted : (gate.grant id).isAvailable other = true ↔
      gate.isAvailable other = true ∨ (id = other ∧ Except.ok (ε := Error) true = .ok true) := by
    rw [isAvailable_grant, and_iff_left rfl, eq_comm (a := other)]
  cases meeting with
  | held available =>
      refine (or_iff_left_of_imp ?_).symm
      rintro ⟨rfl, _yes⟩
      exact available
  | unsupported unavailable missing => exact (or_iff_left fun both => nomatch both.2).symm
  | adopted unavailable loader found present => exact granted
  | loaded unavailable loader found absent succeeded => exact granted
  | failed unavailable loader found absent error broken =>
      exact (or_iff_left fun both => nomatch both.2).symm

theorem Meeting.of_available (meeting : Meeting gate core id run demand)
    (available : gate.isAvailable id = true) : run = none ∧ demand = ⟨gate, core, .ok true⟩ := by
  cases meeting with
  | held _available => exact ⟨rfl, rfl⟩
  | unsupported unavailable | adopted unavailable | loaded unavailable | failed unavailable =>
      rw [unavailable] at available
      cases available

theorem Meeting.of_missing (meeting : Meeting gate core id run demand)
    (unavailable : gate.isAvailable id = false) (missing : gate.loaders.find? id = none) :
    run = none ∧ demand = ⟨gate, core, .ok false⟩ := by
  cases meeting with
  | held available =>
      rw [unavailable] at available
      cases available
  | unsupported _unavailable _missing => exact ⟨rfl, rfl⟩
  | adopted _unavailable loader found | loaded _unavailable loader found
  | failed _unavailable loader found =>
      rw [missing] at found
      cases found

theorem Meeting.answer_of_succeeded {loader : Loader κ}
    (meeting : Meeting gate core id (some loader) demand) (succeeded : (loader core).2 = .ok ()) :
    demand.answer = .ok true := by
  cases meeting with
  | loaded unavailable loader found absent _succeeded => rfl
  | failed unavailable loader found absent error broken =>
      rw [succeeded] at broken
      cases broken

end Gate

namespace Workshop

variable [Tokenizer κ]

theorem run_append (workshop : Workshop κ) (first second : List (Operation κ)) :
    workshop.run (first ++ second) = (workshop.run first).run second :=
  List.foldl_append

def loaderAnswer? (workshop : Workshop κ) (index : Nat) (id : String) :
    Operation κ → Option (Except Error Unit)
  | .ensure place wanted =>
    if place = index ∧ wanted = id then
      workshop.gates[index]?.bind fun gate => gate.loaderAnswer? workshop.core id
    else none
  | _ => none

/-- All answers of the loader for a grammar at a gate in the course of operations. -/
def loaderAnswers (workshop : Workshop κ) (index : Nat) (id : String) :
    List (Operation κ) → List (Except Error Unit)
  | [] => []
  | operation :: rest =>
    (workshop.loaderAnswer? index id operation).toList ++
      (workshop.step operation).loaderAnswers index id rest

/-- Whether a demand for a grammar at a gate was met in the course of operations. -/
def Met (start : Workshop κ) (operations : List (Operation κ)) (index : Nat) (id : String) : Prop :=
  ∃ before after, operations = before ++ .ensure index id :: after ∧
    ((start.run before).ensure index id).2 = .ok true

theorem not_met_nil (start : Workshop κ) (index : Nat) (id : String) : ¬Met start [] index id := by
  rintro ⟨before, after, cut, _answered⟩
  exact History.nil_ne_append_cons cut

theorem met_concat (start : Workshop κ) (operations : List (Operation κ)) (operation : Operation κ)
    (index : Nat) (id : String) :
    Met start (operations ++ [operation]) index id ↔
      Met start operations index id ∨
        (operation = .ensure index id ∧ ((start.run operations).ensure index id).2 = .ok true) := by
  constructor
  · rintro ⟨before, after, cut, answered⟩
    rcases History.concat_eq_append_cons_iff.mp cut with ⟨rfl, rfl, _last⟩ | ⟨rest, older, _later⟩
    · exact Or.inr ⟨rfl, answered⟩
    · exact Or.inl ⟨before, rest, older, answered⟩
  · rintro (⟨before, after, older, answered⟩ | ⟨rfl, answered⟩)
    · exact ⟨before, after ++ [operation],
        History.concat_eq_append_cons_iff.mpr (Or.inr ⟨after, older, rfl⟩), answered⟩
    · exact ⟨operations, [], rfl, answered⟩

variable {workshop : Workshop κ} {index : Nat} {gate : Gate κ} {id : String}

theorem ensure_eq (found : workshop.gates[index]? = some gate) :
    workshop.ensure index id =
      (⟨(gate.ensure workshop.core id).core,
          workshop.gates.set index (gate.ensure workshop.core id).gate⟩,
        (gate.ensure workshop.core id).answer) := by
  simp only [ensure, found]

theorem ensure_unchanged (found : workshop.gates[index]? = some gate) {answer : Except Error Bool}
    (unchanged : gate.ensure workshop.core id = ⟨gate, workshop.core, answer⟩) :
    workshop.ensure index id = (workshop, answer) := by
  obtain ⟨within, same⟩ := List.getElem?_eq_some_iff.mp found
  subst same
  rw [ensure_eq found, unchanged, List.set_getElem_self]

theorem gate_step (found : workshop.gates[index]? = some gate) (operation : Operation κ) :
    ∃ next, (workshop.step operation).gates[index]? = some next ∧ next.loaders = gate.loaders ∧
      ∀ id, next.isAvailable id = true ↔ gate.isAvailable id = true ∨
        (operation = .ensure index id ∧ (workshop.ensure index id).2 = .ok true) := by
  have within : index < workshop.gates.length := (List.getElem?_eq_some_iff.mp found).1
  cases operation with
  | addGate loaders =>
      refine ⟨gate, ?_, rfl, fun id => (or_iff_left fun both => nomatch both.1).symm⟩
      exact (List.getElem?_append_left within).trans found
  | register definition =>
      exact ⟨gate, found, rfl, fun id => (or_iff_left fun both => nomatch both.1).symm⟩
  | ensure place wanted =>
      by_cases here : place = index
      · subst here
        have meeting := gate.meeting_ensure workshop.core wanted
        refine ⟨(gate.ensure workshop.core wanted).gate, ?_, meeting.loaders_eq, ?_⟩
        · change (workshop.ensure place wanted).1.gates[place]? = _
          rw [ensure_eq found]
          exact List.getElem?_set_self within
        · intro id
          rw [meeting.isAvailable_iff, Operation.ensure.injEq, and_iff_right rfl]
          refine or_congr_right (and_congr_right ?_)
          rintro rfl
          rw [ensure_eq found]
      · refine ⟨gate, ?_, rfl, fun id => (or_iff_left ?_).symm⟩
        · change (workshop.ensure place wanted).1.gates[index]? = some gate
          unfold ensure
          cases workshop.gates[place]? with
          | none => exact found
          | some other => exact (List.getElem?_set_ne here).trans found
        · rintro ⟨same, _yes⟩
          exact here (Operation.ensure.inj same).1

/-- What a gate has after operations is what it had before and what was demanded of it with success. -/
theorem gate_run (found : workshop.gates[index]? = some gate) (operations : List (Operation κ)) :
    ∃ next, (workshop.run operations).gates[index]? = some next ∧ next.loaders = gate.loaders ∧
      ∀ id, next.isAvailable id = true ↔
        gate.isAvailable id = true ∨ workshop.Met operations index id := by
  induction operations using List.reverseRecOn with
  | nil => exact ⟨gate, found, rfl, fun id => (or_iff_left (not_met_nil workshop index id)).symm⟩
  | append_singleton operations operation ih =>
      obtain ⟨middle, foundMiddle, sameLoaders, available⟩ := ih
      obtain ⟨next, foundNext, keptLoaders, grown⟩ := gate_step foundMiddle operation
      rw [run_append]
      refine ⟨next, foundNext, keptLoaders.trans sameLoaders, fun id => ?_⟩
      rw [grown, available, met_concat, or_assoc]

private theorem not_met_of_missing (found : workshop.gates[index]? = some gate)
    (unavailable : gate.isAvailable id = false) (missing : gate.loaders.find? id = none)
    (operations : List (Operation κ)) : ¬workshop.Met operations index id := by
  induction operations using List.reverseRecOn with
  | nil => exact not_met_nil workshop index id
  | append_singleton operations operation ih =>
      rw [met_concat]
      rintro (earlier | ⟨_demanded, answered⟩)
      · exact ih earlier
      · obtain ⟨middle, foundMiddle, sameLoaders, available⟩ := gate_run found operations
        have still : middle.isAvailable id = false := by
          rw [← Bool.not_eq_true, available, not_or]
          exact ⟨Bool.eq_false_iff.mp unavailable, ih⟩
        rw [← sameLoaders] at missing
        have meeting := middle.meeting_ensure (workshop.run operations).core id
        rw [ensure_eq foundMiddle, (meeting.of_missing still missing).2] at answered
        cases answered

theorem loaderAnswer?_eq_some_iff (found : workshop.gates[index]? = some gate)
    (operation : Operation κ) (answer : Except Error Unit) :
    workshop.loaderAnswer? index id operation = some answer ↔
      operation = .ensure index id ∧ gate.loaderAnswer? workshop.core id = some answer := by
  cases operation with
  | addGate loaders => exact ⟨nofun, fun both => nomatch both.1⟩
  | register definition => exact ⟨nofun, fun both => nomatch both.1⟩
  | ensure place wanted =>
      unfold loaderAnswer?
      rw [Operation.ensure.injEq, found, Option.bind_some]
      change (if place = index ∧ wanted = id then gate.loaderAnswer? workshop.core id else none) =
        some answer ↔ _
      by_cases here : place = index ∧ wanted = id
      · rw [if_pos here, and_iff_right here]
      · rw [if_neg here]
        exact ⟨nofun, fun both => absurd both.1 here⟩

theorem met_of_loaderAnswer? (found : workshop.gates[index]? = some gate) {operation : Operation κ}
    {answer : Except Error Unit} (answered : workshop.loaderAnswer? index id operation = some answer)
    (succeeded : answer.isOk = true) :
    operation = .ensure index id ∧ (workshop.ensure index id).2 = .ok true := by
  obtain ⟨demanded, own⟩ := (loaderAnswer?_eq_some_iff found operation answer).mp answered
  obtain ⟨loader, ran, rfl⟩ := Option.map_eq_some_iff.mp own
  have meeting := gate.meeting_ensure workshop.core id
  rw [ran] at meeting
  refine ⟨demanded, ?_⟩
  rw [ensure_eq found]
  cases loaded : (loader workshop.core).2 with
  | error cause =>
      rw [loaded] at succeeded
      cases succeeded
  | ok done => exact meeting.answer_of_succeeded loaded

private theorem loaderAnswer?_of_available (found : workshop.gates[index]? = some gate)
    (available : gate.isAvailable id = true) (operation : Operation κ) :
    workshop.loaderAnswer? index id operation = none := by
  refine Option.eq_none_iff_forall_ne_some.mpr fun answer answered => ?_
  have own := ((loaderAnswer?_eq_some_iff found operation answer).mp answered).2
  have idle := ((gate.meeting_ensure workshop.core id).of_available available).1
  rw [Gate.loaderAnswer?, idle] at own
  cases own

private theorem loaderAnswers_of_available (found : workshop.gates[index]? = some gate)
    (available : gate.isAvailable id = true) (operations : List (Operation κ)) :
    workshop.loaderAnswers index id operations = [] := by
  induction operations generalizing workshop gate with
  | nil => rfl
  | cons operation rest ih =>
      obtain ⟨next, foundNext, _loaders, grown⟩ := gate_step found operation
      rw [loaderAnswers, loaderAnswer?_of_available found available,
        ih foundNext ((grown id).mpr (Or.inl available))]
      rfl

private theorem countP_loaderAnswers_le (found : workshop.gates[index]? = some gate)
    (operations : List (Operation κ)) :
    (workshop.loaderAnswers index id operations).countP Except.isOk ≤ 1 := by
  induction operations generalizing workshop gate with
  | nil => exact Nat.zero_le 1
  | cons operation rest ih =>
      obtain ⟨next, foundNext, _loaders, grown⟩ := gate_step found operation
      have later := ih foundNext
      rw [loaderAnswers]
      cases answered : workshop.loaderAnswer? index id operation with
      | none => exact later
      | some answer =>
          cases succeeded : answer.isOk with
          | false =>
              rw [Option.toList_some, List.singleton_append,
                List.countP_cons_of_neg (Bool.eq_false_iff.mp succeeded)]
              exact later
          | true =>
              -- From a success on the gate has the grammar, and the loader is left alone.
              have met := met_of_loaderAnswer? found answered succeeded
              rw [loaderAnswers_of_available foundNext ((grown id).mpr (Or.inr met)), List.append_nil]
              exact List.countP_le_length

/-- A gate has the grammars that the tokenizer had when it was opened and those that it was asked for with
success since then. What it has it keeps, and gives without running a loader or touching anything; what it
neither has nor can load it turns down for good; and no loader of it succeeds twice for a grammar. -/
theorem run_availability (workshop : Workshop κ) (loaders : List (String × Loader κ))
    (operations later : List (Operation κ)) (id : String) :
    let index := workshop.gates.length
    let opened := workshop.addGate loaders
    let final := opened.run (operations ++ later)
    ∃ gate next, (opened.run operations).gates[index]? = some gate ∧
      final.gates[index]? = some next ∧
      (gate.isAvailable id = true ↔
        id ∈ Tokenizer.grammars workshop.core ∨ opened.Met operations index id) ∧
      (gate.isAvailable id = true →
        next.isAvailable id = true ∧ next.loaderRun? final.core id = none ∧
          final.ensure index id = (final, .ok true)) ∧
      (gate.isAvailable id = false → id ∉ loaders.map Prod.fst →
        next.isAvailable id = false ∧ next.loaderRun? final.core id = none ∧
          final.ensure index id = (final, .ok false)) ∧
      (opened.loaderAnswers index id operations).countP Except.isOk ≤ 1 := by
  intro index opened final
  have placed : opened.gates[index]? = some (.ofLoaders workshop.core loaders) :=
    List.getElem?_concat_length
  obtain ⟨gate, found, sameTable, reached⟩ := gate_run placed operations
  obtain ⟨next, foundNext, sameLoaders, grown⟩ := gate_run found later
  have settled : final = (opened.run operations).run later := run_append opened operations later
  rw [← settled] at foundNext
  have meeting := next.meeting_ensure final.core id
  refine ⟨gate, next, found, foundNext, ?_, ?_, ?_, countP_loaderAnswers_le placed operations⟩
  · rw [reached, Gate.isAvailable_ofLoaders]
  · intro available
    have kept : next.isAvailable id = true := (grown id).mpr (Or.inl available)
    obtain ⟨idle, same⟩ := meeting.of_available kept
    exact ⟨kept, idle, ensure_unchanged foundNext same⟩
  · intro unavailable missing
    have absent : gate.loaders.find? id = none := by
      rw [sameTable]
      exact LoaderTable.find?_ofList_eq_none missing
    have still : next.isAvailable id = false := by
      rw [← Bool.not_eq_true, grown, not_or]
      exact ⟨Bool.eq_false_iff.mp unavailable, not_met_of_missing found unavailable absent later⟩
    obtain ⟨idle, same⟩ := meeting.of_missing still (sameLoaders ▸ absent)
    exact ⟨still, idle, ensure_unchanged foundNext same⟩

end Workshop

end BracketDecoration.Grammar
