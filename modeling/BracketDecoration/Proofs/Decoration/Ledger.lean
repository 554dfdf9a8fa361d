import BracketDecoration.Proofs.Decoration.Actions
import Mathlib.Data.List.Nodup

/-!
Logs that keep the books of engines. A ledger is a log that grows by three kinds of events, together with the
number of the last engine and the engines that are alive. What is true of every ledger is shown here without
any manager: how engines are numbered, what each of them goes through, and which are alive.
-/

namespace BracketDecoration.Decoration

theorem Delivery.event_engine (delivery : Delivery) (engine : Nat) :
    (delivery.event engine).engine = engine := by
  cases delivery with
  | refresh => rfl
  | edits changes => rfl

namespace Event

def createdEngine? : Event → Option Nat
  | .created engine _ _ => some engine
  | _ => none

def isCreation (event : Event) : Bool := event.createdEngine?.isSome

def isDisposal : Event → Bool
  | .disposed _ => true
  | _ => false

end Event

def eventsOf (engine : Nat) (events : List Event) : List Event :=
  events.filter fun event => event.engine = engine

theorem mem_eventsOf {engine : Nat} {event : Event} {events : List Event} :
    event ∈ eventsOf engine events ↔ event ∈ events ∧ event.engine = engine := by
  rw [eventsOf, List.mem_filter, decide_eq_true_iff]

theorem eventsOf_append (engine : Nat) (first second : List Event) :
    eventsOf engine (first ++ second) = eventsOf engine first ++ eventsOf engine second :=
  List.filter_append first second

theorem eventsOf_concat_self {engine : Nat} {event : Event} (own : event.engine = engine)
    (events : List Event) : eventsOf engine (events ++ [event]) = eventsOf engine events ++ [event] := by
  rw [eventsOf_append]
  congr 1
  exact List.filter_eq_self.mpr fun other member => by
    rw [List.mem_singleton.mp member]
    exact decide_eq_true own

theorem eventsOf_concat_other {engine : Nat} {event : Event} (foreign : event.engine ≠ engine)
    (events : List Event) : eventsOf engine (events ++ [event]) = eventsOf engine events := by
  rw [eventsOf_append]
  have none_own : eventsOf engine [event] = [] := List.filter_eq_nil_iff.mpr fun other member => by
    rw [List.mem_singleton.mp member]
    exact fun own => foreign (of_decide_eq_true own)
  rw [none_own, List.append_nil]

/-- The life of an engine in events: its making, what it was told, and its disposal if that has come. -/
inductive Lifetime (engine : Nat) : List Event → Prop where
  | running (uri grammar : String) (deliveries : List Delivery) :
      Lifetime engine
        (.created engine uri grammar :: deliveries.map fun delivery => delivery.event engine)
  | ended (uri grammar : String) (deliveries : List Delivery) :
      Lifetime engine
        (.created engine uri grammar ::
          deliveries.map (fun delivery => delivery.event engine) ++ [.disposed engine])

def Lives (log : List Event) (engine : Nat) (uri : String) : Prop :=
  (∃ grammar, .created engine uri grammar ∈ log) ∧ .disposed engine ∉ log

/-- An engine and the written address of the document that it was made for. -/
structure Holding where
  engine : Nat
  uri : String
deriving DecidableEq, Repr

/-- The logs of engines with numbers beyond `first`, each with the number of the last engine and the engines
that it leaves alive. An engine is made only for an address that no other has, and only living engines are
told something or disposed. -/
inductive Ledger (first : Nat) : List Event → Nat → List Holding → Prop where
  | start : Ledger first [] first []
  | make {events : List Event} {last : Nat} {alive : List Holding} (uri grammar : String)
      (ledger : Ledger first events last alive) (free : ∀ holding ∈ alive, holding.uri ≠ uri) :
      Ledger first (events ++ [.created (last + 1) uri grammar]) (last + 1)
        (alive ++ [⟨last + 1, uri⟩])
  | tell {events : List Event} {last : Nat} {alive : List Holding} (holding : Holding)
      (delivery : Delivery) (ledger : Ledger first events last alive) (living : holding ∈ alive) :
      Ledger first (events ++ [delivery.event holding.engine]) last alive
  | dispose {events : List Event} {last : Nat} {alive : List Holding} (holding : Holding)
      (ledger : Ledger first events last alive) (living : holding ∈ alive) :
      Ledger first (events ++ [.disposed holding.engine]) last
        (alive.filter fun other => other ≠ holding)

namespace Ledger

variable {first last : Nat} {events : List Event} {alive : List Holding}

theorem first_le_last (ledger : Ledger first events last alive) : first ≤ last := by
  induction ledger with
  | start => exact Nat.le_refl first
  | make uri grammar ledger free ih => exact Nat.le_succ_of_le ih
  | tell holding delivery ledger living ih => exact ih
  | dispose holding ledger living ih => exact ih

theorem created_in_order (ledger : Ledger first events last alive) :
    events.filterMap Event.createdEngine? = List.range' (first + 1) (last - first) := by
  induction ledger with
  | start => rw [Nat.sub_self]; rfl
  | @make events last alive uri grammar ledger free ih =>
      have bound := ledger.first_le_last
      have next : first + 1 + (last - first) = last + 1 := by omega
      rw [List.filterMap_append, ih, Nat.succ_sub bound, List.range'_concat, Nat.one_mul, next]
      rfl
  | tell holding delivery ledger living ih =>
      rw [List.filterMap_append, ih]
      cases delivery with
      | refresh => exact List.append_nil _
      | edits changes => exact List.append_nil _
  | dispose holding ledger living ih =>
      rw [List.filterMap_append, ih]
      exact List.append_nil _

theorem numbered (ledger : Ledger first events last alive) :
    ∀ holding ∈ alive, first < holding.engine ∧ holding.engine ≤ last := by
  induction ledger with
  | start =>
      intro holding member
      cases member
  | make uri grammar ledger free ih =>
      have bound := ledger.first_le_last
      intro holding member
      rcases List.mem_append.mp member with older | newest
      · have range := ih holding older
        omega
      · rw [List.mem_singleton.mp newest]
        change first < _ + 1 ∧ _ + 1 ≤ _ + 1
        omega
  | tell holding delivery ledger living ih => exact ih
  | dispose holding ledger living ih =>
      intro other member
      exact ih other (List.mem_filter.mp member).1

theorem engines_distinct (ledger : Ledger first events last alive) :
    (alive.map Holding.engine).Nodup := by
  induction ledger with
  | start => exact List.nodup_nil
  | make uri grammar ledger free ih =>
      rw [List.map_append]
      refine List.nodup_append.mpr ⟨ih, List.nodup_singleton _, ?_⟩
      intro engine older newest fresh same
      obtain ⟨holding, member, rfl⟩ := List.mem_map.mp older
      have bound := (ledger.numbered holding member).2
      have number := List.mem_singleton.mp fresh
      rw [← same] at number
      change holding.engine = _ + 1 at number
      omega
  | tell holding delivery ledger living ih => exact ih
  | dispose holding ledger living ih =>
      exact ih.sublist (List.filter_sublist.map Holding.engine)

theorem uris_distinct (ledger : Ledger first events last alive) : (alive.map Holding.uri).Nodup := by
  induction ledger with
  | start => exact List.nodup_nil
  | make uri grammar ledger free ih =>
      rw [List.map_append]
      refine List.nodup_append.mpr ⟨ih, List.nodup_singleton _, ?_⟩
      intro held older newest fresh same
      obtain ⟨holding, member, rfl⟩ := List.mem_map.mp older
      exact free holding member (same.trans (List.mem_singleton.mp fresh))
  | tell holding delivery ledger living ih => exact ih
  | dispose holding ledger living ih =>
      exact ih.sublist (List.filter_sublist.map Holding.uri)

private theorem eq_of_engine_eq (ledger : Ledger first events last alive) {left right : Holding}
    (leftLives : left ∈ alive) (rightLives : right ∈ alive) (same : left.engine = right.engine) :
    left = right :=
  List.inj_on_of_nodup_map ledger.engines_distinct leftLives rightLives same

theorem eventsOf_unmade (ledger : Ledger first events last alive) {engine : Nat}
    (unmade : engine ≤ first ∨ last < engine) : eventsOf engine events = [] := by
  induction ledger with
  | start => rfl
  | make uri grammar ledger free ih =>
      have bound := ledger.first_le_last
      rw [eventsOf_concat_other, ih (by omega)]
      change _ + 1 ≠ engine
      omega
  | tell holding delivery ledger living ih =>
      have range := ledger.numbered holding living
      rw [eventsOf_concat_other, ih unmade]
      rw [delivery.event_engine]
      omega
  | dispose holding ledger living ih =>
      have range := ledger.numbered holding living
      rw [eventsOf_concat_other, ih unmade]
      change holding.engine ≠ engine
      omega

theorem eventsOf_living (ledger : Ledger first events last alive) (holding : Holding)
    (living : holding ∈ alive) :
    ∃ (grammar : String) (deliveries : List Delivery), eventsOf holding.engine events =
      .created holding.engine holding.uri grammar ::
        deliveries.map fun delivery => delivery.event holding.engine := by
  induction ledger with
  | start => cases living
  | @make events last alive uri grammar ledger free ih =>
      rcases List.mem_append.mp living with older | newest
      · have bound := (ledger.numbered holding older).2
        rw [eventsOf_concat_other]
        · exact ih older
        · change last + 1 ≠ holding.engine
          omega
      · rw [List.mem_singleton.mp newest]
        have own : (Event.created (last + 1) uri grammar).engine = last + 1 := rfl
        have unmade := ledger.eventsOf_unmade (Or.inr (Nat.lt_succ_self last))
        refine ⟨grammar, [], ?_⟩
        change eventsOf (last + 1) _ = _
        rw [eventsOf_concat_self own, unmade]
        rfl
  | tell addressee delivery ledger known ih =>
      obtain ⟨grammar, deliveries, shape⟩ := ih living
      by_cases own : addressee.engine = holding.engine
      · refine ⟨grammar, deliveries ++ [delivery], ?_⟩
        rw [own, eventsOf_concat_self (delivery.event_engine _), shape, List.map_append]
        rfl
      · refine ⟨grammar, deliveries, ?_⟩
        rw [eventsOf_concat_other _ _, shape]
        rw [delivery.event_engine]
        exact own
  | dispose disposed ledger known ih =>
      obtain ⟨member, different⟩ := List.mem_filter.mp living
      rw [eventsOf_concat_other]
      · exact ih member
      · intro own
        exact of_decide_eq_true different (ledger.eq_of_engine_eq known member own).symm

theorem eventsOf_gone (ledger : Ledger first events last alive) {engine : Nat}
    (lower : first < engine) (upper : engine ≤ last)
    (gone : ∀ holding ∈ alive, holding.engine ≠ engine) :
    ∃ (uri grammar : String) (deliveries : List Delivery), eventsOf engine events =
      .created engine uri grammar :: deliveries.map (fun delivery => delivery.event engine) ++
        [.disposed engine] := by
  induction ledger with
  | start => omega
  | @make events last alive uri grammar ledger free ih =>
      have other : last + 1 ≠ engine :=
        gone ⟨last + 1, uri⟩ (List.mem_append_right _ List.mem_cons_self)
      rw [eventsOf_concat_other]
      · exact ih (by omega) fun holding member => gone holding (List.mem_append_left _ member)
      · exact other
  | tell holding delivery ledger living ih =>
      rw [eventsOf_concat_other]
      · exact ih upper gone
      · rw [delivery.event_engine]
        exact gone holding living
  | dispose holding ledger living ih =>
      -- This is the disposal of the engine itself, or that one came before.
      by_cases own : holding.engine = engine
      · obtain ⟨grammar, deliveries, shape⟩ := ledger.eventsOf_living holding living
        rw [own] at shape ⊢
        have last_event : (Event.disposed engine).engine = engine := rfl
        exact ⟨holding.uri, grammar, deliveries, by rw [eventsOf_concat_self last_event, shape]⟩
      · rw [eventsOf_concat_other (by exact own)]
        refine ih upper fun other member => ?_
        by_cases same : other = holding
        · rw [same]
          exact own
        · exact gone other (List.mem_filter.mpr ⟨member, decide_eq_true same⟩)

theorem nodup (ledger : Ledger first events last alive) : alive.Nodup :=
  ledger.engines_distinct.of_map Holding.engine

theorem balance (ledger : Ledger first events last alive) :
    alive.length + events.countP Event.isDisposal = events.countP Event.isCreation := by
  induction ledger with
  | start => rfl
  | make uri grammar ledger free ih =>
      rw [List.length_append, List.countP_append, List.countP_append]
      change _ + 1 + (_ + 0) = _ + 1
      omega
  | tell holding delivery ledger living ih =>
      rw [List.countP_append, List.countP_append, ← ih]
      cases delivery with
      | refresh => rfl
      | edits changes => rfl
  | @dispose events last alive holding ledger living ih =>
      have taken : (alive.filter fun other => other ≠ holding).length + 1 = alive.length := by
        have erased : alive.erase holding = alive.filter fun other => other ≠ holding := by
          rw [ledger.nodup.erase_eq_filter]
          refine List.filter_congr fun other _member => Bool.eq_iff_iff.mpr ?_
          rw [bne_iff_ne, decide_eq_true_iff]
        rw [← erased]
        exact List.length_erase_add_one living
      rw [List.countP_append, List.countP_append, ← ih]
      change _ + (_ + 1) = _ + 0
      omega

theorem made_of_mem (ledger : Ledger first events last alive) {event : Event}
    (member : event ∈ events) : first < event.engine ∧ event.engine ≤ last := by
  by_contra outside
  have own : event ∈ eventsOf event.engine events := mem_eventsOf.mpr ⟨member, rfl⟩
  rw [ledger.eventsOf_unmade (by omega)] at own
  cases own

theorem lives_iff (ledger : Ledger first events last alive) (engine : Nat) (uri : String) :
    Lives events engine uri ↔ ⟨engine, uri⟩ ∈ alive := by
  constructor
  · rintro ⟨⟨grammar, created⟩, undisposed⟩
    have own : .created engine uri grammar ∈ eventsOf engine events :=
      mem_eventsOf.mpr ⟨created, rfl⟩
    have made : first < engine ∧ engine ≤ last := ledger.made_of_mem created
    by_cases living : ∃ holding ∈ alive, holding.engine = engine
    · obtain ⟨holding, member, rfl⟩ := living
      obtain ⟨_grammar, deliveries, shape⟩ := ledger.eventsOf_living holding member
      rw [shape] at own
      rcases List.mem_cons.mp own with same | delivered
      · cases same
        exact member
      · cases isDelivery_of_mem delivered
    · have gone : ∀ holding ∈ alive, holding.engine ≠ engine :=
        fun holding member same => living ⟨holding, member, same⟩
      obtain ⟨_uri, _grammar, deliveries, shape⟩ := ledger.eventsOf_gone made.1 made.2 gone
      have disposed : .disposed engine ∈ eventsOf engine events := by
        rw [shape]
        exact List.mem_append_right _ List.mem_cons_self
      exact absurd (mem_eventsOf.mp disposed).1 undisposed
  · intro living
    obtain ⟨grammar, deliveries, shape⟩ := ledger.eventsOf_living ⟨engine, uri⟩ living
    constructor
    · have created : .created engine uri grammar ∈ eventsOf engine events := by
        rw [shape]
        exact List.mem_cons_self
      exact ⟨grammar, (mem_eventsOf.mp created).1⟩
    · intro disposed
      have own : .disposed engine ∈ eventsOf engine events := mem_eventsOf.mpr ⟨disposed, rfl⟩
      rw [shape] at own
      rcases List.mem_cons.mp own with same | delivered
      · cases same
      · cases isDelivery_of_mem delivered

theorem one_per_uri (ledger : Ledger first events last alive) {left right : Nat} {uri : String}
    (leftLives : Lives events left uri) (rightLives : Lives events right uri) : left = right := by
  have same := List.inj_on_of_nodup_map ledger.uris_distinct
    ((ledger.lives_iff left uri).mp leftLives) ((ledger.lives_iff right uri).mp rightLives) rfl
  exact congrArg Holding.engine same

theorem lifetime (ledger : Ledger first events last alive) {engine : Nat} (lower : first < engine)
    (upper : engine ≤ last) : Lifetime engine (eventsOf engine events) := by
  by_cases living : ∃ holding ∈ alive, holding.engine = engine
  · obtain ⟨holding, member, rfl⟩ := living
    obtain ⟨grammar, deliveries, shape⟩ := ledger.eventsOf_living holding member
    rw [shape]
    exact .running holding.uri grammar deliveries
  · have gone : ∀ holding ∈ alive, holding.engine ≠ engine :=
      fun holding member same => living ⟨holding, member, same⟩
    obtain ⟨uri, grammar, deliveries, shape⟩ := ledger.eventsOf_gone lower upper gone
    rw [shape]
    exact .ended uri grammar deliveries

theorem tell_maybe (ledger : Ledger first events last alive) (holding : Holding)
    (delivery : Option Delivery) (living : holding ∈ alive) :
    Ledger first (events ++ told holding.engine delivery) last alive := by
  cases delivery with
  | none => exact (List.append_nil events).symm ▸ ledger
  | some delivery => exact ledger.tell holding delivery living

theorem dispose_all (ledger : Ledger first events last alive) {disposed : List Holding}
    (everyone : disposed.Perm alive) :
    Ledger first (events ++ disposed.map fun holding => .disposed holding.engine) last [] := by
  -- Disposing one of the living leaves the others, since no other equals it.
  induction disposed generalizing events alive with
  | nil =>
      rw [List.nil_perm.mp everyone] at ledger
      exact (List.append_nil events).symm ▸ ledger
  | cons holding rest ih =>
      have living : holding ∈ alive := everyone.subset List.mem_cons_self
      have unlike : holding ∉ rest := (List.nodup_cons.mp (everyone.nodup_iff.mpr ledger.nodup)).1
      have kept : (holding :: rest).filter (fun other => other ≠ holding) = rest := by
        rw [List.filter_cons_of_neg (by simp only [ne_eq, not_true_eq_false, decide_false,
          Bool.false_eq_true, not_false_eq_true])]
        refine List.filter_eq_self.mpr fun other member => decide_eq_true ?_
        intro same
        exact unlike (same ▸ member)
      have others : rest.Perm (alive.filter fun other => other ≠ holding) := by
        have filtered := everyone.filter fun other => other ≠ holding
        rwa [kept] at filtered
      rw [List.map_cons, List.append_cons]
      exact ih (ledger.dispose holding living) others

end Ledger

end BracketDecoration.Decoration
