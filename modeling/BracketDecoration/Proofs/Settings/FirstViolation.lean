import BracketDecoration.Proofs.Settings.FirstFault
import BracketDecoration.Proofs.Text.Casing

/-!
Which layers make settings, and what is wrong with the others. Defaults stand in for all that a layer leaves
unset, and the values then have to meet a row of conditions. If they do, the settings carry exactly these values;
if not, the fault is that of the first condition that is not met.
-/

namespace BracketDecoration.Settings

/-- All that settings are made of. The mode is given by its name. -/
structure Values where
  colors : List String
  unmatchedColor : String
  colorMode : String
  forceUniqueOpeningColor : Bool
  forceIterationColorCycle : Bool
  highlightActiveScope : Bool
  timeout : Int
  pairs : List Pair
deriving DecidableEq, Repr

def Layer.values (layer : Layer) : Values where
  colors := layer.colors.getD defaultColors
  unmatchedColor := layer.unmatchedColor.getD defaultUnmatchedColor
  colorMode := layer.colorMode.getD ColorMode.consecutive.name
  forceUniqueOpeningColor := layer.forceUniqueOpeningColor.getD false
  forceIterationColorCycle := layer.forceIterationColorCycle.getD false
  highlightActiveScope := layer.highlightActiveScope.getD false
  timeout := layer.timeout.getD defaultTimeout
  pairs := layer.pairs.getD defaultPairs

/-- The text is the name of the mode, but for the case of its ASCII letters. -/
def ColorMode.NamedBy (mode : ColorMode) (written : String) : Prop :=
  written.toList.map Char.toLower = mode.name.toList

/-- The first check that a pair fails which stands behind the earlier ones. -/
inductive Pair.Flawed (earlier : List Pair) (pair : Pair) : PairFault → Prop where
  | emptyToken (hollow : pair.opening = "" ∨ pair.closing = "") : Flawed earlier pair .emptyToken
  | sameTokens (opened : pair.opening ≠ "") (closed : pair.closing ≠ "")
      (same : pair.opening = pair.closing) : Flawed earlier pair .sameTokens
  | openingTaken (proper : pair.Proper) (other : Pair) (before : other ∈ earlier)
      (repeated : other.opening = pair.opening) : Flawed earlier pair .openingTaken

/-- The pair at the index is bad by itself, or has the opening of a pair before it. -/
def BadPair (pairs : List Pair) (index : Nat) (fault : PairFault) : Prop :=
  ∃ pair, pairs[index]? = some pair ∧ pair.Flawed (pairs.take index) fault

structure ColorsInOrder (colors : List String) : Prop where
  colored : colors ≠ []
  each : ∀ color ∈ colors, ColorSyntax color.toList

structure PairsInOrder (pairs : List Pair) : Prop where
  paired : pairs ≠ []
  each : ∀ pair ∈ pairs, pair.Proper
  openings : (pairs.map Pair.opening).Nodup

structure Values.InOrder (values : Values) : Prop where
  colors : ColorsInOrder values.colors
  unmatchedColor : ColorSyntax values.unmatchedColor.toList
  colorMode : ∃ mode : ColorMode, mode.NamedBy values.colorMode
  timeout : 0 ≤ values.timeout ∧ values.timeout ≤ 10000
  pairs : PairsInOrder values.pairs

inductive ColorsFault (colors : List String) : Error → Prop where
  | noColors (colorless : colors = []) : ColorsFault colors .noColors
  | badColor (before : List String) (color : String) (after : List String)
      (placed : colors = before ++ color :: after)
      (earlier : ∀ other ∈ before, ColorSyntax other.toList) (malformed : ¬ColorSyntax color.toList) :
      ColorsFault colors (.badColor color)

inductive PairsFault (pairs : List Pair) : Error → Prop where
  | noPairs (unpaired : pairs = []) : PairsFault pairs .noPairs
  | badPair (index : Nat) (fault : PairFault) (bad : BadPair pairs index fault)
      (least : ∀ earlier < index, ∀ other, ¬BadPair pairs earlier other) :
      PairsFault pairs (.badPair index fault)

/-- The fault of the first condition that the values do not meet. -/
inductive Values.FirstViolation (values : Values) : Error → Prop where
  | colors {fault : Error} (found : ColorsFault values.colors fault) : FirstViolation values fault
  | unmatchedColor (colors : ColorsInOrder values.colors)
      (malformed : ¬ColorSyntax values.unmatchedColor.toList) :
      FirstViolation values (.badColor values.unmatchedColor)
  | colorMode (colors : ColorsInOrder values.colors)
      (unmatchedColor : ColorSyntax values.unmatchedColor.toList)
      (unknown : ∀ mode : ColorMode, ¬mode.NamedBy values.colorMode) :
      FirstViolation values (.badColorMode (Text.lowercase values.colorMode))
  | timeout (colors : ColorsInOrder values.colors)
      (unmatchedColor : ColorSyntax values.unmatchedColor.toList)
      (colorMode : ∃ mode : ColorMode, mode.NamedBy values.colorMode)
      (outside : values.timeout < 0 ∨ 10000 < values.timeout) :
      FirstViolation values (.timeoutOutOfRange values.timeout)
  | pairs {fault : Error} (colors : ColorsInOrder values.colors)
      (unmatchedColor : ColorSyntax values.unmatchedColor.toList)
      (colorMode : ∃ mode : ColorMode, mode.NamedBy values.colorMode)
      (timeout : 0 ≤ values.timeout ∧ values.timeout ≤ 10000)
      (found : PairsFault values.pairs fault) : FirstViolation values fault

structure Snapshot.Carries (settings : Snapshot) (grammar : String) (values : Values) : Prop where
  grammar : settings.grammar = grammar
  colors : settings.colors = values.colors
  unmatchedColor : settings.unmatchedColor = values.unmatchedColor
  colorMode : settings.colorMode.NamedBy values.colorMode
  forceUniqueOpeningColor : settings.forceUniqueOpeningColor = values.forceUniqueOpeningColor
  forceIterationColorCycle : settings.forceIterationColorCycle = values.forceIterationColorCycle
  highlightActiveScope : settings.highlightActiveScope = values.highlightActiveScope
  timeout : (settings.timeout : Int) = values.timeout
  pairs : settings.pairs = values.pairs

theorem decided_checkColor (color : String) :
    Decided (checkColor color) (ColorSyntax color.toList) fun fault =>
      ¬ColorSyntax color.toList ∧ .badColor color = fault := by
  rw [← isColor_iff]
  exact .ite (isColor color = true) () (.badColor color)

theorem decided_checkColors (colors : List String) :
    Decided (checkColors colors) (ColorsInOrder colors) (ColorsFault colors) := by
  unfold checkColors
  refine (Decided.refuseIf .noColors fun _colored => .forM decided_checkColor colors).congr ?_ fun fault => ?_
  · rw [List.isEmpty_iff]
    exact ⟨fun ⟨colored, each⟩ => ⟨colored, each⟩, fun ⟨colored, each⟩ => ⟨colored, each⟩⟩
  · rw [List.isEmpty_iff]
    constructor
    · rintro (⟨colorless, rfl⟩ | ⟨_colored, before, color, after, placed, earlier, malformed, rfl⟩)
      · exact .noColors colorless
      · exact .badColor before color after placed earlier malformed
    · rintro (colorless | ⟨before, color, after, placed, earlier, malformed⟩)
      · exact Or.inl ⟨colorless, rfl⟩
      · refine Or.inr ⟨?_, before, color, after, placed, earlier, malformed, rfl⟩
        rw [placed]
        exact List.append_ne_nil_of_right_ne_nil before (List.cons_ne_nil color after)

namespace ColorMode

variable {mode : ColorMode} {written : String}

theorem lowercase_eq_name_iff (mode : ColorMode) (written : String) :
    Text.lowercase written = mode.name ↔ mode.NamedBy written := by
  have plain : (mode.name.toList.all fun letter => Text.isForeign letter == false) = true := by
    cases mode with
    | consecutive | independent => decide
  exact Text.lowercase_eq_iff (fun letter member => eq_of_beq (List.all_eq_true.mp plain letter member)) written

theorem ofName_of_namedBy (named : mode.NamedBy written) : ofName written = .ok mode := by
  have lowered := (lowercase_eq_name_iff mode written).mpr named
  unfold ofName
  cases mode with
  | consecutive => exact if_pos lowered
  | independent =>
      have other : Text.lowercase written ≠ "consecutive" := by
        rw [lowered]
        decide
      rw [if_neg other]
      exact if_pos lowered

private theorem ofName_of_unknown (unknown : ∀ mode : ColorMode, ¬mode.NamedBy written) :
    ofName written = .error (.badColorMode (Text.lowercase written)) := by
  have unlike (mode : ColorMode) : Text.lowercase written ≠ mode.name :=
    fun lowered => unknown mode ((lowercase_eq_name_iff mode written).mp lowered)
  unfold ofName
  exact (if_neg (unlike .consecutive)).trans (if_neg (unlike .independent))

theorem decided_ofName (written : String) :
    Decided (ofName written) (∃ mode : ColorMode, mode.NamedBy written) fun fault =>
      (∀ mode : ColorMode, ¬mode.NamedBy written) ∧
        .badColorMode (Text.lowercase written) = fault := by
  by_cases known : ∃ mode : ColorMode, mode.NamedBy written
  · obtain ⟨mode, named⟩ := known
    rw [ofName_of_namedBy named]
    exact (Decided.ok mode).congr (iff_of_true trivial ⟨mode, named⟩) fun _fault =>
      ⟨False.elim, fun unknown => unknown.1 mode named⟩
  · have unknown := not_exists.mp known
    rw [ofName_of_unknown unknown]
    exact .error known fun _fault => (and_iff_right unknown).symm

private theorem namedBy_of_ofName (known : ofName written = .ok mode) : mode.NamedBy written := by
  obtain ⟨other, named⟩ := (decided_ofName written).accepted.mp ⟨mode, known⟩
  rw [ofName_of_namedBy named] at known
  cases known
  exact named

theorem NamedBy.unique {other : ColorMode} (named : mode.NamedBy written)
    (also : other.NamedBy written) : mode = other := by
  have same := ofName_of_namedBy named
  rw [ofName_of_namedBy also] at same
  exact (Except.ok.inj same).symm

end ColorMode

theorem decided_checkTimeout (timeout : Int) :
    Decided (checkTimeout timeout) (0 ≤ timeout ∧ timeout ≤ 10000) fun fault =>
      (timeout < 0 ∨ 10000 < timeout) ∧ .timeoutOutOfRange timeout = fault := by
  unfold checkTimeout maxTimeout
  refine (Decided.refuseIf _ fun _inside => .ok ()).congr ?_ fun fault => ?_
  · rw [and_true]
    omega
  · rw [and_false, or_false]

theorem pairFault?_eq_some_iff (earlier : List Pair) (pair : Pair) (fault : PairFault) :
    pairFault? earlier pair = some fault ↔ pair.Flawed earlier fault := by
  unfold pairFault?
  constructor
  · intro found
    split at found
    · rename_i hollow
      cases found
      simp only [Bool.or_eq_true, decide_eq_true_eq] at hollow
      exact .emptyToken hollow
    · rename_i filled
      simp only [Bool.or_eq_true, decide_eq_true_eq, not_or] at filled
      split at found
      · rename_i same
        cases found
        exact .sameTokens filled.1 filled.2 same
      · rename_i distinct
        split at found
        · rename_i taken
          cases found
          obtain ⟨other, before, repeated⟩ := List.any_eq_true.mp taken
          exact .openingTaken ⟨filled.1, filled.2, distinct⟩ other before (of_decide_eq_true repeated)
        · cases found
  · intro flawed
    cases flawed with
    | emptyToken hollow =>
        rw [if_pos (by simpa only [Bool.or_eq_true, decide_eq_true_eq] using hollow)]
    | sameTokens opened closed same =>
        rw [if_neg (by simp only [opened, closed, decide_false, Bool.or_self, Bool.false_eq_true,
          not_false_eq_true]), if_pos same]
    | openingTaken proper other before repeated =>
        rw [if_neg (by simp only [proper.opened, proper.closed, decide_false, Bool.or_self,
          Bool.false_eq_true, not_false_eq_true]), if_neg proper.distinct,
          if_pos (List.any_eq_true.mpr ⟨other, before, decide_eq_true repeated⟩)]

theorem badPair_length_iff (earlier rest : List Pair) (pair : Pair) (fault : PairFault) :
    BadPair (earlier ++ pair :: rest) earlier.length fault ↔ pair.Flawed earlier fault := by
  unfold BadPair
  rw [List.getElem?_append_right (Nat.le_refl _), Nat.sub_self, List.take_left]
  exact ⟨fun ⟨_pair, same, flawed⟩ => Option.some.inj same ▸ flawed, fun flawed => ⟨pair, rfl, flawed⟩⟩

structure FirstBadPair (pairs : List Pair) (start index : Nat) (fault : PairFault) : Prop where
  reached : start ≤ index
  bad : BadPair pairs index fault
  least : ∀ before, start ≤ before → before < index → ∀ other, ¬BadPair pairs before other

private theorem firstBadPair_of_bad {pairs : List Pair} {start : Nat} {flaw : PairFault}
    (bad : BadPair pairs start flaw) (index : Nat) (fault : PairFault) :
    FirstBadPair pairs start index fault ↔ start = index ∧ BadPair pairs start fault := by
  constructor
  · rintro ⟨reached, found, least⟩
    have same : start = index := by
      refine Nat.le_antisymm reached (Nat.le_of_not_lt fun further => ?_)
      exact least start (Nat.le_refl start) further flaw bad
    subst same
    exact ⟨rfl, found⟩
  · rintro ⟨rfl, found⟩
    exact ⟨Nat.le_refl start, found, fun before reached less => by omega⟩

private theorem firstBadPair_of_sound {pairs : List Pair} {start : Nat}
    (sound : ∀ flaw, ¬BadPair pairs start flaw) (index : Nat) (fault : PairFault) :
    FirstBadPair pairs start index fault ↔ FirstBadPair pairs (start + 1) index fault := by
  constructor
  · rintro ⟨reached, found, least⟩
    have further : start ≠ index := by
      rintro rfl
      exact sound fault found
    exact ⟨by omega, found, fun before later less => least before (by omega) less⟩
  · rintro ⟨reached, found, least⟩
    refine ⟨by omega, found, fun before later less other => ?_⟩
    rcases Nat.eq_or_lt_of_le later with rfl | beyond
    · exact sound other
    · exact least before beyond less other

/-- A pair that is passed joins the earlier ones, so the search goes on from the next index. -/
theorem checkPairsAfter_eq_error_iff (earlier pairs : List Pair) (cause : Error) :
    checkPairsAfter earlier pairs = .error cause ↔
      ∃ index fault, .badPair index fault = cause ∧
        FirstBadPair (earlier ++ pairs) earlier.length index fault := by
  induction pairs generalizing earlier with
  | nil =>
      refine ⟨nofun, ?_⟩
      rintro ⟨index, fault, _cause, reached, ⟨pair, found, _flawed⟩, _least⟩
      rw [List.append_nil, List.getElem?_eq_none reached] at found
      cases found
  | cons pair rest ih =>
      have here := badPair_length_iff earlier rest pair
      simp only [← pairFault?_eq_some_iff] at here
      unfold checkPairsAfter
      cases found : pairFault? earlier pair with
      | some flaw =>
          simp only [firstBadPair_of_bad ((here flaw).mpr found), here, found, Except.error.injEq,
            Option.some.injEq]
          constructor
          · exact fun same => ⟨earlier.length, flaw, same, rfl, rfl⟩
          · rintro ⟨index, fault, same, rfl, rfl⟩
            exact same
      | none =>
          have sound (fault : PairFault) : ¬BadPair (earlier ++ pair :: rest) earlier.length fault := by
            rw [here, found]
            intro impossible
            cases impossible
          change checkPairsAfter (earlier ++ [pair]) rest = .error cause ↔ _
          simp only [firstBadPair_of_sound sound]
          rw [ih, ← List.append_cons, List.length_append, List.length_singleton]

theorem decided_checkPairs (pairs : List Pair) :
    Decided (checkPairs pairs) (PairsInOrder pairs) (PairsFault pairs) where
  accepted := by
    constructor
    · rintro ⟨_done, passed⟩
      obtain ⟨paired, each, openings⟩ := (checkPairs_eq_ok_iff pairs).mp passed
      exact ⟨paired, each, openings⟩
    · rintro ⟨paired, each, openings⟩
      exact ⟨(), (checkPairs_eq_ok_iff pairs).mpr ⟨paired, each, openings⟩⟩
  rejected := by
    intro cause
    unfold checkPairs
    by_cases unpaired : pairs = []
    · subst unpaired
      constructor
      · rintro ⟨⟩
        exact .noPairs rfl
      · rintro (_unpaired | ⟨index, fault, ⟨pair, found, _flawed⟩, _least⟩)
        · rfl
        · cases found
    · rw [if_neg (by rwa [List.isEmpty_iff]), checkPairsAfter_eq_error_iff]
      constructor
      · rintro ⟨index, fault, rfl, _reached, bad, least⟩
        exact .badPair index fault bad fun earlier less => least earlier (Nat.zero_le earlier) less
      · rintro (paired | ⟨index, fault, bad, least⟩)
        · exact absurd paired unpaired
        · exact ⟨index, fault, rfl, Nat.zero_le index, bad, fun earlier _reached less => least earlier less⟩

namespace Snapshot

variable {grammar : String} {layer : Layer} {settings : Snapshot}

theorem modeOf_eq (layer : Layer) : modeOf layer = ColorMode.ofName layer.values.colorMode := by
  unfold modeOf Layer.values
  cases layer.colorMode with
  | some written => rfl
  | none =>
      have named : ColorMode.consecutive.NamedBy ColorMode.consecutive.name := rfl
      exact (ColorMode.ofName_of_namedBy named).symm

theorem decided_ofLayer (grammar : String) (layer : Layer) :
    Decided (ofLayer grammar layer) layer.values.InOrder layer.values.FirstViolation := by
  rw [ofLayer_eq, modeOf_eq]
  refine ((decided_checkColors _).bind fun _ _ => (decided_checkColor _).bind fun _ _ =>
    (ColorMode.decided_ofName _).bind fun mode _ => (decided_checkTimeout _).bind fun _ _ =>
      (decided_checkPairs _).map fun _ => fill grammar layer mode).congr ?_ fun fault => ?_
  · constructor
    · rintro ⟨colors, unmatchedColor, colorMode, timeout, pairs⟩
      exact ⟨colors, unmatchedColor, colorMode, timeout, pairs⟩
    · rintro ⟨colors, unmatchedColor, colorMode, timeout, pairs⟩
      exact ⟨colors, unmatchedColor, colorMode, timeout, pairs⟩
  · constructor
    · rintro (found | ⟨colors, ⟨malformed, rfl⟩ | ⟨unmatchedColor, ⟨unknown, rfl⟩ | ⟨colorMode,
        ⟨outside, rfl⟩ | ⟨timeout, found⟩⟩⟩⟩)
      · exact .colors found
      · exact .unmatchedColor colors malformed
      · exact .colorMode colors unmatchedColor unknown
      · exact .timeout colors unmatchedColor colorMode outside
      · exact .pairs colors unmatchedColor colorMode timeout found
    · intro violation
      cases violation with
      | colors found => exact Or.inl found
      | unmatchedColor colors malformed => exact Or.inr ⟨colors, Or.inl ⟨malformed, rfl⟩⟩
      | colorMode colors unmatchedColor unknown =>
          exact Or.inr ⟨colors, Or.inr ⟨unmatchedColor, Or.inl ⟨unknown, rfl⟩⟩⟩
      | timeout colors unmatchedColor colorMode outside =>
          exact Or.inr ⟨colors, Or.inr ⟨unmatchedColor, Or.inr ⟨colorMode, Or.inl ⟨outside, rfl⟩⟩⟩⟩
      | pairs colors unmatchedColor colorMode timeout found =>
          exact Or.inr ⟨colors, Or.inr ⟨unmatchedColor, Or.inr ⟨colorMode, Or.inr ⟨timeout, found⟩⟩⟩⟩

theorem carries_of_ofLayer (accepted : ofLayer grammar layer = .ok settings) :
    settings.Carries grammar layer.values := by
  have inOrder := (decided_ofLayer grammar layer).accepted.mp ⟨settings, accepted⟩
  rw [ofLayer_eq, modeOf_eq] at accepted
  obtain ⟨_, _colors, accepted⟩ := bind_eq_ok_iff.mp accepted
  obtain ⟨_, _unmatchedColor, accepted⟩ := bind_eq_ok_iff.mp accepted
  obtain ⟨colorMode, known, accepted⟩ := bind_eq_ok_iff.mp accepted
  obtain ⟨_, _timeout, accepted⟩ := bind_eq_ok_iff.mp accepted
  obtain ⟨_, _pairs, filled⟩ := bind_eq_ok_iff.mp accepted
  cases filled
  exact ⟨rfl, rfl, rfl, ColorMode.namedBy_of_ofName known, rfl, rfl, rfl,
    Int.toNat_of_nonneg inOrder.timeout.1, rfl⟩

theorem Carries.unique {values : Values} {other : Snapshot} (carries : settings.Carries grammar values)
    (also : other.Carries grammar values) : settings = other := by
  have colorMode := carries.colorMode.unique also.colorMode
  have timeout : settings.timeout = other.timeout :=
    Int.ofNat_inj.mp (carries.timeout.trans also.timeout.symm)
  cases settings
  cases other
  rw [mk.injEq]
  exact ⟨carries.grammar.trans also.grammar.symm, carries.colors.trans also.colors.symm,
    carries.unmatchedColor.trans also.unmatchedColor.symm, colorMode,
    carries.forceUniqueOpeningColor.trans also.forceUniqueOpeningColor.symm,
    carries.forceIterationColorCycle.trans also.forceIterationColorCycle.symm,
    carries.highlightActiveScope.trans also.highlightActiveScope.symm, timeout,
    carries.pairs.trans also.pairs.symm⟩

/-- Settings are made exactly from the layers whose values are in order, and carry these values. All other layers
are turned down with the fault of the first condition that their values do not meet. -/
theorem ofLayer_iff (grammar : String) (layer : Layer) :
    (∀ settings, ofLayer grammar layer = .ok settings ↔
      layer.values.InOrder ∧ settings.Carries grammar layer.values) ∧
    ∀ fault, ofLayer grammar layer = .error fault ↔ layer.values.FirstViolation fault := by
  have decided := decided_ofLayer grammar layer
  refine ⟨fun settings => ⟨fun accepted => ?_, ?_⟩, decided.rejected⟩
  · exact ⟨decided.accepted.mp ⟨settings, accepted⟩, carries_of_ofLayer accepted⟩
  · rintro ⟨inOrder, carries⟩
    obtain ⟨made, accepted⟩ := decided.accepted.mpr inOrder
    rw [carries.unique (carries_of_ofLayer accepted)]
    exact accepted

end Snapshot

end BracketDecoration.Settings
