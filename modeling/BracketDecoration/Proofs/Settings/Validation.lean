import BracketDecoration.Settings.Snapshot

namespace BracketDecoration.Settings

theorem bind_eq_ok_iff {α β : Type} {first : Except Error α} {next : α → Except Error β} {result : β} :
    first >>= next = .ok result ↔ ∃ value, first = .ok value ∧ next value = .ok result := by
  constructor
  · intro accepted
    cases first with
    | error fault => cases accepted
    | ok value => exact ⟨value, rfl, accepted⟩
  · rintro ⟨value, rfl, accepted⟩
    exact accepted

/-- A number sign with three, six or eight hexadecimal digits, or a name of letters. -/
inductive ColorSyntax : List Char → Prop where
  | code (digits : List Char) (size : digits.length = 3 ∨ digits.length = 6 ∨ digits.length = 8)
      (hexadecimal : ∀ digit ∈ digits, isHexDigit digit = true) : ColorSyntax ('#' :: digits)
  | name (letters : List Char) (nonempty : letters ≠ [])
      (alphabetic : ∀ letter ∈ letters, letter.isAlpha = true) : ColorSyntax letters

private theorem le_of_isHexDigit {digit : Char} (hexadecimal : isHexDigit digit = true) :
    digit ≤ 'f' := by
  simp only [isHexDigit, Char.isDigit, Bool.or_eq_true, Bool.and_eq_true, decide_eq_true_eq, Char.le_def,
    ge_iff_le, UInt32.le_iff_toNat_le] at hexadecimal ⊢
  simp only [Char.reduceVal, UInt32.reduceToNat] at hexadecimal ⊢
  omega

theorem length_bytes_of_isHexDigit {digits : List Char}
    (hexadecimal : ∀ digit ∈ digits, isHexDigit digit = true) :
    (Text.bytes digits).length = digits.length := by
  induction digits with
  | nil => rfl
  | cons digit rest ih =>
      obtain ⟨first, others⟩ := List.forall_mem_cons.mp hexadecimal
      have single : (Text.charBytes digit).length = 1 := by
        rw [Text.charBytes, String.length_utf8EncodeChar, Char.utf8Size_eq_one_iff]
        exact UInt32.le_trans (le_of_isHexDigit first) (by decide)
      rw [Text.bytes, List.flatMap_cons, List.length_append, single, List.length_cons, Nat.add_comm]
      exact congrArg Nat.succ (ih others)

theorem isColor_iff (color : String) : isColor color = true ↔ ColorSyntax color.toList := by
  unfold isColor
  split
  · rename_i digits written
    rw [written]
    simp only [Bool.and_eq_true, Bool.or_eq_true, decide_eq_true_eq, List.all_eq_true, or_assoc]
    constructor
    · rintro ⟨size, hexadecimal⟩
      rw [length_bytes_of_isHexDigit hexadecimal] at size
      exact .code digits size hexadecimal
    · intro form
      cases form with
      | code _digits size hexadecimal =>
          rw [length_bytes_of_isHexDigit hexadecimal]
          exact ⟨size, hexadecimal⟩
      | name _letters nonempty alphabetic => cases alphabetic '#' List.mem_cons_self
  · rename_i letters unsigned
    simp only [Bool.and_eq_true, Bool.not_eq_true', List.isEmpty_eq_false_iff, List.all_eq_true]
    constructor
    · rintro ⟨nonempty, alphabetic⟩
      exact .name _ nonempty alphabetic
    · intro form
      generalize color.toList = characters at form unsigned
      cases form with
      | code digits size hexadecimal => exact absurd rfl (unsigned digits)
      | name _letters nonempty alphabetic => exact ⟨nonempty, alphabetic⟩

theorem checkColor_eq_ok_iff (color : String) :
    checkColor color = .ok () ↔ ColorSyntax color.toList := by
  rw [← isColor_iff]
  unfold checkColor
  by_cases accepted : isColor color = true
  · simp only [accepted, if_true]
  · simp only [accepted, if_false, Bool.false_eq_true, reduceCtorEq]

def checkColors (colors : List String) : Except Error Unit :=
  if colors.isEmpty then .error .noColors else colors.forM checkColor

theorem forM_checkColor_eq_ok_iff (colors : List String) :
    colors.forM checkColor = .ok () ↔ ∀ color ∈ colors, ColorSyntax color.toList := by
  induction colors with
  | nil => exact ⟨fun _ => nofun, fun _ => rfl⟩
  | cons color rest ih =>
      change checkColor color >>= (fun _ => rest.forM checkColor) = .ok () ↔ _
      rw [bind_eq_ok_iff, List.forall_mem_cons, ← ih, ← checkColor_eq_ok_iff]
      constructor
      · rintro ⟨_unit, first, others⟩
        exact ⟨first, others⟩
      · rintro ⟨first, others⟩
        exact ⟨(), first, others⟩

theorem checkColors_eq_ok_iff (colors : List String) :
    checkColors colors = .ok () ↔ colors ≠ [] ∧ ∀ color ∈ colors, ColorSyntax color.toList := by
  unfold checkColors
  by_cases colorless : colors = []
  · simp [colorless]
  · rw [if_neg (by rwa [List.isEmpty_iff]), forM_checkColor_eq_ok_iff, and_iff_right colorless]

def checkTimeout (timeout : Int) : Except Error Unit :=
  if timeout < 0 ∨ maxTimeout < timeout then .error (.timeoutOutOfRange timeout) else .ok ()

theorem checkTimeout_eq_ok_iff (timeout : Int) :
    checkTimeout timeout = .ok () ↔ 0 ≤ timeout ∧ timeout ≤ maxTimeout := by
  unfold checkTimeout
  by_cases outside : timeout < 0 ∨ maxTimeout < timeout
  · rw [if_pos outside]
    exact ⟨nofun, fun inside => by omega⟩
  · rw [if_neg outside]
    exact ⟨fun _ => by omega, fun _ => rfl⟩

/-- The pair is in order by itself: two tokens that are not empty and differ. -/
structure Pair.Proper (pair : Pair) : Prop where
  opened : pair.opening ≠ ""
  closed : pair.closing ≠ ""
  distinct : pair.opening ≠ pair.closing

theorem pairFault?_eq_none_iff (earlier : List Pair) (pair : Pair) :
    pairFault? earlier pair = none ↔
      pair.Proper ∧ ∀ other ∈ earlier, other.opening ≠ pair.opening := by
  unfold pairFault?
  by_cases hollow : (pair.opening = "" || pair.closing = "") = true
  · rw [if_pos hollow]
    refine ⟨nofun, ?_⟩
    rintro ⟨proper, _untaken⟩
    simp only [Bool.or_eq_true, decide_eq_true_eq] at hollow
    exact (hollow.elim proper.opened proper.closed).elim
  · rw [if_neg hollow]
    simp only [Bool.or_eq_true, decide_eq_true_eq, not_or] at hollow
    by_cases same : pair.opening = pair.closing
    · rw [if_pos same]
      exact ⟨nofun, fun both => absurd same both.1.distinct⟩
    · rw [if_neg same]
      have proper : pair.Proper := ⟨hollow.1, hollow.2, same⟩
      rw [and_iff_right proper]
      by_cases taken : (earlier.any fun other => other.opening = pair.opening) = true
      · rw [if_pos taken]
        obtain ⟨other, member, equal⟩ := List.any_eq_true.mp taken
        exact ⟨nofun, fun untaken => absurd (of_decide_eq_true equal) (untaken other member)⟩
      · rw [if_neg taken]
        refine ⟨fun _ other member equal => taken ?_, fun _ => rfl⟩
        exact List.any_eq_true.mpr ⟨other, member, decide_eq_true equal⟩

theorem checkPairsAfter_eq_ok_iff (earlier pairs : List Pair) :
    checkPairsAfter earlier pairs = .ok () ↔
      (∀ pair ∈ pairs, pair.Proper) ∧ (pairs.map Pair.opening).Nodup ∧
        ∀ pair ∈ pairs, ∀ other ∈ earlier, other.opening ≠ pair.opening := by
  -- A pair that is passed joins the earlier ones, which is how the openings become distinct.
  induction pairs generalizing earlier with
  | nil => exact ⟨fun _ => ⟨nofun, List.nodup_nil, nofun⟩, fun _ => rfl⟩
  | cons pair rest ih =>
      rw [List.forall_mem_cons, List.forall_mem_cons, List.map_cons, List.nodup_cons]
      have joined : (∀ later ∈ rest, ∀ other ∈ earlier ++ [pair], other.opening ≠ later.opening) ↔
          pair.opening ∉ rest.map Pair.opening ∧
            ∀ later ∈ rest, ∀ other ∈ earlier, other.opening ≠ later.opening := by
        constructor
        · intro untaken
          constructor
          · intro repeated
            obtain ⟨later, member, same⟩ := List.mem_map.mp repeated
            exact untaken later member pair (List.mem_append_right _ List.mem_cons_self) same.symm
          · intro later member other before
            exact untaken later member other (List.mem_append_left _ before)
        · rintro ⟨unrepeated, untaken⟩ later member other before
          rcases List.mem_append.mp before with older | newest
          · exact untaken later member other older
          · rw [List.mem_singleton.mp newest]
            exact fun same => unrepeated (List.mem_map.mpr ⟨later, member, same.symm⟩)
      unfold checkPairsAfter
      cases fault : pairFault? earlier pair with
      | some cause =>
          refine ⟨nofun, ?_⟩
          rintro ⟨⟨proper, _propers⟩, _distinct, untaken, _others⟩
          rw [(pairFault?_eq_none_iff earlier pair).mpr ⟨proper, untaken⟩] at fault
          cases fault
      | none =>
          obtain ⟨proper, untaken⟩ := (pairFault?_eq_none_iff earlier pair).mp fault
          change checkPairsAfter (earlier ++ [pair]) rest = .ok () ↔ _
          rw [ih, joined, and_iff_right proper, and_iff_right untaken]
          exact and_congr_right fun _ => and_left_comm.trans and_assoc.symm

theorem checkPairs_eq_ok_iff (pairs : List Pair) :
    checkPairs pairs = .ok () ↔
      pairs ≠ [] ∧ (∀ pair ∈ pairs, pair.Proper) ∧ (pairs.map Pair.opening).Nodup := by
  unfold checkPairs
  by_cases unpaired : pairs = []
  · simp [unpaired]
  · rw [if_neg (by rwa [List.isEmpty_iff]), checkPairsAfter_eq_ok_iff, and_iff_right unpaired]
    exact and_congr_right fun _ => and_iff_left fun _ _ => nofun

namespace Snapshot

/-- What an engine may rely on. -/
structure WellFormed (settings : Snapshot) : Prop where
  colored : settings.colors ≠ []
  colors : ∀ color ∈ settings.colors, ColorSyntax color.toList
  unmatchedColor : ColorSyntax settings.unmatchedColor.toList
  timeout : settings.timeout ≤ maxTimeout
  paired : settings.pairs ≠ []
  pairs : ∀ pair ∈ settings.pairs, pair.Proper
  openings : (settings.pairs.map Pair.opening).Nodup

def fill (grammar : String) (layer : Layer) (colorMode : ColorMode) : Snapshot where
  grammar := grammar
  colors := layer.colors.getD defaultColors
  unmatchedColor := layer.unmatchedColor.getD defaultUnmatchedColor
  colorMode := colorMode
  forceUniqueOpeningColor := layer.forceUniqueOpeningColor.getD false
  forceIterationColorCycle := layer.forceIterationColorCycle.getD false
  highlightActiveScope := layer.highlightActiveScope.getD false
  timeout := (layer.timeout.getD defaultTimeout).toNat
  pairs := layer.pairs.getD defaultPairs

def modeOf (layer : Layer) : Except Error ColorMode :=
  match layer.colorMode with
  | some written => ColorMode.ofName written
  | none => .ok .consecutive

theorem ofLayer_eq (grammar : String) (layer : Layer) :
    ofLayer grammar layer = (do
      checkColors (layer.colors.getD defaultColors)
      checkColor (layer.unmatchedColor.getD defaultUnmatchedColor)
      let colorMode ← modeOf layer
      checkTimeout (layer.timeout.getD defaultTimeout)
      checkPairs (layer.pairs.getD defaultPairs)
      return fill grammar layer colorMode) := by
  unfold ofLayer checkColors
  by_cases colorless : (layer.colors.getD defaultColors).isEmpty = true
  · rw [if_pos colorless, if_pos colorless]
    rfl
  · rw [if_neg colorless, if_neg colorless]
    refine bind_congr fun _ => bind_congr fun _ => ?_
    -- Whatever the mode is, what comes after it is the same.
    have rest (colorMode : ColorMode) :
        (if layer.timeout.getD defaultTimeout < 0 ∨ maxTimeout < layer.timeout.getD defaultTimeout then do
          throw (.timeoutOutOfRange (layer.timeout.getD defaultTimeout))
          checkPairs (layer.pairs.getD defaultPairs)
          return fill grammar layer colorMode
        else do
          checkPairs (layer.pairs.getD defaultPairs)
          return fill grammar layer colorMode) = (do
        checkTimeout (layer.timeout.getD defaultTimeout)
        checkPairs (layer.pairs.getD defaultPairs)
        return fill grammar layer colorMode) := by
      unfold checkTimeout
      split <;> rfl
    unfold modeOf
    cases layer.colorMode with
    | none => exact rest .consecutive
    | some written => exact bind_congr rest

theorem eq_fill_of_ofLayer {grammar : String} {layer : Layer} {settings : Snapshot}
    (accepted : ofLayer grammar layer = .ok settings) :
    settings.WellFormed ∧ ∃ colorMode, settings = fill grammar layer colorMode := by
  rw [ofLayer_eq] at accepted
  obtain ⟨_, colors, accepted⟩ := bind_eq_ok_iff.mp accepted
  obtain ⟨_, unmatchedColor, accepted⟩ := bind_eq_ok_iff.mp accepted
  obtain ⟨colorMode, _mode, accepted⟩ := bind_eq_ok_iff.mp accepted
  obtain ⟨_, timeout, accepted⟩ := bind_eq_ok_iff.mp accepted
  obtain ⟨_, pairs, filled⟩ := bind_eq_ok_iff.mp accepted
  cases filled
  obtain ⟨colored, colors⟩ := (checkColors_eq_ok_iff _).mp colors
  obtain ⟨nonnegative, bounded⟩ := (checkTimeout_eq_ok_iff _).mp timeout
  obtain ⟨paired, pairs, openings⟩ := (checkPairs_eq_ok_iff _).mp pairs
  have timeout : ((layer.timeout.getD defaultTimeout).toNat : Int) ≤ maxTimeout := by
    rw [Int.toNat_of_nonneg nonnegative]
    exact bounded
  exact ⟨⟨colored, colors, (checkColor_eq_ok_iff _).mp unmatchedColor, timeout, paired, pairs,
    openings⟩, colorMode, rfl⟩

end Snapshot

end BracketDecoration.Settings
