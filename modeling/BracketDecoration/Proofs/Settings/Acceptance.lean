import BracketDecoration.Proofs.Settings.Layering
import BracketDecoration.Proofs.Settings.Validation

namespace BracketDecoration.Settings

namespace Layer

def Accepted (layer : Layer) : Prop :=
  ∃ grammar settings, Snapshot.ofLayer grammar layer = .ok settings

/-- Each check accepts what the layer sets, or the default. -/
structure Checked (layer : Layer) : Prop where
  colors : checkColors (layer.colors.getD defaultColors) = .ok ()
  unmatchedColor : checkColor (layer.unmatchedColor.getD defaultUnmatchedColor) = .ok ()
  colorMode : ∃ colorMode, Snapshot.modeOf layer = .ok colorMode
  timeout : checkTimeout (layer.timeout.getD defaultTimeout) = .ok ()
  pairs : checkPairs (layer.pairs.getD defaultPairs) = .ok ()

theorem exists_ofLayer_iff (grammar : String) (layer : Layer) :
    (∃ settings, Snapshot.ofLayer grammar layer = .ok settings) ↔ layer.Checked := by
  rw [Snapshot.ofLayer_eq]
  constructor
  · rintro ⟨settings, accepted⟩
    obtain ⟨_, colors, accepted⟩ := bind_eq_ok_iff.mp accepted
    obtain ⟨_, unmatchedColor, accepted⟩ := bind_eq_ok_iff.mp accepted
    obtain ⟨colorMode, known, accepted⟩ := bind_eq_ok_iff.mp accepted
    obtain ⟨_, timeout, accepted⟩ := bind_eq_ok_iff.mp accepted
    obtain ⟨_, pairs, _filled⟩ := bind_eq_ok_iff.mp accepted
    exact ⟨colors, unmatchedColor, ⟨colorMode, known⟩, timeout, pairs⟩
  · rintro ⟨colors, unmatchedColor, ⟨colorMode, known⟩, timeout, pairs⟩
    rw [colors, unmatchedColor, known, timeout, pairs]
    exact ⟨Snapshot.fill grammar layer colorMode, rfl⟩

theorem accepted_iff_checked (layer : Layer) : layer.Accepted ↔ layer.Checked :=
  ⟨fun ⟨grammar, made⟩ => (exists_ofLayer_iff grammar layer).mp made,
    fun checked => ⟨"", (exists_ofLayer_iff "" layer).mpr checked⟩⟩

theorem accepted_iff_isSome (layer : Layer) :
    layer.Accepted ↔ (Snapshot.ofLayer "" layer).toOption.isSome = true := by
  rw [accepted_iff_checked, ← exists_ofLayer_iff ""]
  cases Snapshot.ofLayer "" layer with
  | ok settings => exact ⟨fun _ => rfl, fun _ => ⟨settings, rfl⟩⟩
  | error fault => exact ⟨nofun, nofun⟩

instance (layer : Layer) : Decidable layer.Accepted :=
  decidable_of_iff _ layer.accepted_iff_isSome.symm

/-- Every default passes its own check. -/
theorem checked_empty : empty.Checked where
  colors := rfl
  unmatchedColor := rfl
  colorMode := ⟨.consecutive, rfl⟩
  timeout := rfl
  pairs := rfl

private theorem check_getD_or {α : Type} (check : α → Except Error Unit) {upper lower : Option α}
    {default : α} (above : check (upper.getD default) = .ok ())
    (below : check (lower.getD default) = .ok ()) :
    check ((upper.or lower).getD default) = .ok () := by
  cases upper with
  | some value => exact above
  | none => exact below

theorem Checked.overlay {lower upper : Layer} (below : lower.Checked) (above : upper.Checked) :
    (lower.overlay upper).Checked where
  colors := check_getD_or checkColors above.colors below.colors
  unmatchedColor := check_getD_or checkColor above.unmatchedColor below.unmatchedColor
  colorMode := by
    cases written : upper.colorMode with
    | some mode =>
        have same : Snapshot.modeOf (lower.overlay upper) = Snapshot.modeOf upper := by
          simp only [Snapshot.modeOf, Layer.overlay, written, Option.some_or]
        rw [same]
        exact above.colorMode
    | none =>
        have same : Snapshot.modeOf (lower.overlay upper) = Snapshot.modeOf lower := by
          simp only [Snapshot.modeOf, Layer.overlay, written, Option.none_or]
        rw [same]
        exact below.colorMode
  timeout := check_getD_or checkTimeout above.timeout below.timeout
  pairs := check_getD_or checkPairs above.pairs below.pairs

private theorem Checked.stack {layers : List Layer} (each : ∀ layer ∈ layers, layer.Checked) :
    (stack layers).Checked := by
  induction layers with
  | nil => exact checked_empty
  | cons layer rest ih =>
      rw [stack_cons]
      obtain ⟨first, others⟩ := List.forall_mem_cons.mp each
      exact first.overlay (ih others)

end Layer

namespace Config

/-- All layers of a configuration, whether or not a document selects them. -/
def layers (config : Config) : List Layer :=
  config.global :: config.scopes.map ScopeBlock.layer ++ config.languages.map LanguageBlock.layer

def LayersAccepted (config : Config) : Prop := ∀ layer ∈ config.layers, layer.Accepted

instance (config : Config) : Decidable config.LayersAccepted :=
  inferInstanceAs (Decidable (∀ layer ∈ config.layers, layer.Accepted))

/-- A configuration that fulfils a condition, or a merge of such, in any number and order. -/
inductive MergedFrom (condition : Config → Prop) : Config → Prop where
  | alone (config : Config) (holds : condition config) : MergedFrom condition config
  | merge (lower upper : Config) (below : MergedFrom condition lower)
      (above : MergedFrom condition upper) : MergedFrom condition (lower.merge upper)

theorem mem_layers (config : Config) (layer : Layer) :
    layer ∈ config.layers ↔ layer = config.global ∨ (∃ block ∈ config.scopes, block.layer = layer) ∨
      ∃ block ∈ config.languages, block.layer = layer := by
  unfold layers
  rw [List.cons_append, List.mem_cons, List.mem_append, List.mem_map, List.mem_map]

private theorem LayersAccepted.merge {lower upper : Config} (below : lower.LayersAccepted)
    (above : upper.LayersAccepted) : (lower.merge upper).LayersAccepted := by
  intro layer member
  rcases (mem_layers _ layer).mp member with rfl | ⟨block, placed, rfl⟩ | ⟨block, named, rfl⟩
  · have lowerGlobal := below _ ((mem_layers lower _).mpr (Or.inl rfl))
    have upperGlobal := above _ ((mem_layers upper _).mpr (Or.inl rfl))
    rw [Layer.accepted_iff_checked] at lowerGlobal upperGlobal ⊢
    exact lowerGlobal.overlay upperGlobal
  · rcases List.mem_append.mp placed with first | second
    · exact below _ ((mem_layers lower _).mpr (Or.inr (Or.inl ⟨block, first, rfl⟩)))
    · exact above _ ((mem_layers upper _).mpr (Or.inr (Or.inl ⟨block, second, rfl⟩)))
  · rcases List.mem_append.mp named with first | second
    · exact below _ ((mem_layers lower _).mpr (Or.inr (Or.inr ⟨block, first, rfl⟩)))
    · exact above _ ((mem_layers upper _).mpr (Or.inr (Or.inr ⟨block, second, rfl⟩)))

theorem MergedFrom.layersAccepted {config : Config} (merged : MergedFrom LayersAccepted config) :
    config.LayersAccepted := by
  induction merged with
  | alone config accepted => exact accepted
  | merge lower upper _ _ below above => exact below.merge above

/-- The layers that a document selects are among all layers, whatever its path and grammar are. -/
theorem LayersAccepted.checked_effective {config : Config} (accepted : config.LayersAccepted)
    (grammar : String) (path : List UInt8) : (config.effective grammar path).Checked := by
  rw [effective_eq_stack]
  refine Layer.Checked.stack fun layer selected => ?_
  refine (Layer.accepted_iff_checked layer).mp (accepted layer ((mem_layers config layer).mpr ?_))
  rw [List.cons_append, List.mem_cons, List.mem_append] at selected
  refine selected.imp id (Or.imp ?_ ?_)
  · intro placed
    obtain ⟨block, covering, same⟩ := List.mem_map.mp placed
    exact ⟨block, (List.mem_filter.mp covering).1, same⟩
  · intro named
    obtain ⟨block, matching, same⟩ := List.mem_map.mp named
    exact ⟨block, (List.mem_filter.mp matching).1, same⟩

theorem LayersAccepted.exists_resolveAt {config : Config} (accepted : config.LayersAccepted)
    (grammar : String) (path : List UInt8) :
    ∃ settings, Snapshot.resolveAt config grammar path = .ok settings :=
  (Layer.exists_ofLayer_iff grammar _).mpr (accepted.checked_effective grammar path)

end Config

end BracketDecoration.Settings
