import BracketDecoration.Settings.Snapshot
import BracketDecoration.Uri.Parser

/-!
Layers form a monoid under `overlay`. The layers that count for a document are gathered in three ways: the
global ones while documents are merged, those of scopes one by one, and those of a language as a layer of
their own. All three come to one sequence of layers, and every setting is that of its last setter there.
-/

namespace BracketDecoration.Settings

namespace Layer

theorem empty_overlay (upper : Layer) : empty.overlay upper = upper := by
  cases upper
  simp only [overlay, empty, Option.or_none]

theorem overlay_empty (lower : Layer) : lower.overlay empty = lower := rfl

theorem overlay_assoc (bottom middle top : Layer) :
    (bottom.overlay middle).overlay top = bottom.overlay (middle.overlay top) := by
  simp only [overlay, Option.or_assoc]

def stack (layers : List Layer) : Layer := layers.foldl overlay empty

theorem foldl_overlay (base : Layer) (layers : List Layer) :
    layers.foldl overlay base = base.overlay (stack layers) := by
  -- Associativity moves the base out of the fold, one layer at a time.
  induction layers generalizing base with
  | nil => rfl
  | cons layer rest ih =>
      unfold stack
      rw [List.foldl_cons, List.foldl_cons, ih (base.overlay layer), ih (empty.overlay layer),
        empty_overlay, overlay_assoc]

theorem stack_cons (layer : Layer) (rest : List Layer) :
    stack (layer :: rest) = layer.overlay (stack rest) := by
  rw [stack, List.foldl_cons, foldl_overlay, empty_overlay]

theorem stack_append (lower upper : List Layer) :
    stack (lower ++ upper) = (stack lower).overlay (stack upper) := by
  rw [stack, List.foldl_append, foldl_overlay]
  rfl

def lastSet {α : Type} (setting : Layer → Option α) (layers : List Layer) : Option α :=
  layers.reverse.findSome? setting

/-- The layer that takes each setting by itself from the last layer that sets it. -/
def ofLastSet (layers : List Layer) : Layer where
  colors := lastSet colors layers
  unmatchedColor := lastSet unmatchedColor layers
  colorMode := lastSet colorMode layers
  forceUniqueOpeningColor := lastSet forceUniqueOpeningColor layers
  forceIterationColorCycle := lastSet forceIterationColorCycle layers
  highlightActiveScope := lastSet highlightActiveScope layers
  timeout := lastSet timeout layers
  pairs := lastSet pairs layers

/-- A setting that `overlay` takes from the upper layer first has its last setter in a stack. -/
theorem setting_stack {α : Type} (setting : Layer → Option α) (unset : setting empty = none)
    (overlaid : ∀ lower upper,
      setting (lower.overlay upper) = (setting upper).or (setting lower))
    (layers : List Layer) : setting (stack layers) = lastSet setting layers := by
  induction layers with
  | nil => exact unset
  | cons layer rest ih =>
      unfold lastSet at ih ⊢
      rw [stack_cons, overlaid, ih, List.reverse_cons, List.findSome?_append]
      congr 1
      rw [List.findSome?_singleton]

private theorem stack_eq_ofLastSet (layers : List Layer) : stack layers = ofLastSet layers := by
  unfold ofLastSet
  rw [← setting_stack colors rfl (fun _ _ => rfl),
    ← setting_stack unmatchedColor rfl (fun _ _ => rfl),
    ← setting_stack colorMode rfl (fun _ _ => rfl),
    ← setting_stack forceUniqueOpeningColor rfl (fun _ _ => rfl),
    ← setting_stack forceIterationColorCycle rfl (fun _ _ => rfl),
    ← setting_stack highlightActiveScope rfl (fun _ _ => rfl),
    ← setting_stack timeout rfl (fun _ _ => rfl),
    ← setting_stack pairs rfl (fun _ _ => rfl)]

end Layer

namespace Config

def scopeLayers (path : List UInt8) (config : Config) : List Layer :=
  (config.scopes.filter fun block => block.covers path).map ScopeBlock.layer

def languageLayers (grammar : String) (config : Config) : List Layer :=
  (config.languages.filter fun block => block.grammar = grammar).map LanguageBlock.layer

/-- All layers that count for a path and a grammar when documents are merged in order: the global ones,
then those of the scopes that cover the path, then those of the grammar. -/
def layersFor (grammar : String) (path : List UInt8) (configs : List Config) : List Layer :=
  configs.map global ++ configs.flatMap (scopeLayers path) ++ configs.flatMap (languageLayers grammar)

private theorem foldl_addFound (found : Layer) (blocks : List LanguageBlock) :
    blocks.foldl addFound (some found) =
      some (found.overlay (Layer.stack (blocks.map LanguageBlock.layer))) := by
  induction blocks generalizing found with
  | nil => rfl
  | cons block rest ih =>
      rw [List.foldl_cons, List.map_cons, Layer.stack_cons, ← Layer.overlay_assoc]
      exact ih (found.overlay block.layer)

/-- A block that sets nothing still makes a layer, so only a language without any block has none. -/
theorem language?_eq (config : Config) (grammar : String) :
    config.language? grammar =
      if config.languageLayers grammar = [] then none
      else some (Layer.stack (config.languageLayers grammar)) := by
  unfold language? languageLayers
  cases config.languages.filter fun block => block.grammar = grammar with
  | nil => rfl
  | cons block rest =>
      rw [List.foldl_cons, List.map_cons, if_neg (List.cons_ne_nil _ _), Layer.stack_cons]
      change rest.foldl addFound (some (Layer.empty.overlay block.layer)) = _
      rw [Layer.empty_overlay, foldl_addFound]

theorem effective_eq_stack (config : Config) (grammar : String) (path : List UInt8) :
    config.effective grammar path = Layer.stack
      (config.global :: config.scopeLayers path ++ config.languageLayers grammar) := by
  have beneath : (config.scopes.filter fun block => block.covers path).foldl
      (fun layer block => layer.overlay block.layer) config.global =
        Layer.stack (config.global :: config.scopeLayers path) := by
    rw [Layer.stack_cons, ← Layer.foldl_overlay, scopeLayers, List.foldl_map]
  unfold effective
  rw [beneath, language?_eq, Layer.stack_append]
  by_cases none_named : config.languageLayers grammar = []
  · rw [if_pos none_named, none_named]
    exact (Layer.overlay_empty _).symm
  · rw [if_neg none_named]

theorem global_foldl_merge (base : Config) (configs : List Config) :
    (configs.foldl merge base).global = Layer.stack ((base :: configs).map global) := by
  induction configs generalizing base with
  | nil => exact (Layer.empty_overlay base.global).symm
  | cons config rest ih =>
      rw [List.foldl_cons, ih, List.map_cons, List.map_cons, List.map_cons, Layer.stack_cons,
        Layer.stack_cons, Layer.stack_cons, ← Layer.overlay_assoc]
      rfl

theorem scopeLayers_merge (path : List UInt8) (lower upper : Config) :
    (lower.merge upper).scopeLayers path = lower.scopeLayers path ++ upper.scopeLayers path := by
  simp only [scopeLayers, merge, List.filter_append, List.map_append]

theorem languageLayers_merge (grammar : String) (lower upper : Config) :
    (lower.merge upper).languageLayers grammar =
      lower.languageLayers grammar ++ upper.languageLayers grammar := by
  simp only [languageLayers, merge, List.filter_append, List.map_append]

theorem layers_foldl_merge (part : Config → List Layer)
    (merged : ∀ lower upper, part (merge lower upper) = part lower ++ part upper)
    (base : Config) (configs : List Config) :
    part (configs.foldl merge base) = (base :: configs).flatMap part := by
  induction configs generalizing base with
  | nil => exact (List.append_nil _).symm
  | cons config rest ih =>
      rw [List.foldl_cons, ih, List.flatMap_cons, List.flatMap_cons, List.flatMap_cons, merged,
        List.append_assoc]

end Config

/-- Resolving merged documents fills and checks one layer, in which each setting comes from the last layer
that sets it: of the global ones, the scopes that cover the path, and the blocks of the grammar, in turn. -/
theorem Snapshot.resolveAt_foldl_merge (base : Config) (configs : List Config) (grammar : String)
    (uri : Uri) :
    resolveAt (configs.foldl Config.merge base) grammar uri.documentPath =
      ofLayer grammar (Layer.ofLastSet
        (Config.layersFor grammar uri.documentPath (base :: configs))) := by
  unfold resolveAt
  rw [Config.effective_eq_stack, ← Layer.stack_eq_ofLastSet, Config.layersFor,
    List.append_assoc, List.cons_append, Layer.stack_cons, Config.global_foldl_merge,
    Config.layers_foldl_merge _ (Config.scopeLayers_merge uri.documentPath),
    Config.layers_foldl_merge _ (Config.languageLayers_merge grammar), ← Layer.stack_append]

end BracketDecoration.Settings
