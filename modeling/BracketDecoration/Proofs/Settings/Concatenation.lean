import BracketDecoration.Proofs.Settings.Layering
import BracketDecoration.Settings.Reader

namespace BracketDecoration.Settings

/-- The node of a setting is put over a layer as the layer that it spells alone. -/
theorem Layer.readSetting_eq_overlay (layer : Layer) (node : Kdl.Node) :
    layer.readSetting node = layer.overlay <$> empty.readSetting node := by
  unfold readSetting
  cases Setting.find? node.name with
  | none => rfl
  | some setting =>
      -- What is read does not depend on the layer, and each assignment is an overlay by computation.
      cases setting <;> simp only [map_bind, map_pure] <;> rfl

namespace Config

theorem merge_empty (lower : Config) : lower.merge empty = lower := by
  simp only [merge, empty, Layer.overlay_empty, List.append_nil]

theorem merge_assoc (bottom middle top : Config) :
    (bottom.merge middle).merge top = bottom.merge (middle.merge top) := by
  simp only [merge, Layer.overlay_assoc, List.append_assoc]

private theorem merge_language (config : Config) (block : LanguageBlock) :
    config.merge { empty with languages := empty.languages ++ [block] } =
      { config with languages := config.languages ++ [block] } := by
  simp only [merge, empty, Layer.overlay_empty, List.append_nil, List.nil_append]

private theorem merge_scope (config : Config) (block : ScopeBlock) :
    config.merge { empty with scopes := empty.scopes ++ [block] } =
      { config with scopes := config.scopes ++ [block] } := by
  simp only [merge, empty, Layer.overlay_empty, List.append_nil, List.nil_append]

private theorem merge_global (config : Config) (layer : Layer) :
    config.merge { empty with global := layer } =
      { config with global := config.global.overlay layer } := by
  simp only [merge, empty, List.append_nil]

/-- A node is merged into a configuration as the configuration that it spells alone. -/
theorem readNode_eq_merge (config : Config) (node : Kdl.Node) :
    config.readNode node = config.merge <$> empty.readNode node := by
  unfold readNode
  by_cases language : node.name = "language"
  · rw [if_pos language, if_pos language]
    simp only [map_bind, map_pure, merge_language]
  · rw [if_neg language, if_neg language]
    by_cases scope : node.name = "scope"
    · rw [if_pos scope, if_pos scope]
      simp only [map_bind, map_pure, merge_scope]
    · rw [if_neg scope, if_neg scope, Layer.readSetting_eq_overlay]
      simp only [map_bind, map_pure, bind_map_left, merge_global]
      rfl

private theorem foldlM_readNode (config : Config) (nodes : List Kdl.Node) :
    nodes.foldlM readNode config = config.merge <$> ofNodes nodes := by
  -- The configuration so far moves out of the fold, one node at a time.
  induction nodes generalizing config with
  | nil => exact congrArg Except.ok config.merge_empty.symm
  | cons node rest ih =>
      rw [ofNodes, List.foldlM_cons, List.foldlM_cons, readNode_eq_merge, bind_map_left, map_bind]
      refine bind_congr fun next => ?_
      rw [ih (config.merge next), ih next, Functor.map_map]
      exact congrArg (· <$> ofNodes rest) (funext (merge_assoc config next))

/-- The nodes of two documents in a row: a fault of the first counts before one of the second, and without
faults the second configuration is merged into the first. -/
theorem ofNodes_append (first second : List Kdl.Node) :
    ofNodes (first ++ second) =
      match ofNodes first, ofNodes second with
      | .error fault, _ => .error fault
      | .ok _, .error fault => .error fault
      | .ok lower, .ok upper => .ok (lower.merge upper) := by
  have cut : ofNodes (first ++ second) =
      ofNodes first >>= fun lower => lower.merge <$> ofNodes second := by
    rw [ofNodes, List.foldlM_append]
    exact bind_congr fun lower => foldlM_readNode lower second
  rw [cut]
  cases ofNodes first with
  | error fault => rfl
  | ok lower =>
      cases ofNodes second with
      | error fault => rfl
      | ok upper => rfl

end Config

end BracketDecoration.Settings
