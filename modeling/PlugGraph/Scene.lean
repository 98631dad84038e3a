import PlugGraph.Curve
import PlugGraph.Scene.Graph

/-!
# Scenes

A scene is what is evaluated: a graph, and curves for its curve nodes.
-/

namespace PlugGraph

/-- A graph with the curves of its curve nodes. -/
structure Scene (α : Type) where
  graph : Graph
  /-- Curves by the name of their node. -/
  curves : List (String × Curve α)

end PlugGraph
