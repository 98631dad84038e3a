import PlugGraph.Assoc
import PlugGraph.Channel
import PlugGraph.Scene.Graph

/-!
# Bindings of transform channels

A binding lists the transform channels of one node that connections drive, with the source of the
most recent connection to each.
-/

namespace PlugGraph

/-- The driven channels of one node, with their sources. -/
structure Binding where
  node : String
  channels : List (Channel × String)
deriving DecidableEq, Repr

namespace Binding

/-- Adds a connection to the bindings of the nodes before. -/
def add (bindings : List (String × List (Channel × String))) (c : Connection) :
    List (String × List (Channel × String)) :=
  match Channel.ofPlug? c.target with
  | some (node, channel) =>
    let channels := (Assoc.get? node bindings).getD []
    Assoc.put node (Assoc.put channel c.source channels) bindings
  | none => bindings

/-- One binding for each node with a driven channel, in the order of first appearance. -/
def ofGraph (graph : Graph) : List Binding :=
  (graph.connections.foldl add []).map fun (node, channels) => ⟨node, channels⟩

/-- The plugs of driven channels as connections name them, each one once. -/
def drivenPlugs (graph : Graph) : List String :=
  ((graph.connections.map (·.target)).filter (Channel.ofPlug? · |>.isSome)).eraseDups

end Binding

end PlugGraph
