import PlugGraph.Scene.Blocked
import PlugGraph.Scene.Node

/-!
# Scene graphs

A scene graph holds nodes and the connections between their plugs, with indices for the questions
that evaluation asks: which sources drive a plug, and which elements of an array attribute exist.
The indices describe the records that the graph was built from; replacing a node later on leaves
them as they are.
-/

namespace PlugGraph

/-- A connection: `target` is driven by `source`. -/
structure Connection where
  source : String
  target : String
  force : Bool
deriving DecidableEq, Repr

namespace Connection

/-- Both ends normalized; `none` if one of them is empty then. -/
def normalized? (c : Connection) : Option Connection :=
  let source := Plug.normalize c.source
  let target := Plug.normalize c.target
  if source.isEmpty || target.isEmpty then none else some { c with source, target }

end Connection

/-- The indices in use, by node and array name. -/
abbrev ArrayIndices := Std.ExtTreeMap String (Std.ExtTreeMap String (Std.ExtTreeSet Int))

/-- Adds the index that an attribute name mentions, if it is the name of an array element. -/
def ArrayIndices.add (indices : ArrayIndices) (node attr : String) : ArrayIndices :=
  match Attr.arrayName? attr, Attr.index? attr with
  | some array, some index =>
    let arrays := indices.getD node ∅
    indices.insert node (arrays.insert array ((arrays.getD array ∅).insert index))
  | _, _ => indices

structure Graph where
  /-- Names of the nodes in the order of declaration. -/
  names : List String
  /-- The nodes by name. -/
  table : Std.ExtTreeMap String Node
  /-- The connections with normalized ends, in the order of declaration. -/
  connections : List Connection
  /-- The sources of each driven plug, the most recent first. -/
  sources : Std.ExtTreeMap String (List String)
  /-- The indices in use in array attributes. -/
  indices : ArrayIndices

namespace Graph

/-- The records of the nodes that count: those with a name, and of several with one name the
first. -/
def keepFirst : Std.ExtTreeMap String Node → List Node → List Node
  | _, [] => []
  | seen, node :: rest =>
    if node.name.isEmpty || seen.contains node.name then keepFirst seen rest
    else node :: keepFirst (seen.insert node.name node) rest

def addSource (sources : Std.ExtTreeMap String (List String)) (c : Connection) :
    Std.ExtTreeMap String (List String) :=
  sources.insert c.target (c.source :: sources.getD c.target [])

def addTarget (indices : ArrayIndices) (c : Connection) : ArrayIndices :=
  match Plug.ofText? c.target with
  | some plug => indices.add plug.node plug.attr
  | none => indices

def addNode (indices : ArrayIndices) (node : Node) : ArrayIndices :=
  node.attributes.foldl (fun indices authored => indices.add node.name authored.name) indices

/-- Builds a graph from records in the order of declaration. -/
def ofRecords (nodes : List Node) (connections : List Connection) : Graph :=
  let nodes := keepFirst ∅ nodes
  let connections := connections.filterMap Connection.normalized?
  { names := nodes.map (·.name)
    table := nodes.foldl (fun table node => table.insert node.name node) ∅
    connections
    sources := connections.foldl addSource ∅
    indices := nodes.foldl addNode (connections.foldl addTarget ∅) }

def node? (graph : Graph) (name : String) : Option Node := graph.table[name]?

def contains (graph : Graph) (name : String) : Bool := graph.table.contains name

/-- The nodes in the order of declaration. -/
def nodes (graph : Graph) : List Node := graph.names.filterMap graph.node?

def size (graph : Graph) : Nat := graph.table.size

/-- The source that drives a plug: that of the most recent connection. -/
def incoming? (graph : Graph) (target : String) : Option String :=
  (graph.sources.getD (Plug.normalize target) []).head?

/-- All sources connected to a plug, in the order of declaration. -/
def incomingAll (graph : Graph) (target : String) : List String :=
  (graph.sources.getD (Plug.normalize target) []).reverse

/-- The plugs that some connection drives, in ascending order. -/
def drivenPlugs (graph : Graph) : List String := graph.sources.keys

def isDriven (graph : Graph) (plug : String) : Bool := graph.sources.contains plug

def arrayIndices (graph : Graph) (node array : String) : Std.ExtTreeSet Int :=
  (graph.indices.getD node ∅).getD (Attr.withoutDot array) ∅

/-- Puts a node under a name, in the place of the one that stands there. The node may be called
otherwise, and the indices stay as they are. -/
def setNode (graph : Graph) (name : String) (node : Node) : Graph :=
  { graph with
    names := if graph.contains name then graph.names else graph.names ++ [name]
    table := graph.table.insert name node }

/-- Removes the node under a name. The indices stay as they are. -/
def eraseNode (graph : Graph) (name : String) : Graph :=
  { graph with names := graph.names.filter (· != name), table := graph.table.erase name }

def addEdges (successors : Blocked.Successors String) (vertex : String) (targets : List String) :
    Blocked.Successors String :=
  successors.insert vertex (targets ++ successors.getD vertex [])

/-- The plugs that occur in connections, by the node they belong to. -/
def plugsByNode (graph : Graph) : Std.ExtTreeMap String (Std.ExtTreeSet String) :=
  let plugs := graph.connections.flatMap fun c => [c.source, c.target]
  plugs.foldl (fun table text =>
    match Plug.ofText? text with
    | some plug => table.insert plug.node ((table.getD plug.node ∅).insert text)
    | none => table) ∅

/-- How plugs feed each other: along connections, and inside a node from every driven plug to
every plug that is not driven. -/
def flow (graph : Graph) : Blocked.Successors String :=
  let direct := graph.connections.foldl (fun successors c =>
    addEdges (addEdges successors c.source [c.target]) c.target []) ∅
  graph.plugsByNode.toList.foldl (fun successors (_, plugs) =>
    let outputs := plugs.toList.filter (!graph.isDriven ·)
    let inputs := plugs.toList.filter graph.isDriven
    inputs.foldl (fun successors input => addEdges successors input outputs) successors) direct

/-- The plugs on a cycle of connections or downstream of one, in ascending order. -/
def cyclicPlugs (graph : Graph) : List String := Blocked.vertices graph.flow

end Graph

end PlugGraph
