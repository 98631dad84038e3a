import PlugGraph.Eval.Diagnostic
import PlugGraph.Eval.Formula
import PlugGraph.Expr.Program

/-!
# Computing a plug

`Context.reading` says how the value of one plug comes about from the values of others. A plug that
a connection drives takes the value of its source. Otherwise its node decides: a curve is evaluated
at the frame, or at the value of its input if that is connected, and any other node by the formula
of its kind. What no formula computes is read as authored.

The result of a reading is an `Outcome`, which `Context.settle` turns into the value of the plug:
a finite number in single precision.
-/

namespace PlugGraph

/-- What evaluation needs of a curve: its value at a parameter. -/
abbrev CurveShape (α : Type) := α → Except Fault α

/-- What the values of plugs depend on besides the frame. -/
structure Context (α : Type) where
  graph : Graph
  /-- Curves by the name of their node. -/
  curves : Std.ExtTreeMap String (CurveShape α)
  /-- Kinds of nodes by name; a node without an entry is read as authored. -/
  kinds : Std.ExtTreeMap String Kind
  /-- Programs of expression nodes that have been parsed before. -/
  programs : Std.ExtTreeMap String Expr.Program
  /-- Blends two rotations. -/
  rotation : RotationBlend α

/-- What the computation of a plug ends in. -/
inductive Outcome (α : Type) where
  | result (result : Result α)
  /-- A default, with the reason for it. -/
  | fallback (cause : Cause) (value : α)

/-- The attributes that may hold the source of an expression node, best first. -/
def sourceKeys : List String := ["ixp", "internalExpression", "s", "expression", "expr", "e"]

def Node.program (node : Node) : Expr.Program :=
  .ofText (((sourceKeys.findSome? node.attribute?).map Attribute.text).getD "")

/-- The array names of an expression node's outputs, in small letters. -/
def slotArrays : List String := ["output", "out", "o"]

/-- The output slot that an attribute of an expression node names. -/
def Attr.slot? (attr : String) : Option Int :=
  match Attr.arrayName? attr with
  | some array => if slotArrays.contains (Text.lower array) then Attr.index? attr else none
  | none => none

namespace Context

variable {α : Type}

def kindOf (c : Context α) (name : String) : Kind := c.kinds.getD name .literal

/-- The program of an expression node: the one parsed before, if there is one. -/
def program (c : Context α) (node : Node) : Expr.Program :=
  (c.programs[node.name]?).getD node.program

def keepProgram (c : Context α) (node : Node) : Context α :=
  { c with programs := c.programs.insert node.name (c.program node) }

/-- The plug that a name in an expression denotes. The path of a node that is not known falls back
to its last segment. -/
def tokenPlug? (c : Context α) (name : String) : Option String :=
  (Plug.ofPath? name).map fun plug =>
    let known := c.graph.contains plug.node || c.curves.contains plug.node
    if !known && plug.node.contains '|' then Plug.named (Plug.leafName plug.node) plug.attr
    else Plug.named plug.node plug.attr

variable [Scalar α]

/-- The value of a name in an expression; zero if it denotes no plug. -/
def tokenValue (c : Context α) (name : String) : Reading α α :=
  match c.tokenPlug? name with
  | some plug => Reading.plug plug
  | none => .done 0

/-- The number authored for an attribute, zero without one. -/
def authored (node : Node) (attr : String) : α := Inputs.plainZero (node.literal attr 0)

/-- The attributes through which a curve is driven. -/
def curveInputs : List String := ["input", "i"]

def ofExcept : Except Fault (Result α) → Outcome α
  | .ok result => .result result
  | .error fault => .fallback (.fault fault) 0

/-- Evaluates a curve at the value of its input, or else at the frame. -/
def curveReading (c : Context α) (frame : α) (name : String) (curve : CurveShape α) :
    Reading α (Outcome α) :=
  let value (parameter : α) := ofExcept (Result.value <$> curve parameter)
  match curveInputs.findSome? fun attr => c.graph.incoming? (Plug.named name attr) with
  | some source => value <$> Reading.plug source
  | none => .done (value frame)

/-- The value of an attribute of an expression node: an output slot of its program, or what is
authored. -/
def expressionReading (c : Context α) (frame : α) (node : Node) (attr : String) : Reading α α :=
  match Attr.slot? attr with
  | some slot =>
    ((c.program node).output frame slot).substitute fun name => some <$> c.tokenValue name
  | none => .done (Inputs.plainZero ((Inputs.literal? ⟨c.graph, node⟩ [attr]).getD 0))

/-- Computes an attribute of a node by the formula of its kind. -/
def nodeReading (c : Context α) (frame : α) (node : Node) (attr : String) :
    Reading α (Outcome α) :=
  let kind := c.kindOf node.name
  if kind = .expression then
    (fun value => .result (.value value)) <$> c.expressionReading frame node attr
  else
    match Formula.ofKind? kind ⟨c.graph, node⟩ attr with
    | none =>
      let cause := if kind = .animCurve then .curveWithoutKeys else .readAsLiteral node.type
      .done (.fallback cause (authored node attr))
    | some formula =>
      if kind.outputsOnly && !Attr.isOutput attr then
        .done (.result (.value (authored node attr)))
      else ofExcept <$> formula.run

/-- Computes a plug, given by its normalized text. -/
def reading (c : Context α) (frame : α) (text : String) : Reading α (Outcome α) :=
  match c.graph.incoming? text with
  | some source => (fun value => .result (.value value)) <$> Reading.plug source
  | none =>
    match Plug.ofText? text with
    | none => .done (.fallback .notAPlug 0)
    | some plug =>
      match c.curves[plug.node]? with
      | some curve => c.curveReading frame plug.node curve
      | none =>
        match c.graph.node? plug.node with
        | some node => c.nodeReading frame node plug.attr
        | none => .done (.fallback .unknownNode 0)

/-- The value of a plug with the reports that arise when it is settled. -/
structure Settled (α : Type) where
  value : α
  events : List (Event α)

/-- Rounds to single precision; a value that is not finite becomes zero and is reported. -/
def round (plug : String) (value : α) : Settled α :=
  let value := Scalar.single value
  match Scalar.nonFinite? value with
  | none => ⟨value, []⟩
  | some nonFinite => ⟨0, [.diagnostic ⟨plug, .notFinite nonFinite⟩]⟩

/-- Reports something before what has been reported. -/
def Settled.after (settled : Settled α) (event : Event α) : Settled α :=
  { settled with events := event :: settled.events }

def fallback (plug : String) (cause : Cause) (value : α) : Settled α :=
  (round plug value).after (.diagnostic ⟨plug, cause⟩)

/-- The value of a plug whose computation has come to an end. -/
def settle (c : Context α) (plug : String) : Outcome α → Settled α
  | .result (.value value) => round plug value
  | .fallback cause value => fallback plug cause value
  | .result (.blend start target weight order axis) =>
    let settled := match c.rotation start target weight order with
      | .ok blended => round plug (blended.component axis)
      | .error fault => fallback plug (.fault fault) 0
    settled.after (.blended start target weight order)

/-- The expression node whose program a plug is computed with, if any. -/
def expressionNode? (c : Context α) (text : String) : Option Node := do
  guard (c.graph.incoming? text).isNone
  let plug ← Plug.ofText? text
  guard (!c.curves.contains plug.node)
  let node ← c.graph.node? plug.node
  guard (c.kindOf node.name = .expression)
  guard (Attr.slot? plug.attr).isSome
  return node

/-- Keeps the program that a plug has been computed with, if any. -/
def keepProgramOf (c : Context α) (text : String) : Context α :=
  match c.expressionNode? text with
  | some node => c.keepProgram node
  | none => c

/-- The plugs that a name in an expression may denote, whatever nodes are known. -/
def tokenPlugs (name : String) : List String :=
  match Plug.ofPath? name with
  | some plug =>
    [Plug.normalize (Plug.named plug.node plug.attr),
     Plug.normalize (Plug.named (Plug.leafName plug.node) plug.attr)]
  | none => []

/-- The plugs that the program of a node may read. -/
def nodeVocabulary (α : Type) [Scalar α] (node : Node) : List String :=
  (node.program.loads α).flatMap tokenPlugs

/-- The plugs that computations may read: the sources of connections, and what expression nodes
name. -/
def vocabulary (c : Context α) : List String :=
  c.graph.connections.map (fun connection => Plug.normalize connection.source) ++
    (c.graph.nodes.filter (c.kindOf ·.name = .expression)).flatMap (nodeVocabulary α)

end Context

end PlugGraph
