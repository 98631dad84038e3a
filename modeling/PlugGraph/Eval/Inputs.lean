import PlugGraph.Dialogue
import PlugGraph.Scene.Graph

/-!
# Inputs of formulas

A formula looks up each input under several names. The source connected to the first name that has
one wins, then the first authored number among the names, then a default. Sources are read by
asking for their plugs.
-/

namespace PlugGraph

/-- A computation that reads plugs. -/
abbrev Reading (α ω : Type) := Dialogue String α ω

def Reading.plug {α : Type} (text : String) : Reading α α := Dialogue.question (Plug.normalize text)

structure Inputs where
  graph : Graph
  node : Node

namespace Inputs

variable {α : Type} [Scalar α]

/-- A scalar with a negative zero made positive. -/
def plainZero (x : α) : α := if x == 0 then 0 else x

def plug (inputs : Inputs) (attr : String) : String := Plug.named inputs.node.name attr

def source? (inputs : Inputs) (attr : String) : Option String :=
  inputs.graph.incoming? (inputs.plug attr)

/-- The value of the source connected to the first name that has one. A blank source is zero. -/
def connected (inputs : Inputs) (names : List String) : Reading α (Option α) :=
  match names.findSome? inputs.source? with
  | none => .done none
  | some source =>
    if Text.isBlankText source then .done (some 0) else some <$> Reading.plug source

/-- The first number authored under one of the names, in single precision. -/
def literal? (inputs : Inputs) (names : List String) : Option α :=
  (names.findSome? inputs.node.literal?).map Scalar.single

/-- A connected value, or else an authored one. -/
def given (inputs : Inputs) (names : List String) : Reading α (Option α) := do
  match ← inputs.connected names with
  | some value => return some value
  | none => return inputs.literal? names

/-- A connected value, or else an authored one, or else `fallback`. -/
def valueOr (inputs : Inputs) (fallback : α) (names : List String) : Reading α α := do
  return (← inputs.given names).getD fallback

def value (inputs : Inputs) (names : List String) : Reading α α := inputs.valueOr 0 names

def component (inputs : Inputs) (long short : String) (letter : Option Char) : Reading α α :=
  inputs.value (Attr.componentNames long short letter)

/-- A setting, which is authored and never connected. -/
def option (inputs : Inputs) (keys : List String) (fallback : α) : α :=
  inputs.node.literalAny keys fallback

def element (inputs : Inputs) (array : String) (index : Int) (fallback : α) : Reading α α :=
  inputs.valueOr fallback [Attr.element array index]

/-- Whether an array element is connected or holds a number. -/
def hasElement (α : Type) [Scalar α] (inputs : Inputs) (array : String) (index : Int) : Bool :=
  let name := Attr.element array index
  (inputs.source? name).isSome || (inputs.node.literal? (α := α) name).isSome

/-- The indices in use in any of the arrays, in ascending order. -/
def indices (inputs : Inputs) (arrays : List String) : List Int :=
  (arrays.foldl (fun found array =>
    found ∪ inputs.graph.arrayIndices inputs.node.name array) ∅).toList

/-- The numbers authored in one attribute under one of the names, in single precision. -/
def packed? (inputs : Inputs) (names : List String) : Option (Vec3 α) :=
  (names.findSome? fun name => (inputs.node.attribute? name).bind Attribute.vector?).map
    (·.map Scalar.single)

/-- A triple. If a component is connected the others count as zero unless they are connected too;
otherwise the three numbers of the compound come first, then those of the components. -/
def triple (inputs : Inputs) (compound : List String) (names : Axis → List String) :
    Reading α (Vec3 α) := do
  let x ← inputs.connected (names .x)
  let y ← inputs.connected (names .y)
  let z ← inputs.connected (names .z)
  if x.isSome || y.isSome || z.isSome then
    return ⟨plainZero (x.getD 0), plainZero (y.getD 0), plainZero (z.getD 0)⟩
  else
    return (inputs.packed? compound).getD
      (Vec3.ofFn fun axis => plainZero ((inputs.literal? (names axis)).getD 0))

end Inputs

end PlugGraph
