import PlugGraph.Eval.Inputs
import PlugGraph.Eval.Kind
import PlugGraph.Number.Interpolation
import PlugGraph.Rotation.Quaternion

/-!
# Formulas

The formula of a kind of node computes an attribute from the node's inputs. The attribute asked for
may select a component (its last letter) or one of several results. A formula reads plugs and may
end in a fault. Angles are in degrees.

The formula of expression nodes runs a program and is not among those of this module.
-/

namespace PlugGraph

/-- A computation that reads plugs and may fail. -/
abbrev Formula (α ω : Type) := ExceptT Fault (Dialogue String α) ω

inductive Result (α : Type) where
  | value (value : α)
  /-- The component along `axis` of a blend of two rotations. -/
  | blend (start target : Vec3 α) (weight : α) (order : RotateOrder) (axis : Axis)

namespace Formula

variable {α : Type}

/-- A reading as a step of a formula. -/
def read {ω : Type} (reading : Reading α ω) : Formula α ω := ExceptT.lift reading

variable [Scalar α]

def axisLetter (attr : String) : Option Char := (Attr.axis? attr).map Axis.letter

def colorLetter (attr : String) : Option Char := (Attr.color? attr).map ColorChannel.letter

/-! ### Blends -/

/-- The weight of an animation blend, clamped to the unit interval. -/
def blendWeight (inputs : Inputs) : Reading α α :=
  Scalar.clampUnit <$> inputs.value ["weight", "w", "weightA"]

/-- Interpolates between two animations. -/
def animBlend (inputs : Inputs) : Formula α α := do
  let a ← read (inputs.value ["inputA", "ia", "input[0]"])
  let b ← read (inputs.value ["inputB", "ib", "input[1]"])
  let weight ← read (blendWeight inputs)
  return Scalar.lerp a b weight

/-- Adds a weighted animation to another one. -/
def animBlendAdditive (inputs : Inputs) : Formula α α := do
  let a ← read (inputs.value ["inputA", "ia", "input[0]"])
  let b ← read (inputs.value ["inputB", "ib", "input[1]"])
  let weight ← read (blendWeight inputs)
  return a + b * weight

def blendTwoAttr (inputs : Inputs) : Formula α α := do
  let a ← read (inputs.value ["input[0]", "input1", "i[0]", "i1"])
  let b ← read (inputs.value ["input[1]", "input2", "i[1]", "i2"])
  let weight ← read (inputs.value ["attributesBlender", "ab", "weight", "w"])
  return Scalar.lerp a b (Scalar.clampUnit weight)

/-- Interpolates between two colours; at one the second is taken. -/
def blendColors (inputs : Inputs) (attr : String) : Formula α α := do
  let letter := colorLetter attr
  let blender ← read (inputs.value ["blender", "b"])
  let first ← read (inputs.component "color1" "c1" letter)
  let second ← read (inputs.component "color2" "c2" letter)
  return Scalar.lerp first second (Scalar.clampUnit blender)

/-! ### Arithmetic -/

def unitConversion (inputs : Inputs) : Formula α α := do
  let value ← read (inputs.value ["input", "i", "inputValue"])
  return value * inputs.option ["cf", "conversionFactor", "factor"] 1

def addDoubleLinear (inputs : Inputs) : Formula α α := do
  let a ← read (inputs.value ["input1", "i1"])
  let b ← read (inputs.value ["input2", "i2"])
  return a + b

def multDoubleLinear (inputs : Inputs) : Formula α α := do
  let a ← read (inputs.value ["input1", "i1"])
  let b ← read (inputs.value ["input2", "i2"])
  return a * b

/-- The operation of a node, rounded to an integer. -/
def operation (inputs : Inputs) (fallback : α) : Except Fault Int :=
  Scalar.round? (inputs.option ["operation", "op"] fallback)

/-- The names of a scalar that `plusMinusAverage` combines. -/
def scalarNames (i : Int) : List String := [Attr.element "input1D" i, Attr.element "i1" i]

/-- The names of one component of a triple that `plusMinusAverage` combines. -/
def tripleNames (axis : Axis) (i : Int) : List String :=
  let letter := axis.letter.toLower
  [(Attr.element "input3D" i ++ ".input3D").push letter,
   (Attr.element "i3" i ++ ".i3").push letter]

/-- The names of the elements that `plusMinusAverage` combines: scalars, or one component of
triples. -/
def termNames (inputs : Inputs) (attr : String) : List (List String) :=
  let scalars := (inputs.indices ["input1D", "i1"]).map scalarNames
  match Attr.axis? attr with
  | some axis =>
    if attr.contains '3' then (inputs.indices ["input3D", "i3"]).map (tripleNames axis) else scalars
  | none => scalars

/-- The given values among elements, in order. -/
def terms (inputs : Inputs) : List (List String) → Reading α (List α)
  | [] => .done []
  | names :: rest => do
    let value ← inputs.given names
    let values ← terms inputs rest
    return value.toList ++ values

/-- Sum, difference (operation 2) or average (operation 3) of the elements that have a value. -/
def plusMinusAverage (inputs : Inputs) (attr : String) : Formula α α := do
  let op ← operation (α := α) inputs 1
  let values ← read (terms inputs (termNames inputs attr))
  match values with
  | [] => return 0
  | first :: others =>
    if op = 2 then return first - Scalar.sum others
    else if op = 3 then Scalar.divide? (Scalar.sum values) (Scalar.ofInt values.length)
    else return Scalar.sum values

/-- Product, quotient (operation 2) or power (operation 3). Division by something close to zero is
zero. -/
def multiplyDivide (inputs : Inputs) (attr : String) : Formula α α := do
  let op ← operation (α := α) inputs 1
  let letter := axisLetter attr
  let a ← read (inputs.component "input1" "i1" letter)
  let b ← read (inputs.component "input2" "i2" letter)
  if op = 2 then
    if Scalar.abs b < Scalar.zeroTolerance then return 0 else Scalar.divide? a b
  else if op = 3 then Scalar.pow? a b
  else return a * b

/-- One minus the input. -/
def reverse (inputs : Inputs) (attr : String) : Formula α α := do
  let value ← read (inputs.component "input" "i" (axisLetter attr))
  return 1 - value

/-! ### Selection -/

/-- Compares by the code of an operation: equal, different, greater, greater or equal, less, less or
equal. An unknown code compares false. -/
def compare (op : Int) (a b : α) : Bool :=
  match op with
  | 0 => Scalar.approximately a b
  | 1 => !Scalar.approximately a b
  | 2 => b < a
  | 3 => b ≤ a
  | 4 => a < b
  | 5 => a ≤ b
  | _ => false

/-- One of two colours, picked by comparing two terms. -/
def condition (inputs : Inputs) (attr : String) : Formula α α := do
  let first ← read (inputs.value ["firstTerm", "ft"])
  let second ← read (inputs.value ["secondTerm", "st"])
  let op ← operation (α := α) inputs 0
  let holds := compare op first second
  if ["outalpha", "oa"].contains (Text.lower attr) then
    let whenTrue ← read (inputs.value ["colorIfTrueA", "cta"])
    let whenFalse ← read (inputs.value ["colorIfFalseA", "cfa"])
    return if holds then whenTrue else whenFalse
  else
    let letter := colorLetter attr
    let whenTrue ← read (inputs.component "colorIfTrue" "ct" letter)
    let whenFalse ← read (inputs.component "colorIfFalse" "cf" letter)
    return if holds then whenTrue else whenFalse

/-- The input at a selected index. Where there is none the selector counts as a position among the
indices in use, and beyond the last of them the last is taken. -/
def choice (inputs : Inputs) : Formula α α := do
  let selector ← read (inputs.value ["selector", "sel", "index"])
  let index := max 0 (← Scalar.round? selector)
  if inputs.hasElement α "input" index then read (inputs.element "input" index 0)
  else
    let indices := inputs.indices ["input"]
    match indices[min index.toNat (indices.length - 1)]? with
    | some chosen => read (inputs.element "input" chosen 0)
    | none => return 0

/-- The weighted sum of inputs and the sum of their weights, over the given indices. -/
def weightedSum (inputs : Inputs) : List Int → α → α → Reading α (α × α)
  | [], total, weights => .done (total, weights)
  | i :: rest, total, weights => do
    let weight ← inputs.element "weight" i 1
    let input ← inputs.element "input" i 0
    weightedSum inputs rest (total + input * weight) (weights + weight)

/-- The weighted sum of the inputs, divided by the sum of the weights if the node says so; or that
sum itself. -/
def blendWeighted (inputs : Inputs) (attr : String) : Formula α α := do
  let (total, weights) ← read (weightedSum inputs (inputs.indices ["input", "weight"]) 0 0)
  if ["weightsum", "ws"].contains (Text.lower attr) then return weights
  else
    let normalize : α := inputs.option ["normalizeWeights", "normalize"] 0
    if 0.5 ≤ normalize ∧ Scalar.zeroTolerance < Scalar.abs weights then Scalar.divide? total weights
    else return total

/-! ### Ranges -/

def clamp (inputs : Inputs) (attr : String) : Formula α α := do
  let letter := colorLetter attr
  let value ← read (inputs.component "input" "ip" letter)
  let lo ← read (inputs.component "min" "mn" letter)
  let hi ← read (inputs.component "max" "mx" letter)
  return Scalar.clamp value lo hi

/-- Maps one range onto another, componentwise. -/
def setRange (inputs : Inputs) (attr : String) : Formula α α := do
  let letter := axisLetter attr
  let value ← read (inputs.component "value" "v" letter)
  let oldMin ← read (inputs.component "oldMin" "on" letter)
  let oldMax ← read (inputs.component "oldMax" "om" letter)
  let newMin ← read (inputs.component "min" "n" letter)
  let newMax ← read (inputs.component "max" "m" letter)
  Scalar.remap value oldMin oldMax newMin newMax

def remapValue (inputs : Inputs) : Formula α α := do
  let value ← read (inputs.value ["inputValue", "i", "iv"])
  let oldMin ← read (inputs.value ["inputMin", "imn"])
  let oldMax ← read (inputs.value ["inputMax", "imx"])
  let newMin ← read (inputs.value ["outputMin", "omn"])
  let newMax ← read (inputs.value ["outputMax", "omx"])
  Scalar.remap value oldMin oldMax newMin newMax

/-! ### Pair blend -/

/-- One of the two numbered triples of a pair blend. The number of a component may stand before or
behind the letter of its axis. -/
def numberedTriple (inputs : Inputs) (long short number : String) : Reading α (Vec3 α) :=
  inputs.triple [long ++ number, short ++ number] fun axis =>
    let letter := axis.letter
    [(long ++ number).push letter, (short ++ number).push letter.toLower,
     long.push letter ++ number, short.push letter.toLower ++ number]

/-- What a pair blend computes for an attribute. -/
inductive PairOutput where
  | translate
  | rotate
  | weight

def PairOutput.ofAttr (attr : String) : PairOutput :=
  let attr := Text.lower attr
  if Text.containsText attr "translate" || Text.startsWith attr "ot" then translate
  else if Text.containsText attr "rotate" || Text.startsWith attr "or" then rotate
  else weight

/-- Blends two translations and two rotations, the latter linearly or as rotations. -/
def pairBlend (inputs : Inputs) (attr : String) : Formula α (Result α) := do
  let blend ← read (inputs.value ["weight", "w", "blend"])
  let weight := Scalar.clampUnit blend
  let interpolation ← Scalar.round?
    (inputs.option (α := α) ["rotInterpolation", "rotationInterpolation", "ri"] 0)
  let order ← RotateOrder.ofCode? (inputs.option (α := α) ["rotateOrder", "ro"] 0)
  let axis := (Attr.axis? attr).getD .x
  match PairOutput.ofAttr attr with
  | .translate =>
    let first ← read (numberedTriple inputs "inTranslate" "it" "1")
    let second ← read (numberedTriple inputs "inTranslate" "it" "2")
    return .value (Scalar.lerp (first.component axis) (second.component axis) weight)
  | .rotate =>
    let first ← read (numberedTriple inputs "inRotate" "ir" "1")
    let second ← read (numberedTriple inputs "inRotate" "ir" "2")
    if interpolation = 0 then
      return .value (Scalar.lerp (first.component axis) (second.component axis) weight)
    else return .blend first second weight order axis
  | .weight => return .value weight

/-! ### Trigonometry -/

/-- The input of a function of one number. -/
def argument (inputs : Inputs) : Reading α α :=
  inputs.value ["input", "in", "angle", "a", "input1", "i1", "x"]

/-- A function of an angle in degrees. -/
def ofAngle (f : α → Except Fault α) (inputs : Inputs) : Formula α α := do
  let angle ← read (argument inputs)
  f (Scalar.radians angle)

/-- The angle in degrees that an inverse function gives. -/
def toAngle (f : α → Except Fault α) (inputs : Inputs) : Formula α α := do
  let value ← read (argument inputs)
  let angle ← f value
  return Scalar.degrees angle

/-- An inverse function whose argument is clamped to the interval from -1 to 1. -/
def ofClamped (f : α → Except Fault α) (x : α) : Except Fault α := f (Scalar.clamp x (-1) 1)

/-- The angle in degrees of a point. -/
def atan2 (inputs : Inputs) : Formula α α := do
  let y ← read (inputs.value ["input1", "i1", "y"])
  let x ← read (inputs.value ["input2", "i2", "x"])
  return Scalar.degrees (Scalar.atan2 y x)

/-- The formula of a kind; `none` for the kinds that have none here. -/
def ofKind? (kind : Kind) (inputs : Inputs) (attr : String) :
    Option (Formula α (Result α)) :=
  match kind with
  | .animBlend => value (animBlend inputs)
  | .animBlendAdditive => value (animBlendAdditive inputs)
  | .blendTwoAttr => value (blendTwoAttr inputs)
  | .unitConversion => value (unitConversion inputs)
  | .addDoubleLinear => value (addDoubleLinear inputs)
  | .multDoubleLinear => value (multDoubleLinear inputs)
  | .plusMinusAverage => value (plusMinusAverage inputs attr)
  | .multiplyDivide => value (multiplyDivide inputs attr)
  | .condition => value (condition inputs attr)
  | .clamp => value (clamp inputs attr)
  | .setRange => value (setRange inputs attr)
  | .blendColors => value (blendColors inputs attr)
  | .reverse => value (reverse inputs attr)
  | .remapValue => value (remapValue inputs)
  | .choice => value (choice inputs)
  | .blendWeighted => value (blendWeighted inputs attr)
  | .pairBlend => some (pairBlend inputs attr)
  | .sin => value (ofAngle Scalar.sin? inputs)
  | .cos => value (ofAngle Scalar.cos? inputs)
  | .tan => value (ofAngle Scalar.tan? inputs)
  | .asin => value (toAngle (ofClamped Scalar.asin?) inputs)
  | .acos => value (toAngle (ofClamped Scalar.acos?) inputs)
  | .atan => value (toAngle Scalar.atan? inputs)
  | .atan2 => value (atan2 inputs)
  | .expression => none
  | .animCurve => none
  | .literal => none
where
  value (formula : Formula α α) := some (Result.value <$> formula)

end Formula

end PlugGraph
