import PlugGraph.Scene.Node

/-!
# Kinds of nodes

The type of a node selects how its attributes are computed. Types are matched exactly, except that
every type that begins with `animBlendNode`, in any letter case, is an animation blend.
-/

namespace PlugGraph

/-- How the attributes of a node are computed. -/
inductive Kind where
  /-- Read as authored. -/
  | literal
  /-- Evaluated by a curve. -/
  | animCurve
  | animBlend
  | animBlendAdditive
  | blendTwoAttr
  | unitConversion
  | addDoubleLinear
  | multDoubleLinear
  | plusMinusAverage
  | multiplyDivide
  | condition
  | clamp
  | setRange
  | blendColors
  | reverse
  | remapValue
  | choice
  | blendWeighted
  | pairBlend
  | sin
  | cos
  | tan
  | asin
  | acos
  | atan
  | atan2
  | expression
deriving DecidableEq, Repr

namespace Kind

def name : Kind → String
  | literal => "literal"
  | animCurve => "anim_curve"
  | animBlend => "anim_blend"
  | animBlendAdditive => "anim_blend_additive"
  | blendTwoAttr => "blend_two_attr"
  | unitConversion => "unit_conversion"
  | addDoubleLinear => "add_double_linear"
  | multDoubleLinear => "mult_double_linear"
  | plusMinusAverage => "plus_minus_average"
  | multiplyDivide => "multiply_divide"
  | condition => "condition"
  | clamp => "clamp"
  | setRange => "set_range"
  | blendColors => "blend_colors"
  | reverse => "reverse"
  | remapValue => "remap_value"
  | choice => "choice"
  | blendWeighted => "blend_weighted"
  | pairBlend => "pair_blend"
  | sin => "sin"
  | cos => "cos"
  | tan => "tan"
  | asin => "asin"
  | acos => "acos"
  | atan => "atan"
  | atan2 => "atan2"
  | expression => "expression"

/-- The types that are matched exactly. -/
def byType : List (String × Kind) :=
  [("blendTwoAttr", blendTwoAttr), ("unitConversion", unitConversion),
   ("addDoubleLinear", addDoubleLinear), ("multDoubleLinear", multDoubleLinear),
   ("plusMinusAverage", plusMinusAverage), ("multiplyDivide", multiplyDivide),
   ("condition", condition), ("clamp", clamp), ("setRange", setRange),
   ("blendColors", blendColors), ("reverse", reverse), ("remapValue", remapValue),
   ("choice", choice), ("blendWeighted", blendWeighted), ("pairBlend", pairBlend),
   ("expression", expression),
   ("sin", sin), ("sinDL", sin), ("cos", cos), ("cosDL", cos), ("tan", tan), ("tanDL", tan),
   ("asin", asin), ("asinDL", asin), ("acos", acos), ("acosDL", acos),
   ("atan", atan), ("atanDL", atan), ("atan2", atan2), ("atan2DL", atan2)]

def ofType (type : String) : Kind :=
  match byType.lookup type with
  | some kind => kind
  | none =>
    let folded := Text.lower type
    if Text.startsWith folded "animblendnode" then
      if Text.containsText folded "additive" then animBlendAdditive else animBlend
    else if Text.startsWith type Node.curveTypeStart then animCurve
    else literal

def hasFormula : Kind → Bool
  | literal => false
  | animCurve => false
  | _ => true

/-- Whether the formula computes outputs only; other attributes are read as authored then. -/
def outputsOnly : Kind → Bool
  | multiplyDivide | condition | clamp | setRange | blendColors | reverse | remapValue | choice
  | sin | cos | tan | asin | acos | atan | atan2 => true
  | _ => false

end Kind

end PlugGraph
