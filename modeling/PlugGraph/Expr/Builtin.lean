import PlugGraph.Number.Interpolation
import PlugGraph.Text.Case

/-!
# Built-in functions and constants of expressions

Every function takes a fixed number of scalars and is found by its name in any letter case. Where
an argument would leave the domain of a root, a logarithm or an inverse function it is moved to the
nearest point of the domain.
-/

namespace PlugGraph.Expr

inductive Builtin where
  | sin
  | cos
  | tan
  | asin
  | acos
  | atan
  | atan2
  | abs
  | sqrt
  | pow
  | min
  | max
  | clamp
  | floor
  | ceil
  | exp
  | log
deriving DecidableEq, Repr

namespace Builtin

def all : List Builtin :=
  [sin, cos, tan, asin, acos, atan, atan2, abs, sqrt, pow, min, max, clamp, floor, ceil, exp, log]

def name : Builtin → String
  | sin => "sin"
  | cos => "cos"
  | tan => "tan"
  | asin => "asin"
  | acos => "acos"
  | atan => "atan"
  | atan2 => "atan2"
  | abs => "abs"
  | sqrt => "sqrt"
  | pow => "pow"
  | min => "min"
  | max => "max"
  | clamp => "clamp"
  | floor => "floor"
  | ceil => "ceil"
  | exp => "exp"
  | log => "log"

def arity : Builtin → Nat
  | atan2 => 2
  | pow => 2
  | min => 2
  | max => 2
  | clamp => 3
  | _ => 1

/-- The function of a name in any letter case. -/
def ofName? (name : String) : Option Builtin :=
  let name := Text.lower name
  all.find? (·.name == name)

variable {α : Type} [Scalar α]

def apply₁ (f : Builtin) (x : α) : Except Fault α :=
  match f with
  | sin => Scalar.sin? x
  | cos => Scalar.cos? x
  | tan => Scalar.tan? x
  | asin => Scalar.asin? (Scalar.clamp x (-1) 1)
  | acos => Scalar.acos? (Scalar.clamp x (-1) 1)
  | atan => Scalar.atan? x
  | sqrt => Scalar.sqrt? (Scalar.larger 0 x)
  | floor => (Scalar.floor? x).map Scalar.ofInt
  | ceil => (Scalar.ceil? x).map Scalar.ofInt
  | exp => Scalar.exp? x
  | log => Scalar.log? (Scalar.larger Scalar.zeroTolerance x)
  | _ => .ok (Scalar.abs x)

def apply₂ (f : Builtin) (x y : α) : Except Fault α :=
  match f with
  | atan2 => .ok (Scalar.atan2 x y)
  | pow => Scalar.pow? x y
  | min => .ok (Scalar.smaller x y)
  | _ => .ok (Scalar.larger x y)

/-- Applies a function to arguments in source order; zero if their number is wrong. -/
def apply (f : Builtin) (args : List α) : Except Fault α :=
  if args.length = f.arity then
    match args with
    | [x] => f.apply₁ x
    | [x, y] => f.apply₂ x y
    | [x, lo, hi] => .ok (Scalar.clamp x lo hi)
    | _ => .ok 0
  else .ok 0

end Builtin

/-- The value of a constant in any letter case; `time` and `frame` are the current frame. -/
def constant? {α : Type} [Scalar α] (frame : α) (name : String) : Option α :=
  match Text.lower name with
  | "time" => some frame
  | "frame" => some frame
  | "pi" => some Scalar.pi
  | "e" => some Scalar.euler
  | _ => none

end PlugGraph.Expr
