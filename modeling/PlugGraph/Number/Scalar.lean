/-!
# Scalars

The evaluator computes with a type `α` of *scalars*: ordered numbers with the elementary
functions, rounding to single precision, and possibly values that are not finite. Double-precision
floats are scalars, and so are the rationals once the elementary functions are supplied.

An arithmetic step may be impossible. `Fault` lists the causes, and every such step returns an
`Except Fault`.
-/

namespace PlugGraph

inductive Fault where
  /-- Rounding something that is not a number to an integer. -/
  | integerOfNaN
  /-- Rounding an infinity to an integer. -/
  | integerOfInfinity
  /-- An argument outside the domain of an elementary function. -/
  | domain
  /-- A finite result too large for a scalar. -/
  | range
  /-- A zero divisor. -/
  | divisionByZero
  /-- A curve parameter that lies between no two keys. -/
  | outsideKeys
  /-- A rotation given by a quaternion of length zero. -/
  | zeroQuaternion
  /-- A weight outside the unit interval. -/
  | weightOutside
  /-- A failure of a function supplied from outside. -/
  | external (family text : String)
deriving DecidableEq, Repr

namespace Fault

def family : Fault → String
  | integerOfNaN => "ValueError"
  | integerOfInfinity => "OverflowError"
  | domain => "ValueError"
  | range => "OverflowError"
  | divisionByZero => "ZeroDivisionError"
  | outsideKeys => "IndexError"
  | zeroQuaternion => "ValueError"
  | weightOutside => "ValueError"
  | external family _ => family

def text : Fault → String
  | integerOfNaN => "cannot convert float NaN to integer"
  | integerOfInfinity => "cannot convert float infinity to integer"
  | domain => "math domain error"
  | range => "math range error"
  | divisionByZero => "float division by zero"
  | outsideKeys => "tuple index out of range"
  | zeroQuaternion => "Found zero norm quaternions in `quat`."
  | weightOutside => "Interpolation times must be within the range [0.0, 1.0], both inclusive."
  | external _ text => text

def describe (fault : Fault) : String := fault.family ++ ": " ++ fault.text

end Fault

inductive NonFinite where
  | nan
  | posInf
  | negInf
deriving DecidableEq, Repr

def NonFinite.name : NonFinite → String
  | nan => "nan"
  | posInf => "inf"
  | negInf => "-inf"

/-- The arithmetic that evaluation needs. `floor`, `ceil` and `round` (halves to even) are used
on finite values only, and the elementary functions are the plain ones: which of their results
count as faults is decided in `Scalar.sin?` and its companions. -/
class Scalar (α : Type) extends Zero α, One α, Add α, Sub α, Mul α, Div α, Neg α, LT α, LE α,
    BEq α, OfScientific α where
  /-- `<` is decidable. -/
  decidableLT : DecidableLT α
  /-- `≤` is decidable. -/
  decidableLE : DecidableLE α
  /-- Tells the finite values (`none`) from the others. -/
  nonFinite? : α → Option NonFinite
  /-- The nearest single-precision number. -/
  single : α → α
  /-- An integer as a scalar. -/
  ofInt : Int → α
  /-- The greatest integer that is not above. -/
  floor : α → Int
  /-- The least integer that is not below. -/
  ceil : α → Int
  /-- The nearest integer, halves to even. -/
  round : α → Int
  /-- Magnitude. -/
  abs : α → α
  sqrt : α → α
  sin : α → α
  cos : α → α
  tan : α → α
  asin : α → α
  acos : α → α
  atan : α → α
  exp : α → α
  log : α → α
  atan2 : α → α → α
  pow : α → α → α

instance instDecidableLTScalar {α : Type} [Scalar α] : DecidableLT α := Scalar.decidableLT
instance instDecidableLEScalar {α : Type} [Scalar α] : DecidableLE α := Scalar.decidableLE

namespace Scalar

variable {α : Type} [Scalar α]

/-- Neither infinite nor undefined. -/
def isFinite (x : α) : Bool := (nonFinite? x).isNone

def isNaN (x : α) : Bool := nonFinite? x == some .nan

def isInfinite (x : α) : Bool := nonFinite? x == some .posInf || nonFinite? x == some .negInf

/-- The first argument unless the second is greater. -/
def larger (a b : α) : α := if a < b then b else a

/-- The first argument unless the second is smaller. -/
def smaller (a b : α) : α := if b < a then b else a

/-- Applies a rounding to an integer, which only finite values have. -/
def toInteger (rounding : α → Int) (x : α) : Except Fault Int :=
  match nonFinite? x with
  | none => .ok (rounding x)
  | some .nan => .error .integerOfNaN
  | some _ => .error .integerOfInfinity

def floor? (x : α) : Except Fault Int := toInteger floor x

def ceil? (x : α) : Except Fault Int := toInteger ceil x

def round? (x : α) : Except Fault Int := toInteger round x

/-- Division, which refuses a zero divisor. -/
def divide? (a b : α) : Except Fault α :=
  if b == 0 then .error .divisionByZero else .ok (a / b)

/-- Applies an elementary function of one argument. A result that is undefined although the
argument was not, or infinite although the argument was finite, is a fault; the latter is one of
range for functions that grow without bound. -/
def elementary (grows : Bool) (f : α → α) (x : α) : Except Fault α :=
  let y := f x
  if isNaN y && !isNaN x then .error .domain
  else if isInfinite y && isFinite x then .error (if grows then .range else .domain)
  else .ok y

def sqrt? (x : α) : Except Fault α := elementary false sqrt x
def sin? (x : α) : Except Fault α := elementary false sin x
def cos? (x : α) : Except Fault α := elementary false cos x
def tan? (x : α) : Except Fault α := elementary false tan x
def asin? (x : α) : Except Fault α := elementary false asin x
def acos? (x : α) : Except Fault α := elementary false acos x
def atan? (x : α) : Except Fault α := elementary false atan x
def exp? (x : α) : Except Fault α := elementary true exp x

def log? (x : α) : Except Fault α :=
  if isFinite x && !decide (0 < x) then .error .domain
  else if nonFinite? x == some .negInf then .error .domain
  else .ok (log x)

/-- Power. Finite arguments must have a finite result: an undefined one and a pole at zero are
outside the domain, anything else is out of range. -/
def pow? (x y : α) : Except Fault α :=
  let z := pow x y
  if isFinite x && isFinite y then
    if isNaN z then .error .domain
    else if isInfinite z then .error (if x == 0 then .domain else .range)
    else .ok z
  else .ok z

def pi : α := 3.141592653589793

def euler : α := 2.718281828459045

def radians (degrees : α) : α := degrees * (pi / 180.0)

def degrees (radians : α) : α := radians * (180.0 / pi)

/-- Magnitudes below this count as zero where they would divide. -/
def zeroTolerance : α := 1e-8

end Scalar

end PlugGraph
