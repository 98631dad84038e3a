import PlugGraph.Number.Binary
import PlugGraph.Number.Numeral
import PlugGraph.Number.Scalar
import PlugGraph.Number.Single

/-!
# Double-precision floats as scalars

Rounding to an integer is exact, and a decimal numeral denotes the nearest float: infinity above
the range, zero below it.
-/

namespace PlugGraph.Double

/-- Tells the finite floats from the others. -/
def nonFinite? (x : Float) : Option NonFinite :=
  if x.isNaN then some .nan
  else if x.isInf then some (if x < 0 then .negInf else .posInf)
  else none

/-- Applies a rounding to the exact value of a float. -/
def toInt (rounding : Binary → Int) (x : Float) : Int := ((Binary.ofFloat? x).map rounding).getD 0

/-- The float nearest to `digits * 10 ^ exponent`. Exponents far outside the range of floats are
decided by the count of digits alone. -/
def ofDecimal (digits : Nat) (exponent : Int) : Float :=
  let magnitude := exponent + (digits.log2 : Int) * 30103 / 100000
  if digits == 0 || magnitude < -400 then 0
  else if 400 < magnitude then 1.0 / 0.0
  else match exponent with
    | .ofNat e => Float.ofScientific digits false e
    | .negSucc e => Float.ofScientific digits true (e + 1)

instance : Scalar Float where
  ofScientific digits negative exponent :=
    ofDecimal digits (if negative then -(exponent : Int) else exponent)
  decidableLT := inferInstance
  decidableLE := inferInstance
  nonFinite? := nonFinite?
  single := single
  ofInt := Float.ofInt
  floor := toInt Binary.floor
  ceil := toInt Binary.ceil
  round := toInt Binary.round
  abs := Float.abs
  sqrt := Float.sqrt
  sin := Float.sin
  cos := Float.cos
  tan := Float.tan
  asin := Float.asin
  acos := Float.acos
  atan := Float.atan
  exp := Float.exp
  log := Float.log
  atan2 := Float.atan2
  pow := Float.pow

def ofInteger (n : Int) : Float :=
  let magnitude := ofDecimal n.natAbs 0
  if n < 0 then -magnitude else magnitude

def ofNumeral : Numeral → Float
  | .nan => 0.0 / 0.0
  | .infinity negative => if negative then -1.0 / 0.0 else 1.0 / 0.0
  | .decimal negative digits exponent =>
    let magnitude := ofDecimal digits exponent
    if negative then -magnitude else magnitude

end PlugGraph.Double
