/-!
# The binary form of a float

A finite double-precision float is exactly `± mantissa * 2 ^ exponent` with natural mantissa.
Rounding to integers and printing work on this form, in exact integer arithmetic.
-/

namespace PlugGraph

/-- The number `± mantissa * 2 ^ exponent`. -/
structure Binary where
  negative : Bool
  mantissa : Nat
  exponent : Int
deriving DecidableEq, Repr

namespace Binary

/-- Bits of the fraction field of a double. -/
def fractionBits : Nat := 52

/-- The smallest exponent of a double. -/
def minExponent : Int := -1074

def power (e : Nat) : Nat := Nat.pow 2 e

/-- The exact value of a finite float; `none` for the others. -/
def ofFloat? (x : Float) : Option Binary :=
  let bits := x.toBits.toNat
  let fraction := bits % power fractionBits
  let biased : Nat := bits / power fractionBits % power 11
  if biased == power 11 - 1 then none
  else if biased == 0 then some ⟨bits / power 63 == 1, fraction, minExponent⟩
  else some ⟨bits / power 63 == 1, fraction + power fractionBits, minExponent + (biased : Int) - 1⟩

def signed (b : Binary) : Int := if b.negative then -(b.mantissa : Int) else b.mantissa

def floor (b : Binary) : Int :=
  match b.exponent with
  | .ofNat e => b.signed * power e
  | .negSucc e => b.signed / power (e + 1)

def ceil (b : Binary) : Int := -floor { b with negative := !b.negative }

/-- The nearest integer; a half goes to the even neighbour. -/
def round (b : Binary) : Int :=
  match b.exponent with
  | .ofNat e => b.signed * power e
  | .negSucc e =>
    let unit : Int := power (e + 1)
    let below := b.signed / unit
    let rest := 2 * (b.signed - below * unit)
    if rest < unit then below
    else if unit < rest then below + 1
    else if below % 2 == 0 then below else below + 1

/-- The magnitude as a quotient of natural numbers. -/
def ratio (b : Binary) : Nat × Nat :=
  match b.exponent with
  | .ofNat e => (b.mantissa * power e, 1)
  | .negSucc e => (b.mantissa, power (e + 1))

end Binary

end PlugGraph
