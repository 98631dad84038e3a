import PlugGraph.Number.Binary

/-!
# Decimal approximations of binary numbers

The points `c * 10 ^ g` for integer `c` form the decimal *grid* of exponent `g`. A positive binary
number lies between two neighbours on every grid, and both roundings of this module pick one of
the two: `significant` the nearer on the grid with a given number of digits, `shortest` the nearer
that still reads back, on the coarsest grid that has one.

A decimal *reads back* if the binary number is the one nearest to it, that is, if it lies between
the midpoints to the two neighbouring binary numbers; a midpoint itself belongs to the even
mantissa.
-/

namespace PlugGraph

/-- The number `digits * 10 ^ exponent`. -/
structure Decimal where
  digits : Nat
  exponent : Int
deriving DecidableEq, Repr

namespace Decimal

/-- The number of decimal digits of a natural number; none for zero. -/
def digitCount (n : Nat) : Nat := if n == 0 then 0 else (Nat.repr n).length

/-- The exponent of the greatest power of ten that is at most `num / den`, for positive `num`. -/
def decade (num den : Nat) : Int :=
  if den ≤ num then digitCount (num / den) - 1
  else -digitCount ((den + num - 1) / num - 1)

/-- Without the zeros at the end of the digits. The zero decimal has exponent zero. The first
argument bounds the number of zeros dropped. -/
def dropZeros : Nat → Decimal → Decimal
  | 0, d => d
  | n + 1, d =>
    if d.digits == 0 then ⟨0, 0⟩
    else if d.digits % 10 == 0 then dropZeros n ⟨d.digits / 10, d.exponent + 1⟩
    else d

/-- The same number with the fewest digits. -/
def normalized (d : Decimal) : Decimal := dropZeros (digitCount d.digits + 1) d

end Decimal

namespace Binary

/-- A binary number in quarters of the unit in its last place, as seen from the decimal grid of an
exponent: `x` quarters are `x * num / den` grid units. -/
structure OnGrid where
  num : Nat
  den : Nat

/-- The scale between quarter units of `b` and the grid of exponent `g`. -/
def onGrid (b : Binary) (g : Int) : OnGrid :=
  let quarter := b.exponent - 2
  { num := power quarter.toNat * Nat.pow 10 (-g).toNat
    den := power (-quarter).toNat * Nat.pow 10 g.toNat }

/-- The exponent of the greatest power of ten that is at most a positive binary number. -/
def decade (b : Binary) : Int := Decimal.decade b.ratio.1 b.ratio.2

/-- The nearest decimal with `count` significant digits; a tie goes to the even one. -/
def significant (count : Nat) (b : Binary) : Decimal :=
  if b.mantissa == 0 then ⟨0, 0⟩
  else
    let g := b.decade - count + 1
    let scale := b.onGrid g
    let value := 4 * b.mantissa * scale.num
    let below := value / scale.den
    let rest := 2 * (value - below * scale.den)
    let up := scale.den < rest || (rest == scale.den && below % 2 == 1)
    ⟨if up then below + 1 else below, g⟩

/-- The decimal with `count` significant digits that reads back as `b`; of two the nearer. -/
def readsBack? (b : Binary) (count : Nat) : Option Decimal :=
  let g := b.decade - count + 1
  let scale := b.onGrid g
  let center := 4 * b.mantissa
  let narrow := b.mantissa == power fractionBits && minExponent < b.exponent
  let low := (if narrow then center - 1 else center - 2) * scale.num
  let high := (center + 2) * scale.num
  let value := center * scale.num
  let even := b.mantissa % 2 == 0
  let inside (c : Nat) : Bool :=
    let point := c * scale.den
    if even then low ≤ point && point ≤ high else low < point && point < high
  let below := value / scale.den
  let above := below + 1
  match inside below, inside above with
  | false, false => none
  | true, false => some ⟨below, g⟩
  | false, true => some ⟨above, g⟩
  | true, true =>
    let left := value - below * scale.den
    let right := above * scale.den - value
    if left < right || (left == right && below % 2 == 0) then some ⟨below, g⟩
    else some ⟨above, g⟩

/-- Digits that suffice for every double to read back. -/
def maxDigits : Nat := 17

/-- The decimal with the fewest digits that reads back as `b`. -/
def shortest (b : Binary) : Decimal :=
  if b.mantissa == 0 then ⟨0, 0⟩
  else ((List.range' 1 maxDigits).findSome? b.readsBack?).getD (b.significant maxDigits)

end Binary

end PlugGraph
