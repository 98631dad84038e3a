import Mathlib.Algebra.Order.Field.Basic
import Mathlib.Data.Rat.Floor
import PlugGraph.Number.Scalar

/-!
# Exact scalars

Scalars may round, and some are not even equal to themselves. Over an ordered field they do neither,
so what a formula computes can be compared with the number that it stands for. The rationals are
such scalars.
-/

namespace PlugGraph

/-- Scalars with the arithmetic and the order of a field, told apart where they differ. -/
class ExactScalar (α : Type) extends Scalar α, Field α, LinearOrder α, IsStrictOrderedRing α,
    LawfulBEq α

namespace Scalar

/-- Only zero is refused as a divisor. -/
theorem divide?_of_ne {α : Type} [ExactScalar α] (a : α) {b : α} (nonzero : b ≠ 0) :
    divide? a b = .ok (a / b) := by
  simp [divide?, nonzero]

end Scalar

namespace Rational

/-- The nearest integer, halves to even. -/
def nearest (x : ℚ) : Int :=
  let below := ⌊x⌋
  let part := x - below
  if part < 1 / 2 ∨ part = 1 / 2 ∧ below % 2 = 0 then below else below + 1

/-- The rationals round to integers only. Of the elementary functions they have the powers with an
integer as exponent; the others are the identity here. -/
instance : ExactScalar ℚ where
  __ := (inferInstance : Field ℚ)
  __ := (inferInstance : LinearOrder ℚ)
  __ := (inferInstance : IsStrictOrderedRing ℚ)
  decidableLT := inferInstance
  decidableLE := inferInstance
  nonFinite? _ := none
  single := id
  ofInt n := n
  floor x := ⌊x⌋
  ceil x := ⌈x⌉
  round := nearest
  abs x := |x|
  sqrt := id
  sin := id
  cos := id
  tan := id
  asin := id
  acos := id
  atan := id
  exp := id
  log := id
  atan2 x _ := x
  pow x y := x ^ ⌊y⌋

end Rational

end PlugGraph
