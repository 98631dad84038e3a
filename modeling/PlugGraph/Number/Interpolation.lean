import PlugGraph.Number.Scalar

/-!
# Comparing, clamping and interpolating

Interpolation clamps its parameter to the unit interval, and a range is mapped onto another one
by interpolating between the ends of the second. A range that is narrower than
`Scalar.zeroTolerance` is sent to the lower end of the other.
-/

namespace PlugGraph.Scalar

variable {α : Type} [Scalar α]

/-- Equality up to a few units of single precision. -/
def approximately (a b : α) : Bool :=
  decide (abs (b - a) < larger (1e-6 * larger (abs a) (abs b)) (1.1920928955078125e-7 * 8.0))

/-- Forces `x` into `[lo, hi]`. The lower bound is looked at first. -/
def clamp (x lo hi : α) : α := if x < lo then lo else if hi < x then hi else x

def clampUnit (x : α) : α := clamp x 0 1

/-- The point of the way from `a` to `b` at `t`, which is clamped; exact at both ends. -/
def lerp (a b t : α) : α :=
  let t := clampUnit t
  a * (1 - t) + b * t

/-- Maps the old range onto the new one, clamped at its ends. -/
def remap (value oldMin oldMax newMin newMax : α) : Except Fault α := do
  let span := oldMax - oldMin
  let t ← if abs span < zeroTolerance then pure 0 else divide? (value - oldMin) span
  return lerp newMin newMax t

/-- A running sum with the rounding errors gathered apart. -/
structure CompensatedSum (α : Type) where
  /-- The sum of the terms so far, rounded at each step. -/
  total : α
  /-- What rounding has lost. -/
  lost : α

/-- Adds a term; of the two summands the one of smaller magnitude is where digits get lost. -/
def CompensatedSum.add (acc : CompensatedSum α) (x : α) : CompensatedSum α :=
  let sum := acc.total + x
  let slip := if abs x ≤ abs acc.total then (acc.total - sum) + x else (x - sum) + acc.total
  ⟨sum, acc.lost + slip⟩

/-- The compensated value; an error term that is not finite is left out. -/
def CompensatedSum.value (acc : CompensatedSum α) : α :=
  if !(acc.lost == 0) && isFinite acc.lost then acc.total + acc.lost else acc.total

/-- The sum of a list, compensated for rounding. -/
def sum (xs : List α) : α := (xs.foldl CompensatedSum.add ⟨0, 0⟩).value

end PlugGraph.Scalar
