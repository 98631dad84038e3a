import PlugGraph.Number.Scalar

/-!
# Ranges of frames

The frames from a first to a last one, both included, a positive step apart. The last frame may be
missed by a tiny part of a step, so that rounding does not cut it off.
-/

namespace PlugGraph

inductive FrameRangeError (α : Type) where
  /-- The step is not a positive finite number. -/
  | badStep (step : α)
  /-- The number of frames cannot be computed. -/
  | fault (cause : Fault)

def frameCount {α : Type} [Scalar α] (first last step : α) : Except Fault Nat := do
  let steps ← Scalar.divide? (last - first) step
  let count ← Scalar.floor? (steps + 1e-9)
  return (count + 1).toNat

/-- The frames from `first` to `last` in ascending order. -/
def frameRange {α : Type} [Scalar α] (first last step : α) :
    Except (FrameRangeError α) (List α) :=
  if !Scalar.isFinite step || step ≤ 0 then .error (.badStep step)
  else if last < first then .ok []
  else
    match frameCount first last step with
    | .ok count => .ok ((List.range count).map fun (i : Nat) => first + Scalar.ofInt i * step)
    | .error cause => .error (.fault cause)

end PlugGraph
