import PlugGraph.Number.Scalar
import PlugGraph.Runs

/-!
# Animation curves

A curve is given by keys, pairs of a parameter (mostly a time) and a value. Between two keys it
runs along a straight line, and outside of all keys it is constant. Keys are held in ascending
order of their parameters, one for each.

Positions among the keys are found by bisection. Keys whose parameters equal themselves have one
ascending order. If a parameter does not, like the float that is no number, there is no such order,
and the keys are left as merging runs leaves them.
-/

namespace PlugGraph

/-- A piecewise linear curve. -/
structure Curve (α : Type) where
  /-- Parameters with the values there. -/
  keys : List (α × α)

namespace Curve

variable {α : Type} [Scalar α]

/-- The place behind the items that are not `above`, found by bisection between `lo` and `hi`.
`fuel` bounds the number of halvings. -/
def bisect {β : Type} (above : β → Bool) (items : List β) : (fuel lo hi : Nat) → Nat
  | 0, lo, _ => lo
  | fuel + 1, lo, hi =>
    if lo < hi then
      let middle := (lo + hi) / 2
      match items[middle]? with
      | some item =>
        if above item then bisect above items fuel lo middle
        else bisect above items fuel (middle + 1) hi
      | none => lo
    else lo

/-- The number of keys up to and including a parameter. -/
def position (keys : List (α × α)) (parameter : α) : Nat :=
  bisect (fun key => decide (parameter < key.1)) keys keys.length 0 keys.length

/-- Sets the value at a parameter, or appends a key. -/
def setKey (key : α × α) : List (α × α) → List (α × α)
  | [] => [key]
  | other :: rest =>
    if other.1 == key.1 then (other.1, key.2) :: rest else other :: setKey key rest

/-- Keys in ascending order. -/
def sortKeys (keys : List (α × α)) : List (α × α) :=
  if keys.all fun key => key.1 == key.1 then
    keys.mergeSort fun key other => decide (key.1 ≤ other.1)
  else Runs.sort (fun key other => decide (key.1 < other.1)) keys

/-- The curve through the given keys; of several at one parameter the last one counts. -/
def ofKeys (keys : List (α × α)) : Curve α :=
  ⟨sortKeys (keys.foldl (fun keys key => setKey key keys) [])⟩

/-- The point at `parameter` of the line through two keys. -/
def between (left right : α × α) (parameter : α) : Except Fault α := do
  let rise ← Scalar.divide? ((right.2 - left.2) * (parameter - left.1)) (right.1 - left.1)
  return left.2 + rise

/-- The value at a parameter; zero without keys. -/
def value (curve : Curve α) (parameter : α) : Except Fault α :=
  match curve.keys.head?, curve.keys.getLast? with
  | some first, some last =>
    if parameter ≤ first.1 then .ok first.2
    else if last.1 ≤ parameter then .ok last.2
    else
      let place := position curve.keys parameter
      match curve.keys[place - 1]?, curve.keys[place]? with
      | some left, some right => between left right parameter
      | _, _ => .error .outsideKeys
  | _, _ => .ok 0

end Curve

end PlugGraph
