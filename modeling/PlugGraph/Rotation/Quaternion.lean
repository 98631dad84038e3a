import PlugGraph.Rotation.Order

/-!
# Rotations as quaternions

Euler angles in degrees turn about fixed axes in a rotate order. As a quaternion the rotation is the
product of those about single axes, later ones to the left. Back from a quaternion the middle angle
lies between -90 and 90 degrees; where it reaches one of these the outer two angles are not unique,
and the last one is zero. Between two rotations `slerp` turns about one axis at constant speed, the
shorter way round.
-/

namespace PlugGraph

/-- A quaternion, scalar part last. -/
structure Quaternion (α : Type) where
  x : α
  y : α
  z : α
  w : α

namespace Quaternion

variable {α : Type} [Scalar α]

/-- The vector part along an axis. -/
def component (q : Quaternion α) : Axis → α
  | .x => q.x
  | .y => q.y
  | .z => q.z

/-- The product: first `q`, then `p`. -/
def mul (p q : Quaternion α) : Quaternion α :=
  { x := p.w * q.x + q.w * p.x + (p.y * q.z - p.z * q.y)
    y := p.w * q.y + q.w * p.y + (p.z * q.x - p.x * q.z)
    z := p.w * q.z + q.w * p.z + (p.x * q.y - p.y * q.x)
    w := p.w * q.w - p.x * q.x - p.y * q.y - p.z * q.z }

def inverse (q : Quaternion α) : Quaternion α := ⟨q.x * -1, q.y * -1, q.z * -1, q.w⟩

def negated (q : Quaternion α) : Quaternion α := ⟨q.x * -1, q.y * -1, q.z * -1, q.w * -1⟩

/-- Scaled to length one. A quaternion whose length is zero or not a number is no rotation. -/
def normalized? (q : Quaternion α) : Except Fault (Quaternion α) :=
  let length := Scalar.sqrt (q.x * q.x + q.y * q.y + q.z * q.z + q.w * q.w)
  if length == 0 || !(length == length) then .error .zeroQuaternion
  else .ok ⟨q.x / length, q.y / length, q.z / length, q.w / length⟩

/-- The rotation about an axis by an angle in radians. -/
def about (axis : Axis) (angle : α) : Quaternion α :=
  let s := Scalar.sin (angle / 2.0)
  let c := Scalar.cos (angle / 2.0)
  match axis with
  | .x => ⟨s, 0, 0, c⟩
  | .y => ⟨0, s, 0, c⟩
  | .z => ⟨0, 0, s, c⟩

/-- The rotation of Euler angles in degrees, as the plain product of the turns. -/
def ofEuler (order : RotateOrder) (angles : Vec3 α) : Quaternion α :=
  let (first, second, third) := order.axes
  let turn (axis : Axis) := about axis (Scalar.radians (angles.component axis))
  mul (turn third) (mul (turn second) (turn first))

/-- Angles within this of a degenerate case belong to it. -/
def angleTolerance : α := 1e-7

/-- An angle moved by one turn into the range from minus to plus half a turn. -/
def wrapAngle (angle : α) : α :=
  if angle < -Scalar.pi then angle + 2.0 * Scalar.pi
  else if Scalar.pi < angle then angle - 2.0 * Scalar.pi
  else angle

/-- The first, second and third angle, in radians, of a rotation in a rotate order. -/
def eulerAngles (order : RotateOrder) (q : Quaternion α) : α × α × α :=
  let (first, second, third) := order.axes
  let sign : α := if order.isCyclic then 1 else -1
  let qi := q.component first
  let qj := q.component second
  let qk := q.component third
  let a := q.w - qj
  let b := qi + qk * sign
  let c := qj + q.w
  let d := qk * sign - qi
  let tilt := 2.0 * Scalar.atan2 (Scalar.sqrt (c * c + d * d)) (Scalar.sqrt (a * a + b * b))
  let halfSum := Scalar.atan2 b a
  let halfDifference := Scalar.atan2 d c
  let (one, three) :=
    if Scalar.abs tilt ≤ angleTolerance then (2.0 * halfSum, 0)
    else if Scalar.abs (tilt - Scalar.pi) ≤ angleTolerance then (2.0 * halfDifference * -1, 0)
    else (halfSum - halfDifference, halfSum + halfDifference)
  (wrapAngle one, wrapAngle (tilt - Scalar.pi / 2.0), wrapAngle (three * sign))

/-- The Euler angles of a rotation in degrees. -/
def toEuler (order : RotateOrder) (q : Quaternion α) : Vec3 α :=
  let (first, second, _) := order.axes
  let (one, two, three) := eulerAngles order q
  Vec3.ofFn fun axis =>
    Scalar.degrees (if axis = first then one else if axis = second then two else three)

def length (v : Vec3 α) : α := Scalar.sqrt (v.x * v.x + v.y * v.y + v.z * v.z)

/-- Angles up to this are expanded in series. -/
def smallAngle : α := 1e-3

/-- The axis of a rotation scaled by its angle, which is at most half a turn. -/
def toRotationVector (q : Quaternion α) : Vec3 α :=
  let q := if q.w < 0 then q.negated else q
  let angle := 2.0 * Scalar.atan2 (length ⟨q.x, q.y, q.z⟩) q.w
  let scale :=
    if angle ≤ smallAngle then
      let square := angle * angle
      2.0 + square / 12.0 + 7.0 * square * square / 2880.0
    else angle / Scalar.sin (angle / 2.0)
  ⟨scale * q.x, scale * q.y, scale * q.z⟩

/-- The rotation about the direction of a triple by its length. -/
def ofRotationVector (v : Vec3 α) : Quaternion α :=
  let angle := length v
  let scale :=
    if angle ≤ smallAngle then
      let square := angle * angle
      0.5 - square / 48.0 + square * square / 3840.0
    else Scalar.sin (angle / 2.0) / angle
  ⟨scale * v.x, scale * v.y, scale * v.z, Scalar.cos (angle / 2.0)⟩

/-- The rotation at `weight` of the way from `p` to `q`. -/
def slerp (p q : Quaternion α) (weight : α) : Except Fault (Quaternion α) := do
  let turn := (← (mul p.inverse q).normalized?).toRotationVector
  if 0 ≤ weight ∧ weight ≤ 1 then
    (mul p (ofRotationVector (turn.map (· * weight)))).normalized?
  else throw .weightOutside

end Quaternion

/-- A way to blend two rotations, given by Euler angles in degrees in one rotate order. -/
abbrev RotationBlend (α : Type) := Vec3 α → Vec3 α → α → RotateOrder → Except Fault (Vec3 α)

/-- Blends two rotations by turning about one axis at constant speed. -/
def slerpEuler {α : Type} [Scalar α] : RotationBlend α := fun start target weight order => do
  let blend ← Quaternion.slerp (.ofEuler order start) (.ofEuler order target) weight
  return blend.toEuler order

end PlugGraph
