import PlugGraph.Attr

/-!
# Rotate orders

A rotation by three angles turns about the axes one after the other. The order is stored as a code
from 0 to 5.
-/

namespace PlugGraph

/-- The axes in the order in which they are turned about. -/
inductive RotateOrder where
  | xyz
  | yzx
  | zxy
  | xzy
  | yxz
  | zyx
deriving DecidableEq, Repr

namespace RotateOrder

/-- The order of a code; codes outside the range are moved to its nearest end. -/
def ofInt (code : Int) : RotateOrder :=
  if code ≤ 0 then xyz
  else if code = 1 then yzx
  else if code = 2 then zxy
  else if code = 3 then xzy
  else if code = 4 then yxz
  else zyx

def code : RotateOrder → Nat
  | xyz => 0
  | yzx => 1
  | zxy => 2
  | xzy => 3
  | yxz => 4
  | zyx => 5

/-- The order of an authored code, which is rounded. -/
def ofCode? {α : Type} [Scalar α] (code : α) : Except Fault RotateOrder :=
  (Scalar.round? code).map ofInt

def axes : RotateOrder → Axis × Axis × Axis
  | xyz => (.x, .y, .z)
  | yzx => (.y, .z, .x)
  | zxy => (.z, .x, .y)
  | xzy => (.x, .z, .y)
  | yxz => (.y, .x, .z)
  | zyx => (.z, .y, .x)

/-- The small letters of the axes in order. -/
def name (order : RotateOrder) : String :=
  let (first, second, third) := order.axes
  .ofList ([first, second, third].map fun axis => axis.letter.toLower)

/-- Whether the axes are a cyclic shift of x, y, z. -/
def isCyclic : RotateOrder → Bool
  | xyz => true
  | yzx => true
  | zxy => true
  | _ => false

@[simp] theorem ofInt_code (order : RotateOrder) : ofInt order.code = order := by
  cases order <;> rfl

end RotateOrder

end PlugGraph
