/-!
# Axes and triples

A triple holds one component for each spatial axis.
-/

namespace PlugGraph

inductive Axis where
  | x
  | y
  | z
deriving DecidableEq, Repr

/-- The capital letter of an axis. -/
def Axis.letter : Axis → Char
  | x => 'X'
  | y => 'Y'
  | z => 'Z'

structure Vec3 (α : Type) where
  x : α
  y : α
  z : α
deriving DecidableEq, Repr

namespace Vec3

variable {α β : Type}

def component (v : Vec3 α) : Axis → α
  | .x => v.x
  | .y => v.y
  | .z => v.z

def ofFn (f : Axis → α) : Vec3 α := ⟨f .x, f .y, f .z⟩

def map (f : α → β) (v : Vec3 α) : Vec3 β := ⟨f v.x, f v.y, f v.z⟩

@[simp] theorem component_ofFn (f : Axis → α) (axis : Axis) : (ofFn f).component axis = f axis := by
  cases axis <;> rfl

@[simp] theorem component_map (f : α → β) (v : Vec3 α) (axis : Axis) :
    (v.map f).component axis = f (v.component axis) := by
  cases axis <;> rfl

end Vec3

end PlugGraph
