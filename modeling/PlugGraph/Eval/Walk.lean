import PlugGraph.Eval.Context
import Std.Data.ExtHashSet

/-!
# Walking to a plug

The value of a plug is found by a walk that keeps the plugs under way on a stack of its own. Each
step attempts the reading of the topmost plug with the values known so far. If the reading lacks
the value of another plug, that plug goes on top of the stack and the attempt is dropped, to be
repeated later on; otherwise the topmost plug gets its value and leaves the stack.

A plug that is read while it is under way counts as zero. This is how cycles end. Each pair of a
plug and a plug under way that it reads is reported once, however often the reading is attempted.
-/

namespace PlugGraph

/-- What has been found out on the way to a plug. -/
structure Notes (α : Type) where
  /-- The values known so far. -/
  cache : Std.ExtTreeMap String α
  /-- The pairs of a plug and a plug under way that it reads which have been reported. -/
  reported : Std.ExtHashSet (String × String)
  /-- What has been let be seen, in order. -/
  events : Array (Event α)
  /-- The plugs visited, the latest first. -/
  visited : List String

namespace Notes

variable {α : Type}

/-- Nothing but the values that are known already. -/
def start (cache : Std.ExtTreeMap String α) : Notes α :=
  { cache, reported := ∅, events := #[], visited := [] }

def visit (notes : Notes α) (plug : String) : Notes α :=
  { notes with visited := plug :: notes.visited }

/-- Reports that a plug reads a plug under way, unless that has been reported before. -/
def reportCycle (notes : Notes α) (reader plug : String) : Notes α :=
  if notes.reported.contains (reader, plug) then notes
  else
    { notes with
      reported := notes.reported.insert (reader, plug)
      events := notes.events.push (.diagnostic ⟨plug, .beingResolved⟩) }

@[simp] theorem reportCycle_cache (notes : Notes α) (reader plug : String) :
    (notes.reportCycle reader plug).cache = notes.cache := by
  unfold reportCycle
  split <;> rfl

@[simp] theorem reportCycle_visited (notes : Notes α) (reader plug : String) :
    (notes.reportCycle reader plug).visited = notes.visited := by
  unfold reportCycle
  split <;> rfl

/-- Keeps the value of a plug and what has been reported with it. -/
def keep (notes : Notes α) (plug : String) (settled : Context.Settled α) : Notes α :=
  { notes with
    cache := notes.cache.insert plug settled.value
    events := notes.events ++ settled.events }

end Notes

/-- A part of an attempt, which ends early when it lacks the value of a plug. -/
abbrev Attempt (α ω : Type) := ExceptT String (StateM (Notes α)) ω

/-- What a walk works at. -/
structure Desk where
  /-- The plugs under way, the topmost first. -/
  stack : List String
  /-- The plugs on the stack. -/
  underway : Std.ExtTreeSet String
  /-- The plug whose reading is being attempted. -/
  current : Option String

namespace Desk

variable {α ω : Type} [Scalar α]

/-- Reads a plug: gives its value if that is known, and zero if the plug is under way. -/
def read (desk : Desk) (plug : String) : Attempt α α := fun notes =>
  match notes.cache[plug]? with
  | some value => (.ok value, notes)
  | none =>
    if plug ∈ desk.underway then (.ok 0, notes.reportCycle (desk.current.getD plug) plug)
    else (.error plug, notes)

/-- Carries a reading on as far as the notes allow. The ending is its result or the plug whose
value is lacking. -/
def carry (desk : Desk) (reading : Reading α ω) (notes : Notes α) : Except String ω × Notes α :=
  (reading.answerM (m := ExceptT String (StateM (Notes α))) desk.read).run.run notes

@[simp] theorem carry_done (desk : Desk) (result : ω) (notes : Notes α) :
    desk.carry (.done result) notes = (.ok result, notes) := rfl

theorem carry_ask (desk : Desk) (plug : String) (next : α → Reading α ω) (notes : Notes α) :
    desk.carry (.ask plug next) notes =
      match desk.read plug notes with
      | (.ok value, notes) => desk.carry (next value) notes
      | (.error missing, notes) => (.error missing, notes) := by
  simp only [carry, Dialogue.answerM_ask, bind, ExceptT.bind, ExceptT.run, ExceptT.mk, StateT.bind,
    StateT.run]
  cases desk.read plug notes with
  | mk ending notes => cases ending <;> rfl

/-- A reading that begins with a plug whose value is known goes on with that. -/
theorem carry_known {desk : Desk} {notes : Notes α} {plug : String} {value : α}
    (known : notes.cache[plug]? = some value) (next : α → Reading α ω) :
    desk.carry (.ask plug next) notes = desk.carry (next value) notes := by
  simp only [carry_ask, read, known]

/-- A reading that begins with a plug under way reports that and goes on with zero. -/
theorem carry_underway {desk : Desk} {notes : Notes α} {plug : String}
    (unknown : notes.cache[plug]? = none) (underway : plug ∈ desk.underway)
    (next : α → Reading α ω) :
    desk.carry (.ask plug next) notes =
      desk.carry (next 0) (notes.reportCycle (desk.current.getD plug) plug) := by
  simp only [carry_ask, read, unknown, if_pos underway]

/-- A reading that begins with any other plug ends there. -/
theorem carry_missing {desk : Desk} {notes : Notes α} {plug : String}
    (unknown : notes.cache[plug]? = none) (idle : plug ∉ desk.underway)
    (next : α → Reading α ω) :
    desk.carry (.ask plug next) notes = (.error plug, notes) := by
  simp only [carry_ask, read, unknown, if_neg idle]

end Desk

/-- How far a walk has come. -/
structure Walk (α : Type) extends Desk, Notes α

namespace Walk

variable {α : Type}

def push (walk : Walk α) (plug : String) : Walk α :=
  { walk with
    toNotes := walk.toNotes.visit plug
    stack := plug :: walk.stack
    underway := walk.underway.insert plug }

/-- Takes the topmost plug, which has got its value, off the stack. -/
def pop (walk : Walk α) (plug : String) (settled : Context.Settled α) : Walk α :=
  { walk with
    toNotes := walk.toNotes.keep plug settled
    stack := walk.stack.tail
    underway := walk.underway.erase plug }

@[simp] theorem push_stack (walk : Walk α) (plug : String) :
    (walk.push plug).stack = plug :: walk.stack := rfl

@[simp] theorem push_underway (walk : Walk α) (plug : String) :
    (walk.push plug).underway = walk.underway.insert plug := rfl

@[simp] theorem push_cache (walk : Walk α) (plug : String) :
    (walk.push plug).cache = walk.cache := rfl

@[simp] theorem push_visited (walk : Walk α) (plug : String) :
    (walk.push plug).visited = plug :: walk.visited := rfl

@[simp] theorem pop_stack (walk : Walk α) (plug : String) (settled : Context.Settled α) :
    (walk.pop plug settled).stack = walk.stack.tail := rfl

@[simp] theorem pop_underway (walk : Walk α) (plug : String) (settled : Context.Settled α) :
    (walk.pop plug settled).underway = walk.underway.erase plug := rfl

@[simp] theorem pop_cache (walk : Walk α) (plug : String) (settled : Context.Settled α) :
    (walk.pop plug settled).cache = walk.cache.insert plug settled.value := rfl

@[simp] theorem pop_visited (walk : Walk α) (plug : String) (settled : Context.Settled α) :
    (walk.pop plug settled).visited = walk.visited := rfl

variable [Scalar α]

def attempt (c : Context α) (frame : α) (plug : String) (walk : Walk α) :
    Except String (Outcome α) × Walk α :=
  let desk := { walk.toDesk with current := some plug }
  let (ending, notes) := desk.carry (c.reading frame plug) walk.toNotes
  (ending, { toDesk := { desk with current := none }, toNotes := notes })

/-- Attempts the topmost plug and acts on the ending. -/
def step (c : Context α) (frame : α) (walk : Walk α) : Walk α :=
  match walk.stack with
  | [] => walk
  | plug :: _ =>
    match walk.attempt c frame plug with
    | (.error missing, walk) => walk.push missing
    | (.ok outcome, walk) => walk.pop plug (c.settle plug outcome)

/-- Steps until the stack is empty, but at most `fuel` times. -/
def run (c : Context α) (frame : α) : (fuel : Nat) → Walk α → Walk α
  | 0, walk => walk
  | fuel + 1, walk => if walk.stack.isEmpty then walk else run c frame fuel (step c frame walk)

end Walk

end PlugGraph
