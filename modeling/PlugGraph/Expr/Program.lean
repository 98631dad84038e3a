import PlugGraph.Channel
import PlugGraph.Expr.Assignment
import PlugGraph.Expr.Postfix

/-!
# Expression programs

The statements of an expression node run in source order. A statement that assigns to a script
variable is *local*: it only changes what later statements see. The others feed the output slots of
the node, numbered from zero. A slot can be computed alone, the whole program can be run for the
values of all statements, and the values for transform channels can be collected.
-/

namespace PlugGraph.Expr

/-- The statements of an expression node. -/
structure Program where
  assignments : List Assignment
deriving DecidableEq, Repr

namespace Program

/-- The program of a source text. Text without a statement is a single value for slot zero. -/
def ofText (text : String) : Program :=
  match Assignment.parse text with
  | [] =>
    if Text.isBlankText text then ⟨[]⟩
    else
      let value := Text.trimRightIf (· == ';') (Text.trim text.toList)
      ⟨[⟨"", .ofList (Text.trim value)⟩]⟩
  | assignments => ⟨assignments⟩

/-- The statements that feed output slots, in slot order. -/
def outputs (program : Program) : List Assignment :=
  program.assignments.filter (!·.isLocal)

def loads (α : Type) [Scalar α] (program : Program) : List String :=
  program.assignments.flatMap fun a => Postfix.loads (Postfix.ofText (α := α) a.value)

variable {α : Type} [Scalar α]

/-- The value for a slot, given the variables so far; zero if there is no such slot. -/
def slotFrom (frame : α) : Postfix.Variables α → List Assignment → (slot : Nat) →
    Dialogue String (Option α) α
  | _, [], _ => .done 0
  | locals, a :: rest, slot =>
    if a.isLocal then do
      let value ← evaluate frame locals a.value
      slotFrom frame ((a.target, value) :: locals) rest slot
    else
      match slot with
      | 0 => evaluate frame locals a.value
      | slot + 1 => slotFrom frame locals rest slot

/-- The value for an output slot; zero if there is no such slot. -/
def output (program : Program) (frame : α) : Int → Dialogue String (Option α) α
  | .ofNat slot => slotFrom frame [] program.assignments slot
  | .negSucc _ => .done 0

/-- Statements with their values, given the variables so far. -/
def valuesFrom (frame : α) : Postfix.Variables α → List Assignment →
    Dialogue String (Option α) (List (Assignment × α))
  | _, [] => .done []
  | locals, a :: rest => do
    let value ← evaluate frame locals a.value
    let locals := if a.isLocal then (a.target, value) :: locals else locals
    let values ← valuesFrom frame locals rest
    return (a, value) :: values

def values (program : Program) (frame : α) :
    Dialogue String (Option α) (List (Assignment × α)) :=
  valuesFrom frame [] program.assignments

structure Write (α : Type) where
  node : String
  channel : Channel
  value : α

def write? (entry : Assignment × α) : Option (Write α) := do
  let plug ← entry.1.targetPlug?
  let channel ← Channel.ofName? (Text.lower plug.attr)
  return ⟨plug.node, channel, entry.2⟩

/-- The values assigned to transform channels, in order. -/
def writes (program : Program) (frame : α) : Dialogue String (Option α) (List (Write α)) := do
  return (← program.values frame).filterMap write?

end Program

end PlugGraph.Expr
