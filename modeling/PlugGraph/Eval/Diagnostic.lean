import PlugGraph.Rotation.Quaternion
import PlugGraph.Text.Quoted

/-!
# Diagnostics

Evaluation never fails: where a plug has no value of its own it gets a default, mostly zero. Each
time it does, a diagnostic says for which plug and why.
-/

namespace PlugGraph

inductive DiagnosticKind where
  | cycle
  | missingNode
  | unsupportedNode
  | formulaError
  | nonFinite
deriving DecidableEq, Repr

namespace DiagnosticKind

def name : DiagnosticKind → String
  | cycle => "cycle"
  | missingNode => "missing_node"
  | unsupportedNode => "unsupported_node"
  | formulaError => "formula_error"
  | nonFinite => "non_finite"

/-- All kinds in the alphabetical order of their names. -/
def all : List DiagnosticKind := [cycle, formulaError, missingNode, nonFinite, unsupportedNode]

end DiagnosticKind

/-- Why a plug got a default. -/
inductive Cause where
  /-- It was read while it was being resolved. -/
  | beingResolved
  /-- Its text has no node or no attribute. -/
  | notAPlug
  /-- It names no known node. -/
  | unknownNode
  /-- It belongs to a curve node without a curve. -/
  | curveWithoutKeys
  /-- The type of its node has no formula. -/
  | readAsLiteral (type : String)
  /-- Its formula failed. -/
  | fault (fault : Fault)
  /-- Its formula gave a value that is not finite. -/
  | notFinite (value : NonFinite)
deriving DecidableEq, Repr

namespace Cause

def kind : Cause → DiagnosticKind
  | beingResolved => .cycle
  | notAPlug => .missingNode
  | unknownNode => .missingNode
  | curveWithoutKeys => .unsupportedNode
  | readAsLiteral _ => .unsupportedNode
  | fault _ => .formulaError
  | notFinite _ => .nonFinite

def message : Cause → String
  | beingResolved => "already being resolved"
  | notAPlug => "not a node.attr plug"
  | unknownNode => ""
  | curveWithoutKeys => "curve node without a curve"
  | readAsLiteral type => "type " ++ Text.quote type ++ " read as literal"
  | fault f => f.describe
  | notFinite value => value.name

end Cause

structure Diagnostic where
  plug : String
  cause : Cause
deriving DecidableEq, Repr

namespace Diagnostic

def kind (d : Diagnostic) : DiagnosticKind := d.cause.kind

def text (d : Diagnostic) : String :=
  let head := "[" ++ d.kind.name ++ "] " ++ d.plug
  if d.cause.message.isEmpty then head else head ++ ": " ++ d.cause.message

/-- How many diagnostics there are of each kind that occurs, in the order of the kinds' names. -/
def counts (diagnostics : List Diagnostic) : List (DiagnosticKind × Nat) :=
  (DiagnosticKind.all.map fun kind => (kind, diagnostics.countP (·.kind == kind))).filter (·.2 != 0)

end Diagnostic

/-- What evaluation lets the outside see besides values. -/
inductive Event (α : Type) where
  /-- A report. -/
  | diagnostic (d : Diagnostic)
  /-- A call of the rotation blend. -/
  | blended (start target : Vec3 α) (weight : α) (order : RotateOrder)
deriving DecidableEq, Repr

def Event.diagnostics {α : Type} (events : List (Event α)) : List Diagnostic :=
  events.filterMap fun
    | .diagnostic d => some d
    | .blended .. => none

end PlugGraph
