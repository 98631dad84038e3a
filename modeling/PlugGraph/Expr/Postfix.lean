import PlugGraph.Dialogue
import PlugGraph.Expr.Builtin
import PlugGraph.Expr.Token

/-!
# Postfix programs

Expressions are converted to instructions for a stack machine by operator precedence: a minus sign
where an operand is due binds strongest, then `^`, then `*` and `/`, then `+` and `-`. The first two
associate to the right, the others to the left. An identifier in front of an opening parenthesis is
a call if it names a built-in function. Parentheses need not match: a closing one without a partner
is passed over, and open ones are closed at the end.

The machine asks for the names that are neither variables nor constants. An arithmetic fault makes
the result of its instruction zero, and an operand that is missing counts as zero.
-/

namespace PlugGraph.Expr

/-- An instruction of the stack machine. Symbols and names are kept as written. -/
inductive Instruction (α : Type) where
  /-- Pushes a number. -/
  | push (text : String) (value : α)
  /-- Pushes the value of a name. -/
  | load (name : String)
  /-- Replaces the top; only negation is known. -/
  | unary (symbol : String)
  /-- Combines the two topmost values; an unknown operator makes zero of them. -/
  | binary (symbol : String)
  /-- Applies a built-in function to the topmost values; an unknown one is passed over. -/
  | call (name : String)
deriving DecidableEq, Repr

def negation : String := "neg"

/-- What waits on the operator stack during conversion. -/
inductive Pending where
  | openParen
  | call (name : String)
  | negate
  | binary (op : Operator)
deriving DecidableEq, Repr

namespace Pending

/-- How strongly an operator binds; what is no operator does not bind. -/
def precedence? : Pending → Option Nat
  | negate => some 4
  | binary .pow => some 3
  | binary .mul => some 2
  | binary .div => some 2
  | binary .add => some 1
  | binary .sub => some 1
  | _ => none

def isRightAssociative : Pending → Bool
  | negate => true
  | binary .pow => true
  | _ => false

/-- Whether the stacked operator `top` is applied before the operator `next` is stacked. -/
def yields (next top : Pending) : Bool :=
  match next.precedence?, top.precedence? with
  | some mine, some other => if next.isRightAssociative then mine < other else mine ≤ other
  | _, _ => false

/-- The instructions that an entry turns into when it leaves the stack. -/
def emit {α : Type} : Pending → List (Instruction α)
  | openParen => []
  | call name => [.call name]
  | negate => [.unary negation]
  | binary op => [.binary op.text]

end Pending

namespace Postfix

variable {α : Type}

/-- Takes entries off the stack as long as they satisfy `p`, with their instructions. -/
def popWhile (p : Pending → Bool) : List Pending → List (Instruction α) × List Pending
  | [] => ([], [])
  | top :: rest =>
    if p top then
      let (code, left) := popWhile p rest
      (top.emit ++ code, left)
    else ([], top :: rest)

/-- Takes off a call that waits for its closing parenthesis. -/
def popCall : List Pending → List (Instruction α) × List Pending
  | .call name :: rest => ([.call name], rest)
  | stack => ([], stack)

/-- Whether the next token is an opening parenthesis. -/
def opens : List (Token α) → Bool
  | .openParen :: _ => true
  | _ => false

/-- Converts tokens under a stack of waiting entries. `operandDue` holds at the start and after an
operator, an opening parenthesis or a comma: there a minus sign negates. -/
def convert : (operandDue : Bool) → List Pending → List (Token α) → List (Instruction α)
  | _, stack, [] => stack.flatMap Pending.emit
  | operandDue, stack, token :: rest =>
    match token with
    | .number text value => .push text value :: convert false stack rest
    | .identifier name =>
      if opens rest && (Builtin.ofName? name).isSome then convert false (.call name :: stack) rest
      else .load name :: convert false stack rest
    | .comma =>
      let popped := popWhile (· != .openParen) stack
      popped.1 ++ convert true popped.2 rest
    | .operator op =>
      let next := if op == .sub && operandDue then Pending.negate else .binary op
      let popped := popWhile next.yields stack
      popped.1 ++ convert true (next :: popped.2) rest
    | .openParen => convert true (.openParen :: stack) rest
    | .closeParen =>
      let popped := popWhile (· != .openParen) stack
      let called := popCall (popped.2.drop 1)
      popped.1 ++ called.1 ++ convert false called.2 rest

def ofTokens (tokens : List (Token α)) : List (Instruction α) := convert true [] tokens

def ofText [Scalar α] (text : String) : List (Instruction α) := ofTokens (tokenize text)

def loads (program : List (Instruction α)) : List String :=
  program.filterMap fun
    | .load name => some name
    | _ => none

variable [Scalar α]

/-- The result of an arithmetic step, zero on a fault. -/
def orZero : Except Fault α → α
  | .ok value => value
  | .error _ => 0

/-- Applies a binary operator. Division by something close to zero is zero. -/
def applyOperator : Operator → α → α → Except Fault α
  | .add, a, b => .ok (a + b)
  | .sub, a, b => .ok (a - b)
  | .mul, a, b => .ok (a * b)
  | .div, a, b => if Scalar.abs b < Scalar.zeroTolerance then .ok 0 else Scalar.divide? a b
  | .pow, a, b => Scalar.pow? a b

/-- Applies the operator of a symbol; an unknown one gives zero. -/
def applySymbol (symbol : String) (a b : α) : Except Fault α :=
  match symbol.toList with
  | [c] =>
    match Operator.ofSymbol? c with
    | some op => applyOperator op a b
    | none => .ok 0
  | _ => .ok 0

/-- The top of a stack, zero if it is empty. -/
def top (stack : List α) : α := stack.headD 0

/-- The topmost `count` values in the order in which they were pushed, zero for missing ones. -/
def topmost (count : Nat) (stack : List α) : List α :=
  (stack.take count ++ List.replicate (count - stack.length) 0).reverse

/-- The effect on the stack of an instruction other than a load. -/
def step : Instruction α → List α → List α
  | .push _ value, stack => value :: stack
  | .load _, stack => stack
  | .unary symbol, stack => if symbol == negation then -top stack :: stack.drop 1 else stack
  | .binary symbol, stack =>
    orZero (applySymbol symbol (top (stack.drop 1)) (top stack)) :: stack.drop 2
  | .call name, stack =>
    match Builtin.ofName? name with
    | some f => orZero (f.apply (topmost f.arity stack)) :: stack.drop f.arity
    | none => stack

abbrev Variables (α : Type) := List (String × α)

/-- Runs a program on a stack. Names are looked up among the variables, then among the constants,
and are asked for at last. The reply may be `none`, which ends the run without a value. -/
def run (frame : α) (locals : Variables α) :
    List (Instruction α) → List α → Dialogue String (Option α) (Option α)
  | [], stack => .done (some (top stack))
  | .load name :: rest, stack =>
    match (locals.lookup name).or (constant? frame name) with
    | some value => run frame locals rest (value :: stack)
    | none => .ask name fun
      | some value => run frame locals rest (value :: stack)
      | none => .done none
  | instruction :: rest, stack => run frame locals rest (step instruction stack)

/-- The value that a program leaves on top of an empty stack. -/
def evaluate (frame : α) (locals : Variables α) (program : List (Instruction α)) :
    Dialogue String (Option α) (Option α) :=
  run frame locals program []

end Postfix

/-- The value of an expression: in single precision, and zero where there is none or it is not
finite. -/
def evaluate {α : Type} [Scalar α] (frame : α) (locals : Postfix.Variables α) (text : String) :
    Dialogue String (Option α) α :=
  if Text.isBlankText text then .done 0
  else do
    match ← Postfix.evaluate frame locals (Postfix.ofText text) with
    | some value =>
      let value := Scalar.single value
      return if Scalar.isFinite value then value else 0
    | none => return 0

end PlugGraph.Expr
