import PlugGraph.Proofs.Conservation
import PlugGraph.Proofs.Parentheses

/-!
# Opening parentheses without a partner

At the end of an expression the waiting entries leave the stack without further ado, while a closing
parenthesis also looks for a call that it completes. Both come to the same, because a call waits
directly below its own parenthesis: closing one parenthesis after the other empties the stack in the
order in which it is emptied at the end (`ofTokens_unclosed`).
-/

namespace PlugGraph.Expr.Postfix

variable {α : Type}

/-- The number of opening parentheses without a partner at the end, behind `depth` open ones. -/
def unclosed : (depth : Nat) → List (Token α) → Nat
  | depth, [] => depth
  | depth, token :: rest =>
    match token with
    | .openParen => unclosed (depth + 1) rest
    | .closeParen => unclosed (depth - 1) rest
    | _ => unclosed depth rest

theorem unclosed_append (depth : Nat) (tokens rest : List (Token α)) :
    unclosed depth (tokens ++ rest) = unclosed (unclosed depth tokens) rest := by
  induction tokens generalizing depth with
  | nil => rfl
  | cons token others ih =>
    cases token with
    | openParen => exact ih (depth + 1)
    | closeParen => exact ih (depth - 1)
    | _ => exact ih depth

theorem unclosed_replicate_closeParen (depth k : Nat) :
    unclosed depth (List.replicate k (Token.closeParen (α := α))) = depth - k := by
  induction k generalizing depth with
  | zero => rfl
  | succ k ih =>
    rw [List.replicate_succ, unclosed, ih]
    omega

theorem opens_append {tokens rest : List (Token α)} (shut : opens rest = false) :
    opens (tokens ++ rest) = opens tokens := by
  cases tokens with
  | nil => exact shut
  | cons token others => cases token <;> rfl

theorem opens_replicate_closeParen (k : Nat) :
    opens (List.replicate k (Token.closeParen (α := α))) = false := by
  cases k <;> rfl

/-! ### What waits while parentheses are open -/

namespace Waiting

variable {level depth : Nat} {stack : List Pending}

/-- An operator may wait anywhere if no operator binds too weakly. -/
theorem push {entry : Pending} (h : Waiting 1 depth stack) (binds : entry.Binds 1) :
    Waiting 1 depth (entry :: stack) := by
  cases depth with
  | zero => exact .outside (List.forall_mem_cons.mpr ⟨binds, h.binds⟩)
  | succ depth => exact .operator binds h

theorem popOperators (h : Waiting level depth stack) {p : Pending → Bool}
    (stays : p .openParen = false) :
    Waiting level depth (Postfix.popWhile (α := α) p stack).2 := by
  cases depth with
  | zero => exact .outside fun entry member => h.binds entry (mem_of_mem_popWhile member)
  | succ depth => exact h.popWhile stays

/-- A closing parenthesis closes the innermost open one, if there is one. -/
theorem closeInnermost (h : Waiting level depth stack) :
    Waiting level (depth - 1) (popCall (α := α)
      ((Postfix.popWhile (α := α) (· != .openParen) stack).2.drop 1)).2 := by
  cases depth with
  | zero =>
    rw [popWhile_openParen_of_binds h.binds]
    exact .outside nofun
  | succ depth => exact h.close

end Waiting

/-- The conversion of tokens leaves a stack on which `depth` parentheses are open, whatever follows
them. An opening parenthesis does not follow: it would make a call of the name in front of it. -/
def Leaves (depth : Nat) (operandDue : Bool) (stack : List Pending) (tokens : List (Token α)) :
    Prop :=
  ∃ (output : List (Instruction α)) (operandDue' : Bool) (left : List Pending),
    Waiting 1 depth left ∧ ∀ rest, opens rest = false →
      convert operandDue stack (tokens ++ rest) = output ++ convert operandDue' left rest

theorem Leaves.nil {depth : Nat} {operandDue : Bool} {stack : List Pending}
    (waiting : Waiting 1 depth stack) : Leaves (α := α) depth operandDue stack [] :=
  ⟨[], operandDue, stack, waiting, fun _ _ => rfl⟩

/-- What comes out for the first token comes out in front of the rest. -/
theorem Leaves.cons {depth : Nat} {operandDue operandDue' : Bool} {stack stack' : List Pending}
    {token : Token α} {tokens : List (Token α)} (output : List (Instruction α))
    (later : Leaves depth operandDue' stack' tokens)
    (first : ∀ rest, opens rest = false → convert operandDue stack (token :: (tokens ++ rest)) =
      output ++ convert operandDue' stack' (tokens ++ rest)) :
    Leaves depth operandDue stack (token :: tokens) := by
  obtain ⟨others, due, left, waiting, converted⟩ := later
  refine ⟨output ++ others, due, left, waiting, fun rest shut => ?_⟩
  rw [List.cons_append, first rest shut, converted rest shut, List.append_assoc]

/-- A name waits as a call if its parenthesis comes next, and is loaded otherwise. -/
theorem Leaves.identifier {depth : Nat} {operandDue : Bool} {stack : List Pending} {name : String}
    {tokens : List (Token α)}
    (called : opens tokens = true → Leaves depth false (.call name :: stack) tokens)
    (loaded : Leaves depth false stack tokens) :
    Leaves depth operandDue stack (.identifier name :: tokens) := by
  by_cases known : (opens tokens && (Builtin.ofName? name).isSome) = true
  · have opened := (Bool.and_eq_true_iff.mp known).1
    refine .cons [] (called opened) fun rest shut => ?_
    rw [convert, opens_append shut, if_pos known]
    rfl
  · refine .cons [.load name] loaded fun rest shut => ?_
    rw [convert, opens_append shut, if_neg known]
    rfl

/-- An operator waits on top of those that it leaves on the stack. -/
theorem Leaves.operator {depth depth' : Nat} {operandDue : Bool} {stack : List Pending}
    {op : Operator} {tokens : List (Token α)} (waiting : Waiting 1 depth stack)
    (later : ∀ stack', Waiting 1 depth stack' → Leaves depth' true stack' tokens) :
    Leaves depth' operandDue stack (.operator op :: tokens) := by
  have binds := Pending.binds_one_operator op operandDue
  generalize chosen : (if op == .sub && operandDue then Pending.negate else .binary op) = next
    at binds
  have left := waiting.popOperators (α := α) (Pending.not_yields_openParen next)
  refine .cons (popWhile next.yields stack).1 (later _ (left.push binds)) fun rest _ => ?_
  rw [convert, chosen]

/-- Tokens leave as many parentheses open as have no partner among them. -/
theorem leaves_unclosed {operandDue : Bool} {depth : Nat} {stack : List Pending}
    {tokens : List (Token α)} (waits : WaitingFor 1 depth tokens stack) :
    Leaves (unclosed depth tokens) operandDue stack tokens := by
  induction tokens generalizing operandDue depth stack with
  | nil => exact .nil (waits.waiting rfl)
  | cons token others ih =>
    cases token with
    | openParen => exact .cons [] (ih (.entries waits.openParen)) fun _ _ => rfl
    | number text value =>
      have waiting := waits.waiting rfl
      exact .cons [.push text value] (ih (.entries waiting)) fun _ _ => rfl
    | identifier name =>
      have waiting := waits.waiting rfl
      exact .identifier (fun opened => ih (.call opened waiting)) (ih (.entries waiting))
    | comma =>
      have waiting := waits.waiting rfl
      exact .cons _ (ih (.entries (waiting.popOperators (α := α) rfl))) fun _ _ => rfl
    | operator op => exact .operator (waits.waiting rfl) fun _ waiting => ih (.entries waiting)
    | closeParen =>
      have waiting := waits.waiting rfl
      exact .cons _ (ih (.entries (waiting.closeInnermost (α := α)))) fun _ _ => rfl

/-! ### Closing what is open -/

/-- Closing parentheses take off in order what would come off the stack at the end. -/
theorem convert_replicate_closeParen {level depth k : Nat} {operandDue : Bool}
    {stack : List Pending} (waiting : Waiting level depth stack) (enough : k ≤ depth) :
    convert operandDue stack (List.replicate k .closeParen) =
      (stack.flatMap Pending.emit : List (Instruction α)) := by
  induction k generalizing depth operandDue stack with
  | zero => rfl
  | succ k ih =>
    -- What the first parenthesis takes off is the top of the stack, and the others take the rest.
    have inner := waiting.closeInnermost (α := α)
    rw [List.replicate_succ, convert, ih inner (by omega), List.append_assoc, popCall_emit,
      drop_popWhile_emit, popWhile_emit]

/-- Closing parentheses that are missing at the end of an expression change nothing, however many of
them are supplied. With all of them no parenthesis lacks a partner; a few of them close the
innermost parentheses, and the calls in front of these. -/
theorem ofTokens_unclosed (tokens : List (Token α)) :
    let missing := unclosed 0 tokens
    let partners (k : Nat) := List.replicate k Token.closeParen
    unclosed 0 (tokens ++ partners missing) = 0 ∧
      ofTokens (tokens ++ partners missing) = ofTokens tokens ∧
      ∀ k ≤ missing, unclosed 0 (tokens ++ partners k) = missing - k ∧
        ofTokens (tokens ++ partners k) = ofTokens tokens := by
  intro missing partners
  obtain ⟨output, operandDue, left, waiting, converted⟩ : Leaves missing true [] tokens :=
    leaves_unclosed (.entries (.outside (by simp)))
  have closes (k : Nat) (enough : k ≤ missing) :
      unclosed 0 (tokens ++ partners k) = missing - k ∧
        ofTokens (tokens ++ partners k) = ofTokens tokens := by
    constructor
    · rw [unclosed_append, unclosed_replicate_closeParen]
    · have closed := converted (partners k) (opens_replicate_closeParen k)
      have ended := converted [] rfl
      rw [convert_replicate_closeParen waiting enough] at closed
      rw [List.append_nil] at ended
      exact closed.trans ended.symm
  obtain ⟨balanced, same⟩ := closes missing (Nat.le_refl missing)
  exact ⟨balanced.trans (Nat.sub_self missing), same, closes⟩

/-- Two calls are open, the inner one in a product that waits in the outer one. One closing
parenthesis completes the inner call. -/
theorem ofTokens_unclosed_calls :
    let tokens : List (Token Nat) := [.identifier "sin", .openParen, .number "2" 2, .operator .mul,
      .identifier "max", .openParen, .identifier "a", .comma, .identifier "b", .operator .add,
      .identifier "c"]
    unclosed 0 tokens = 2 ∧ ofTokens (tokens ++ [.closeParen]) = ofTokens tokens ∧
      ofTokens tokens = [.push "2" 2, .load "a", .load "b", .load "c", .binary "+", .call "max",
        .binary "*", .call "sin"] := by
  intro tokens
  have missing : unclosed 0 tokens = 2 := by decide
  obtain ⟨-, same⟩ := (ofTokens_unclosed tokens).2.2 1 (by rw [missing]; decide)
  exact ⟨missing, same, by decide +kernel⟩

end PlugGraph.Expr.Postfix
