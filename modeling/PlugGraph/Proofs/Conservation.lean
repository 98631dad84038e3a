import Mathlib.Tactic.Choose
import PlugGraph.Expr.Postfix
import PlugGraph.Proofs.Spacing

/-!
# Conversion loses nothing and invents nothing

What an expression says can be read off its tokens one by one: `Token.instruction?` is the
instruction that a token stands for, given the tokens next to it. The conversion to postfix only
rearranges these instructions, however parentheses, commas and operators are placed. What has come
out so far, together with what the stack of waiting entries will turn into, is always a
rearrangement of the instructions of the tokens read so far, in which the operands have kept their
order.

So the stack machine loads the names of an expression in source order, and asks for those of them
that it does not know, whatever the replies are.
-/

namespace PlugGraph

namespace Dialogue

variable {ι ρ ω υ : Type}

/-- As long as every reply is a value, exactly these questions are asked, in this order. -/
def Asks : Dialogue ι (Option ρ) ω → List ι → Prop
  | done _, questions => questions = []
  | ask q next, questions => ∃ rest, questions = q :: rest ∧ ∀ r, Asks (next (some r)) rest

namespace Asks

variable {d : Dialogue ι (Option ρ) ω} {questions : List ι}

/-- What comes behind the last question asks nothing. -/
theorem bind (h : d.Asks questions) {f : ω → Dialogue ι (Option ρ) υ}
    (silent : ∀ r, (f r).Asks []) : (d.bind f).Asks questions := by
  induction d generalizing questions with
  | done r =>
    obtain rfl : questions = [] := h
    exact silent r
  | ask q next ih =>
    obtain ⟨rest, rfl, later⟩ := h
    exact ⟨rest, rfl, fun r => ih (some r) (later r)⟩

theorem run_asked (h : d.Asks questions) (resolve : ι → ρ) :
    (d.run fun q => some (some (resolve q))).asked = questions := by
  induction d generalizing questions with
  | done r => exact h.symm
  | ask q next ih =>
    obtain ⟨rest, rfl, later⟩ := h
    exact congrArg (q :: ·) (ih _ (later (resolve q)))

/-- To answer the dialogue is to answer these questions one after the other. What it comes to
depends on the replies alone. -/
theorem answerM_eq [Nonempty ω] (h : d.Asks questions) :
    ∃ finish : List ρ → ω, ∀ {m : Type → Type} [Monad m] [LawfulMonad m] (resolve : ι → m ρ),
      d.answerM (fun q => some <$> resolve q) = finish <$> questions.mapM resolve := by
  induction d generalizing questions with
  | done r =>
    obtain rfl : questions = [] := h
    exact ⟨fun _ => r, fun resolve => by simp⟩
  | ask q next ih =>
    obtain ⟨rest, rfl, later⟩ := h
    choose finish finishes using fun r => ih (some r) (later r)
    refine ⟨fun replies => match replies with
      | r :: others => finish r others
      | [] => Classical.arbitrary ω, fun resolve => ?_⟩
    simp only [answerM_ask, List.mapM_cons, map_bind, map_pure, bind_map_left]
    refine congrArg (resolve q >>= ·) (funext fun r => ?_)
    rw [finishes r resolve, map_eq_pure_bind]

end Asks

end Dialogue

namespace Expr

variable {α : Type}

/-- Pushes a value without taking any. -/
def Instruction.isOperand : Instruction α → Bool
  | .push _ _ => true
  | .load _ => true
  | _ => false

namespace Token

/-- Whether an operand is due behind a token, or at the start: then a minus sign negates. -/
def operandDue : Option (Token α) → Bool
  | none | some (.operator _) | some .openParen | some .comma => true
  | _ => false

/-- The instruction that a token stands for between the one before it and those that follow. -/
def instruction? (before : Option (Token α)) (token : Token α) (rest : List (Token α)) :
    Option (Instruction α) :=
  match token with
  | .number text value => some (.push text value)
  | .identifier name =>
    if rest.head? matches some .openParen && (Builtin.ofName? name).isSome then some (.call name)
    else some (.load name)
  | .operator op =>
    if op == .sub && operandDue before then some (.unary negation) else some (.binary op.text)
  | .openParen | .closeParen | .comma => none

/-- The instructions of tokens, in source order. -/
def instructions : (before : Option (Token α)) → List (Token α) → List (Instruction α)
  | _, [] => []
  | before, token :: rest =>
    (token.instruction? before rest).toList ++ instructions (some token) rest

end Token

namespace Postfix

/-- The same instructions, and the operands among them in the same order. -/
structure Rearranges (code code' : List (Instruction α)) : Prop where
  perm : code.Perm code'
  operands : code.filter Instruction.isOperand = code'.filter Instruction.isOperand

namespace Rearranges

variable {code code' code'' : List (Instruction α)}

theorem refl (code : List (Instruction α)) : Rearranges code code := ⟨.refl _, rfl⟩

theorem trans (h : Rearranges code code') (h' : Rearranges code' code'') :
    Rearranges code code'' :=
  ⟨h.perm.trans h'.perm, h.operands.trans h'.operands⟩

theorem append_left (h : Rearranges code code') (front : List (Instruction α)) :
    Rearranges (front ++ code) (front ++ code') :=
  ⟨h.perm.append_left front, by rw [List.filter_append, List.filter_append, h.operands]⟩

theorem append_right (h : Rearranges code code') (rest : List (Instruction α)) :
    Rearranges (code ++ rest) (code' ++ rest) :=
  ⟨h.perm.append_right rest, by rw [List.filter_append, List.filter_append, h.operands]⟩

end Rearranges

/-- What waits on the stack is no operand, so other instructions may overtake it. -/
theorem rearranges_emit (code : List (Instruction α)) (stack : List Pending) :
    Rearranges (code ++ stack.flatMap Pending.emit) (stack.flatMap Pending.emit ++ code) := by
  have none : (stack.flatMap Pending.emit).filter (Instruction.isOperand (α := α)) = [] := by
    refine List.filter_eq_nil_iff.mpr fun instruction member => ?_
    obtain ⟨entry, -, emitted⟩ := List.mem_flatMap.mp member
    cases entry <;> simp_all [Pending.emit, Instruction.isOperand]
  exact ⟨List.perm_append_comm, by simp only [List.filter_append, none, List.append_nil,
    List.nil_append]⟩

/-! ### The stack loses nothing -/

theorem popWhile_emit (p : Pending → Bool) (stack : List Pending) :
    (popWhile p stack).1 ++ (popWhile (α := α) p stack).2.flatMap Pending.emit =
      (stack.flatMap Pending.emit : List (Instruction α)) := by
  induction stack with
  | nil => rfl
  | cons top rest ih =>
    rw [popWhile]
    split
    · simp only [List.append_assoc, ih, List.flatMap_cons]
    · rfl

theorem popCall_emit (stack : List Pending) :
    (popCall stack).1 ++ (popCall (α := α) stack).2.flatMap Pending.emit =
      (stack.flatMap Pending.emit : List (Instruction α)) := by
  unfold popCall
  split <;> rfl

/-- The entry that a closing parenthesis drops stands for nothing. -/
theorem drop_popWhile_emit (stack : List Pending) :
    ((popWhile (α := α) (· != .openParen) stack).2.drop 1).flatMap Pending.emit =
      ((popWhile (α := α) (· != .openParen) stack).2.flatMap Pending.emit :
        List (Instruction α)) := by
  induction stack with
  | nil => rfl
  | cons top rest ih =>
    rw [popWhile]
    split
    · exact ih
    · next stays =>
      obtain rfl : top = .openParen := by simpa using stays
      rfl

/-! ### One token, and all tokens -/

/-- What a token adds to what has come out and what waits is its instruction. -/
theorem convert_step (before : Option (Token α)) (stack : List Pending) (token : Token α)
    (rest : List (Token α)) :
    ∃ output left, convert (Token.operandDue before) stack (token :: rest) =
        output ++ convert (Token.operandDue (some token)) left rest ∧
      Rearranges (output ++ left.flatMap Pending.emit)
        (stack.flatMap Pending.emit ++ (token.instruction? before rest).toList) := by
  cases token with
  | number text value => exact ⟨[.push text value], stack, rfl, rearranges_emit _ stack⟩
  | identifier name =>
    have follows : opens rest = (rest.head? matches some .openParen) := by
      cases rest with
      | nil => rfl
      | cons next rest => cases next <;> rfl
    simp only [convert, Token.instruction?, ← follows]
    split
    · exact ⟨[], .call name :: stack, rfl, rearranges_emit [.call name] stack⟩
    · exact ⟨[.load name], stack, rfl, rearranges_emit _ stack⟩
  | comma =>
    refine ⟨_, _, rfl, ?_⟩
    rw [popWhile_emit, Token.instruction?, Option.toList_none, List.append_nil]
    exact .refl _
  | operator op =>
    refine ⟨_, _, rfl, ?_⟩
    generalize chosen : (if op == .sub && Token.operandDue before then Pending.negate
      else .binary op) = next
    have added : (Token.instruction? before (.operator op) rest).toList = next.emit := by
      subst chosen
      rw [Token.instruction?]
      split <;> rfl
    rw [added, ← popWhile_emit next.yields stack, List.append_assoc]
    exact (rearranges_emit next.emit (popWhile (α := α) next.yields stack).2).append_left _
  | openParen =>
    refine ⟨[], .openParen :: stack, rfl, ?_⟩
    rw [Token.instruction?, Option.toList_none, List.append_nil]
    exact .refl _
  | closeParen =>
    refine ⟨_, _, rfl, ?_⟩
    rw [List.append_assoc, popCall_emit, drop_popWhile_emit, popWhile_emit, Token.instruction?,
      Option.toList_none, List.append_nil]
    exact .refl _

theorem rearranges_convert (before : Option (Token α)) (stack : List Pending)
    (tokens : List (Token α)) :
    Rearranges (convert (Token.operandDue before) stack tokens)
      (stack.flatMap Pending.emit ++ Token.instructions before tokens) := by
  induction tokens generalizing before stack with
  | nil => simpa [convert, Token.instructions] using Rearranges.refl _
  | cons token rest ih =>
    obtain ⟨output, left, converted, added⟩ := convert_step before stack token rest
    rw [converted, Token.instructions, ← List.append_assoc]
    have later := (ih (some token) left).append_left output
    rw [← List.append_assoc] at later
    exact later.trans (added.append_right _)

theorem rearranges_ofTokens (tokens : List (Token α)) :
    Rearranges (ofTokens tokens) (Token.instructions none tokens) :=
  rearranges_convert none [] tokens

theorem loads_filter (code : List (Instruction α)) :
    loads (code.filter Instruction.isOperand) = loads code := by
  induction code with
  | nil => rfl
  | cons instruction rest ih =>
    cases instruction with
    | load name => exact congrArg (name :: ·) ih
    | _ => exact ih

/-- Names are loaded in source order. -/
theorem loads_ofTokens (tokens : List (Token α)) :
    loads (ofTokens tokens) = loads (Token.instructions none tokens) := by
  rw [← loads_filter, (rearranges_ofTokens tokens).operands, loads_filter]

/-! ### What is asked -/

variable [Scalar α]

/-- Whether a name is neither that of a variable nor that of a constant. -/
def isUnknown (frame : α) (locals : Variables α) (name : String) : Bool :=
  (locals.lookup name).isNone && (constant? frame name).isNone

theorem asks_run (frame : α) (locals : Variables α) (program : List (Instruction α))
    (stack : List α) :
    (run frame locals program stack).Asks ((loads program).filter (isUnknown frame locals)) := by
  induction program generalizing stack with
  | nil => rfl
  | cons instruction rest ih =>
    cases instruction with
    | load name =>
      have unknown : isUnknown frame locals name =
          ((locals.lookup name).or (constant? frame name)).isNone := by
        rw [isUnknown, Option.isNone_or]
      simp only [run, loads, List.filterMap_cons, List.filter_cons, unknown]
      cases (locals.lookup name).or (constant? frame name) with
      | some value => exact ih _
      | none => exact ⟨_, rfl, fun value => ih _⟩
    | push | unary | binary | call => exact ih _

theorem asks_evaluate (frame : α) (locals : Variables α) (text : String) :
    (Expr.evaluate frame locals text).Asks
      ((loads (ofText (α := α) text)).filter (isUnknown frame locals)) := by
  rw [Expr.evaluate]
  split
  · next blank =>
    have none : tokenize (α := α) text = [] :=
      tokenizeChars_of_blank (List.all_eq_true.mp blank)
    rw [ofText, none]
    rfl
  · refine (asks_run frame locals (ofText text) []).bind fun value => ?_
    cases value with
    | some value => rfl
    | none => rfl

/-- The instructions of an expression are those of its tokens, with the operands in source order. A
resolver that gives a value for every name is asked for the names that are neither those of
variables nor those of constants, once for each time they are loaded and in source order, whatever
it does besides. -/
theorem ofTokens_conserves :
    (∀ tokens : List (Token α), (ofTokens tokens).Perm (Token.instructions none tokens) ∧
        (ofTokens tokens).filter Instruction.isOperand =
          (Token.instructions none tokens).filter Instruction.isOperand) ∧
      ∀ (frame : α) (locals : Variables α) (text : String),
        let names := (loads (Token.instructions none (tokenize (α := α) text))).filter
          (isUnknown frame locals)
        (∀ resolve : String → α, ((Expr.evaluate frame locals text).run fun name =>
          some (some (resolve name))).asked = names) ∧
        ∃ finish : List α → α, ∀ {m : Type → Type} [Monad m] [LawfulMonad m]
          (resolve : String → m α),
          (Expr.evaluate frame locals text).answerM (fun name => some <$> resolve name) =
            finish <$> names.mapM resolve := by
  constructor
  · intro tokens
    exact ⟨(rearranges_ofTokens tokens).perm, (rearranges_ofTokens tokens).operands⟩
  · intro frame locals text names
    have asks := asks_evaluate frame locals text
    rw [ofText, loads_ofTokens] at asks
    have : Nonempty α := ⟨0⟩
    exact ⟨asks.run_asked, asks.answerM_eq⟩

/-- A resolver that counts is called for the two plugs, one of them twice; the parentheses do not
match, and an operator has no second operand. -/
theorem ofTokens_conserves_unbalanced :
    let resolve (_ : String) : StateM Nat Float := getModify (· + 1) >>= fun n => return n.toFloat
    ∃ finish : List Float → Float,
      (Expr.evaluate 1 [("$s", 2)] "a.tx + max(-$s, b.ty) * time) ^ b.ty *").answerM
          (fun name => some <$> resolve name) =
        finish <$> ["a.tx", "b.ty", "b.ty"].mapM resolve := by
  intro resolve
  obtain ⟨-, finish, finishes⟩ :=
    ofTokens_conserves.2 (1 : Float) [("$s", 2)] "a.tx + max(-$s, b.ty) * time) ^ b.ty *"
  refine ⟨finish, ?_⟩
  rw [finishes resolve]
  have names : (loads (Token.instructions none
      (tokenize (α := Float) "a.tx + max(-$s, b.ty) * time) ^ b.ty *"))).filter
        (isUnknown (1 : Float) [("$s", 2)]) = ["a.tx", "b.ty", "b.ty"] := by
    decide +kernel
  rw [names]

end Postfix

end Expr

end PlugGraph
