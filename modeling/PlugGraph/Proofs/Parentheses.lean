import PlugGraph.Proofs.Grammar

/-!
# Closing parentheses without a partner

An opening parenthesis at the bottom of the stack of waiting entries changes nothing about a
conversion, because the tokens that reach down to it empty the stack in any case. A closing
parenthesis without a partner is therefore not without effect: it closes a group that begins with
the expression. Deleting it takes the group away, and the instructions stay the same if the
operators of the group leave the stack next anyway. `straysSettle` follows how strongly they bind.
-/

namespace PlugGraph.Expr

theorem Pending.not_yields_openParen (next : Pending) : next.yields .openParen = false := by
  cases next with
  | binary op => cases op <;> rfl
  | _ => rfl

/-- No operator binds more strongly than negation. -/
theorem Pending.Binds.le_four {level : Nat} {entry : Pending} (h : entry.Binds level) :
    level ≤ 4 := by
  obtain ⟨n, same, bound⟩ := h
  refine bound.trans ?_
  cases entry with
  | openParen | call => cases same
  | negate => exact Nat.le_of_eq (Option.some.inj same).symm
  | binary op =>
    obtain rfl : op.precedence = n := by simpa using same
    cases op <;> decide

/-- How strongly an operator binds where it stands. -/
theorem Pending.binds_operator (op : Operator) (operandDue : Bool) :
    (if op == .sub && operandDue then Pending.negate else .binary op).Binds
      (if op == .sub && operandDue then 4 else op.precedence) := by
  split
  · exact binds_negate
  · exact binds_binary op

theorem Pending.binds_one_operator (op : Operator) (operandDue : Bool) :
    (if op == .sub && operandDue then Pending.negate else .binary op).Binds 1 := by
  apply (binds_operator op operandDue).mono
  split
  · decide
  · cases op <;> decide

namespace Postfix

variable {α : Type}

/-- The number of closing parentheses without a partner, behind `depth` open ones. -/
def strays : (depth : Nat) → List (Token α) → Nat
  | _, [] => 0
  | depth, token :: rest =>
    match token, depth with
    | .openParen, depth => strays (depth + 1) rest
    | .closeParen, 0 => strays 0 rest + 1
    | .closeParen, depth + 1 => strays depth rest
    | _, depth => strays depth rest

/-- The tokens without the closing parentheses that have no partner, behind `depth` open ones. -/
def withoutStrays : (depth : Nat) → List (Token α) → List (Token α)
  | _, [] => []
  | depth, token :: rest =>
    match token, depth with
    | .openParen, depth => .openParen :: withoutStrays (depth + 1) rest
    | .closeParen, 0 => withoutStrays 0 rest
    | .closeParen, depth + 1 => .closeParen :: withoutStrays depth rest
    | token, depth => token :: withoutStrays depth rest

/-- Whether operators that wait in no parentheses leave the stack when the next token comes, apart
from closing parentheses. All of them bind at least as strongly as `level`; with 5, none waits. -/
def settles (level : Nat) : List (Token α) → Bool
  | [] | .comma :: _ => true
  | .closeParen :: rest => settles level rest
  | .operator op :: _ => op.leftLevel ≤ level
  | .number _ _ :: _ | .identifier _ :: _ => 5 ≤ level
  | .openParen :: _ => false

/-- Whether each closing parenthesis without a partner, behind `depth` open ones and operators that
bind at least as strongly as `level`, stands where no operand is due and where these operators leave
the stack next. -/
def straysSettle : (operandDue : Bool) → (level depth : Nat) → List (Token α) → Bool
  | _, _, _, [] => true
  | operandDue, level, depth, token :: rest =>
    match token, depth with
    | .openParen, depth => straysSettle true level (depth + 1) rest
    | .closeParen, 0 => !operandDue && settles level rest && straysSettle false 5 0 rest
    | .closeParen, depth + 1 => straysSettle false level depth rest
    | .comma, 0 => straysSettle true 5 0 rest
    | .comma, depth + 1 => straysSettle true level (depth + 1) rest
    | .operator op, 0 =>
      straysSettle true (min level (if op == .sub && operandDue then 4 else op.precedence)) 0 rest
    | .operator _, depth + 1 => straysSettle true level (depth + 1) rest
    | .number _ _, depth | .identifier _, depth => straysSettle false level depth rest

/-! ### A parenthesis at the bottom of the stack -/

/-- What stays on the stack stays over whatever else there is. -/
theorem popWhile_append_of_stays {p : Pending → Bool} {bottom : List Pending}
    (stays : ∀ top ∈ bottom.head?, p top = false) (stack : List Pending) :
    popWhile (α := α) p (stack ++ bottom) =
      ((popWhile (α := α) p stack).1, (popWhile (α := α) p stack).2 ++ bottom) := by
  induction stack with
  | nil => exact popWhile_of_stays stays
  | cons top rest ih =>
    simp only [List.cons_append, popWhile]
    split
    · rw [ih]
    · rfl

theorem popWhile_eq_of_pops {p : Pending → Bool} {stack : List Pending}
    (pops : ∀ entry ∈ stack, p entry = true) :
    popWhile p stack = ((stack.flatMap Pending.emit : List (Instruction α)), []) := by
  have bottom : ∀ top ∈ ([] : List Pending).head?, p top = false := nofun
  simpa using popWhile_append pops bottom

theorem mem_of_mem_popWhile {p : Pending → Bool} {stack : List Pending} {entry : Pending}
    (member : entry ∈ (popWhile (α := α) p stack).2) : entry ∈ stack := by
  induction stack with
  | nil => exact member
  | cons top rest ih =>
    rw [popWhile] at member
    split at member
    · exact List.mem_cons_of_mem _ (ih member)
    · exact member

theorem head?_replicate_openParen {top : Pending} {k : Nat}
    (first : top ∈ (List.replicate k Pending.openParen).head?) : top = .openParen :=
  List.eq_of_mem_replicate (List.mem_of_mem_head? first)

theorem popCall_append_openParen (stack : List Pending) (k : Nat) :
    popCall (α := α) (stack ++ List.replicate k .openParen) =
      ((popCall (α := α) stack).1,
        (popCall (α := α) stack).2 ++ List.replicate k .openParen) := by
  cases stack with
  | nil => cases k <;> rfl
  | cons top rest => cases top <;> rfl

theorem convert_append_openParen (operandDue : Bool) (stack : List Pending) (k : Nat)
    (tokens : List (Token α)) :
    convert operandDue (stack ++ List.replicate k .openParen) tokens =
      convert operandDue stack tokens := by
  induction tokens generalizing operandDue stack k with
  | nil =>
    have bottom : (List.replicate k Pending.openParen).flatMap Pending.emit =
        ([] : List (Instruction α)) :=
      List.flatMap_eq_nil_iff.mpr fun entry member => by
        rw [List.eq_of_mem_replicate member]
        rfl
    simp only [convert, List.flatMap_append, bottom, List.append_nil]
  | cons token rest ih =>
    have popped (p : Pending → Bool) (stays : p .openParen = false) :
        popWhile (α := α) p (stack ++ List.replicate k .openParen) =
          ((popWhile (α := α) p stack).1,
            (popWhile (α := α) p stack).2 ++ List.replicate k .openParen) :=
      popWhile_append_of_stays (fun top first => head?_replicate_openParen first ▸ stays) stack
    have inside := popped (· != .openParen) rfl
    cases token with
    | number text value => simp only [convert, ih]
    | identifier name =>
      simp only [convert, ih]
      rw [← List.cons_append, ih]
    | openParen =>
      simp only [convert]
      rw [← List.cons_append, ih]
    | comma => simp only [convert, inside, ih]
    | operator op =>
      simp only [convert, popped _ (Pending.not_yields_openParen _)]
      rw [← List.cons_append, ih]
    | closeParen =>
      simp only [convert, inside]
      cases (popWhile (α := α) (· != .openParen) stack).2 with
      | nil =>
        -- Nothing but the bottom is left, which loses one parenthesis.
        have called := popCall_append_openParen (α := α) [] (k - 1)
        rw [List.nil_append] at called
        rw [List.nil_append, List.drop_replicate, called, ih]
        rfl
      | cons top below =>
        simp only [List.cons_append, List.drop_succ_cons, List.drop_zero,
          popCall_append_openParen, ih]

theorem convert_replicate_openParen (stack : List Pending) (k : Nat) (tokens : List (Token α)) :
    convert true stack (List.replicate k .openParen ++ tokens) =
      convert true (List.replicate k .openParen ++ stack) tokens := by
  induction k generalizing stack with
  | zero => rfl
  | succ k ih =>
    rw [List.replicate_succ, List.cons_append, convert, ih, List.replicate_succ',
      List.append_assoc]
    rfl

/-- Opening parentheses in front of an expression change nothing. -/
theorem ofTokens_replicate_openParen (k : Nat) (tokens : List (Token α)) :
    ofTokens (List.replicate k .openParen ++ tokens) = ofTokens tokens := by
  rw [ofTokens, convert_replicate_openParen, List.append_nil]
  exact convert_append_openParen true [] k tokens

theorem strays_add (k depth : Nat) (tokens : List (Token α)) :
    strays (k + depth) tokens = strays depth tokens - k := by
  induction tokens generalizing k depth with
  | nil => simp [strays]
  | cons token rest ih =>
    cases token with
    | number | identifier | operator | comma => exact ih k depth
    | openParen => exact ih k (depth + 1)
    | closeParen =>
      cases depth with
      | succ depth => exact ih k depth
      | zero =>
        cases k with
        | zero => simp
        | succ k => simpa [strays] using ih k 0

theorem strays_replicate_openParen (k depth : Nat) (tokens : List (Token α)) :
    strays depth (List.replicate k .openParen ++ tokens) = strays (k + depth) tokens := by
  induction k generalizing depth with
  | zero => simp
  | succ k ih =>
    rw [List.replicate_succ, List.cons_append, strays, ih, Nat.add_assoc, Nat.add_comm 1]

/-! ### Deleting closing parentheses -/

theorem popCall_of_binds {level : Nat} {top : Pending} (binds : top.Binds level)
    {rest : List Pending} : popCall (top :: rest) = (([] : List (Instruction α)), top :: rest) := by
  obtain ⟨n, same, -⟩ := binds
  cases top with
  | call => cases same
  | _ => rfl

/-- The entries that wait while `depth` parentheses are open. Those in no parentheses bind at least
as strongly as `level`, and a call waits below its own parenthesis. -/
inductive Waiting (level : Nat) : (depth : Nat) → List Pending → Prop
  | outside {stack : List Pending} (binds : ∀ entry ∈ stack, entry.Binds level) :
      Waiting level 0 stack
  | operator {depth : Nat} {entry : Pending} {stack : List Pending} (binds : entry.Binds 1)
      (below : Waiting level (depth + 1) stack) : Waiting level (depth + 1) (entry :: stack)
  | openParen {depth : Nat} {stack : List Pending} (below : Waiting level depth stack) :
      Waiting level (depth + 1) (.openParen :: stack)
  | call {depth : Nat} {name : String} {stack : List Pending} (below : Waiting level depth stack) :
      Waiting level (depth + 1) (.openParen :: .call name :: stack)

namespace Waiting

variable {level depth : Nat} {stack : List Pending}

theorem binds (h : Waiting level 0 stack) : ∀ entry ∈ stack, entry.Binds level := by
  cases h with
  | outside binds => exact binds

/-- Inside of parentheses, popping operators leaves what waits below them. -/
theorem popWhile (h : Waiting level (depth + 1) stack) {p : Pending → Bool}
    (stays : p .openParen = false) : Waiting level (depth + 1) (popWhile (α := α) p stack).2 := by
  generalize inside : depth + 1 = n at h
  induction h with
  | outside => cases inside
  | operator binds below ih =>
    rw [Postfix.popWhile]
    split
    · exact ih inside
    · exact .operator binds below
  | openParen below =>
    rw [Postfix.popWhile, stays]
    exact .openParen below
  | call below =>
    rw [Postfix.popWhile, stays]
    exact .call below

/-- A call never waits at the top. -/
theorem popCall_eq (h : Waiting level depth stack) :
    popCall stack = (([] : List (Instruction α)), stack) := by
  cases h with
  | outside binds =>
    cases stack with
    | nil => rfl
    | cons top rest => exact popCall_of_binds (binds top (List.mem_cons_self ..))
  | operator binds => exact popCall_of_binds binds
  | openParen | call => rfl

/-- A closing parenthesis takes off its partner and the call in front of that. -/
theorem close (h : Waiting level (depth + 1) stack) :
    Waiting level depth (popCall (α := α)
      ((Postfix.popWhile (α := α) (· != .openParen) stack).2.drop 1)).2 := by
  generalize inside : depth + 1 = n at h
  induction h with
  | outside => cases inside
  | operator binds below ih =>
    rw [Postfix.popWhile, if_pos (bne_iff_ne.mpr binds.ne_openParen)]
    exact ih inside
  | openParen below =>
    cases inside
    have kept := below.popCall_eq (α := α)
    rw [Postfix.popWhile]
    simpa [kept] using below
  | call below =>
    cases inside
    exact below

end Waiting

/-- The entries that wait in front of tokens. A call waits from its name on, when its parenthesis is
still the next token. -/
inductive WaitingFor (level depth : Nat) (tokens : List (Token α)) : List Pending → Prop
  | entries {stack : List Pending} (waiting : Waiting level depth stack) :
      WaitingFor level depth tokens stack
  | call {name : String} {stack : List Pending} (opened : opens tokens = true)
      (below : Waiting level depth stack) : WaitingFor level depth tokens (.call name :: stack)

namespace WaitingFor

variable {level depth : Nat} {stack : List Pending} {tokens : List (Token α)}

theorem waiting (h : WaitingFor level depth tokens stack) (shut : opens tokens = false) :
    Waiting level depth stack := by
  cases h with
  | entries waiting => exact waiting
  | call opened => exact absurd opened (Bool.eq_false_iff.mp shut)

theorem openParen (h : WaitingFor level depth (.openParen :: tokens) stack) :
    Waiting level (depth + 1) (.openParen :: stack) := by
  cases h with
  | entries waiting => exact .openParen waiting
  | call opened below => exact .call below

end WaitingFor

theorem popWhile_openParen_of_binds {level : Nat} {stack : List Pending}
    (binds : ∀ entry ∈ stack, entry.Binds level) :
    popWhile (· != .openParen) stack = ((stack.flatMap Pending.emit : List (Instruction α)), []) :=
  popWhile_eq_of_pops fun entry member => bne_iff_ne.mpr (binds entry member).ne_openParen

/-- What settles operators takes them off the stack. -/
theorem convert_of_settles {level : Nat} {stack : List Pending}
    (binds : ∀ entry ∈ stack, entry.Binds level) {tokens : List (Token α)}
    (settled : settles level tokens = true) :
    convert false stack tokens = stack.flatMap Pending.emit ++ convert false [] tokens := by
  have bare (none : 5 ≤ level) : stack = [] :=
    List.eq_nil_iff_forall_not_mem.mpr fun entry member =>
      absurd (binds entry member).le_four (Nat.not_le.mpr none)
  have flushed := popWhile_openParen_of_binds (α := α) binds
  cases tokens with
  | nil => simp [convert]
  | cons token rest =>
    cases token with
    | number | identifier => simp [bare (by simpa [settles] using settled)]
    | openParen => cases settled
    | comma | closeParen => simp [convert, flushed, popWhile]
    | operator op =>
      have left : op.leftLevel ≤ level := by simpa [settles] using settled
      have yields : ∀ entry ∈ stack, (Pending.binary op).yields entry = true :=
        fun entry member => Pending.yields_of_binds_left ((binds entry member).mono left)
      simp [convert, popWhile_eq_of_pops yields, popWhile]

theorem settles_withoutStrays (level : Nat) (tokens : List (Token α)) :
    settles level (withoutStrays 0 tokens) = settles level tokens := by
  induction tokens with
  | nil => rfl
  | cons token rest ih =>
    cases token with
    | closeParen => exact ih
    | _ => rfl

theorem opens_of_settles {level : Nat} {tokens : List (Token α)}
    (settled : settles level tokens = true) : opens tokens = false := by
  cases tokens with
  | nil => rfl
  | cons token rest =>
    cases token with
    | openParen => cases settled
    | _ => rfl

theorem opens_withoutStrays {level depth : Nat} {tokens : List (Token α)}
    (settle : straysSettle false level depth tokens = true) :
    opens (withoutStrays depth tokens) = opens tokens := by
  cases tokens with
  | nil => rfl
  | cons token rest =>
    cases token with
    | closeParen =>
      cases depth with
      | succ depth => rfl
      | zero =>
        have settled : settles level rest = true := by
          simp only [straysSettle, Bool.and_eq_true] at settle
          exact settle.1.2
        rw [← settles_withoutStrays] at settled
        exact opens_of_settles settled
    | _ => rfl

/-- Where operators leave the stack next, a closing parenthesis without a partner takes off no
more. -/
theorem convert_closeParen_of_settles {level : Nat} {stack : List Pending}
    (binds : ∀ entry ∈ stack, entry.Binds level) {tokens : List (Token α)}
    (settled : settles level tokens = true) :
    convert false stack (.closeParen :: tokens) = convert false stack tokens := by
  rw [convert_of_settles binds settled]
  simp [convert, popWhile_openParen_of_binds binds, popCall]

/-- The closing parentheses of tokens that have no partner can be deleted, if what waits at each of
them leaves the stack next anyway. -/
def StraysVanish (tokens : List (Token α)) : Prop :=
  ∀ ⦃operandDue : Bool⦄ ⦃level depth : Nat⦄ ⦃stack : List Pending⦄,
    straysSettle operandDue level depth tokens = true → WaitingFor level depth tokens stack →
    convert operandDue stack (withoutStrays depth tokens) = convert operandDue stack tokens

namespace StraysVanish

variable {tokens : List (Token α)}

theorem openParen (h : StraysVanish tokens) : StraysVanish (.openParen :: tokens) :=
  fun _ _ _ _ settle waits => h settle (.entries waits.openParen)

theorem number (text : String) (value : α) (h : StraysVanish tokens) :
    StraysVanish (.number text value :: tokens) := by
  intro operandDue level depth stack settle waits
  have waiting := waits.waiting rfl
  exact congrArg (Instruction.push text value :: ·) (h settle (.entries waiting))

theorem identifier (name : String) (h : StraysVanish tokens) :
    StraysVanish (.identifier name :: tokens) := by
  intro operandDue level depth stack settle waits
  have waiting := waits.waiting rfl
  have same := opens_withoutStrays settle
  simp only [withoutStrays, convert, same]
  split
  · next known =>
    have opened := (Bool.and_eq_true_iff.mp known).1
    exact h settle (.call opened waiting)
  · rw [h settle (.entries waiting)]

theorem comma (h : StraysVanish tokens) : StraysVanish (.comma :: tokens) := by
  intro operandDue level depth stack settle waits
  have waiting := waits.waiting rfl
  simp only [withoutStrays, convert]
  cases depth with
  | zero =>
    have none : Waiting 5 0 [] := .outside (by simp)
    rw [popWhile_openParen_of_binds waiting.binds, h settle (.entries none)]
  | succ depth => rw [h settle (.entries (waiting.popWhile rfl))]

theorem operator (op : Operator) (h : StraysVanish tokens) :
    StraysVanish (.operator op :: tokens) := by
  intro operandDue level depth stack settle waits
  have waiting := waits.waiting rfl
  have binds := Pending.binds_operator op operandDue
  have above := Pending.binds_one_operator op operandDue
  simp only [withoutStrays, convert]
  generalize (if op == .sub && operandDue then Pending.negate else .binary op) = next
    at binds above
  refine congrArg (_ ++ ·) ?_
  cases depth with
  | zero =>
    refine h settle (.entries (.outside (List.forall_mem_cons.mpr ⟨?_, fun entry member => ?_⟩)))
    · exact binds.mono (Nat.min_le_right _ _)
    · exact (waiting.binds entry (mem_of_mem_popWhile member)).mono (Nat.min_le_left _ _)
  | succ depth =>
    have left := waiting.popWhile (α := α) (Pending.not_yields_openParen next)
    exact h settle (.entries (.operator above left))

theorem closeParen (h : StraysVanish tokens) : StraysVanish (.closeParen :: tokens) := by
  intro operandDue level depth stack settle waits
  have waiting := waits.waiting rfl
  cases depth with
  | succ depth =>
    simp only [withoutStrays, convert]
    rw [h settle (.entries waiting.close)]
  | zero =>
    simp only [straysSettle, Bool.and_eq_true, Bool.not_eq_true'] at settle
    obtain ⟨⟨rfl, settled⟩, settle⟩ := settle
    have settled' : settles level (withoutStrays 0 tokens) = true :=
      (settles_withoutStrays level tokens).trans settled
    have none : Waiting 5 0 [] := .outside (by simp)
    calc convert false stack (withoutStrays 0 tokens)
        = stack.flatMap Pending.emit ++ convert false [] (withoutStrays 0 tokens) :=
          convert_of_settles waiting.binds settled'
      _ = stack.flatMap Pending.emit ++ convert false [] tokens := by
          rw [h settle (.entries none)]
      _ = convert false stack tokens := (convert_of_settles waiting.binds settled).symm
      _ = convert false stack (.closeParen :: tokens) :=
          (convert_closeParen_of_settles waiting.binds settled).symm

end StraysVanish

theorem straysVanish (tokens : List (Token α)) : StraysVanish tokens := by
  induction tokens with
  | nil => exact fun _ _ _ _ _ _ => rfl
  | cons token rest ih =>
    cases token with
    | number text value => exact ih.number text value
    | identifier name => exact ih.identifier name
    | operator op => exact ih.operator op
    | comma => exact ih.comma
    | openParen => exact ih.openParen
    | closeParen => exact ih.closeParen

/-- Closing parentheses without a partner get one, and the result stays the same, if as many opening
ones stand in front of the expression. Deleting them leaves the result as it is where the operators
in front of each of them leave the stack next in any case. -/
theorem ofTokens_strays (tokens : List (Token α)) :
    let partners := List.replicate (strays 0 tokens) Token.openParen
    strays 0 (partners ++ tokens) = 0 ∧ ofTokens (partners ++ tokens) = ofTokens tokens ∧
      (straysSettle true 5 0 tokens = true →
        ofTokens (withoutStrays 0 tokens) = ofTokens tokens) := by
  refine ⟨?_, ofTokens_replicate_openParen _ tokens, fun settle => ?_⟩
  · rw [strays_replicate_openParen, strays_add, Nat.sub_self]
  · exact straysVanish tokens settle (.entries (.outside (by simp)))

theorem ofTokens_strays_quotient :
    let tokens : List (Token Nat) := [.identifier "a", .operator .mul, .identifier "b",
      .closeParen, .operator .div, .identifier "c", .closeParen, .closeParen]
    straysSettle true 5 0 tokens = true ∧ ofTokens tokens = ofTokens [.identifier "a",
      .operator .mul, .identifier "b", .operator .div, .identifier "c"] := by
  intro tokens
  have settle : straysSettle true 5 0 tokens = true := by decide +kernel
  exact ⟨settle, ((ofTokens_strays tokens).2.2 settle).symm⟩

/-- In front of a product, a closing parenthesis without a partner ends a sum. -/
theorem ofTokens_withoutStrays_ne :
    let tokens : List (Token Nat) := [.number "1" 1, .operator .add, .number "2" 2, .closeParen,
      .operator .mul, .number "3" 3]
    ofTokens (withoutStrays 0 tokens) ≠ ofTokens tokens := by
  decide +kernel

end Postfix

end PlugGraph.Expr
