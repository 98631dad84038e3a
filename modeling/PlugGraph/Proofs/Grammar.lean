import Mathlib.Data.List.FinRange
import PlugGraph.Expr.Postfix

/-!
# Operator precedence finds the tree

`Tree.Writes` is the grammar of expressions: which tokens write a tree, with parentheses where the
levels of the operators need them and anywhere else. The conversion to postfix knows no trees. It
keeps waiting operators on a stack, and `Converts` says what it does with the tokens of a part: if
the top of the stack holds against every operator of the part, the instructions of the part come out
in the order of the tree, apart from operators that are left waiting on top of the stack.
-/

namespace PlugGraph.Expr

/-- An expression. A call has as many arguments as its function takes. -/
inductive Tree (α : Type) where
  | number (text : String) (value : α)
  | identifier (name : String)
  | negate (operand : Tree α)
  | binary (op : Operator) (left right : Tree α)
  | call (name : String) (f : Builtin) (known : Builtin.ofName? name = some f)
      (args : Fin f.arity → Tree α)

namespace Operator

def precedence : Operator → Nat
  | add => 1
  | sub => 1
  | mul => 2
  | div => 2
  | pow => 3

/-- How strongly the operators of a left operand have to bind; only powers associate to the
right. -/
def leftLevel (op : Operator) : Nat := if op = pow then op.precedence + 1 else op.precedence

/-- How strongly the operators of a right operand have to bind. -/
def rightLevel (op : Operator) : Nat := if op = pow then op.precedence else op.precedence + 1

end Operator

namespace Tree

variable {α : Type}

/-- The instructions for a tree, operands before operators. -/
def postorder : Tree α → List (Instruction α)
  | number text value => [.push text value]
  | identifier name => [.load name]
  | negate operand => operand.postorder ++ [.unary negation]
  | binary op left right => left.postorder ++ right.postorder ++ [.binary op.text]
  | call name f _ args =>
    ((List.finRange f.arity).flatMap fun i => (args i).postorder) ++ [.call name]

/-- The tokens write the tree, and no operator outside of parentheses binds less strongly than
`level`: 1 to 3 are the levels of binary operators, 4 is that of negation, and 5 that of whatever
needs no parentheses. -/
inductive Writes : (level : Nat) → Tree α → List (Token α) → Prop
  | number (text : String) (value : α) : Writes 5 (.number text value) [.number text value]
  | identifier (name : String) : Writes 5 (.identifier name) [.identifier name]
  | call {name : String} {f : Builtin} (known : Builtin.ofName? name = some f)
      {args : Fin f.arity → Tree α} {texts : Fin f.arity → List (Token α)}
      (written : ∀ i, Writes 1 (args i) (texts i)) :
      Writes 5 (.call name f known args)
        (.identifier name :: .openParen ::
          (List.intercalate [.comma] ((List.finRange f.arity).map texts) ++ [.closeParen]))
  | parens {tree : Tree α} {tokens : List (Token α)} (written : Writes 1 tree tokens) :
      Writes 5 tree (.openParen :: (tokens ++ [.closeParen]))
  | negate {operand : Tree α} {tokens : List (Token α)} (written : Writes 4 operand tokens) :
      Writes 4 (.negate operand) (.operator .sub :: tokens)
  | binary {op : Operator} {left right : Tree α} {before after : List (Token α)}
      (first : Writes op.leftLevel left before) (second : Writes op.rightLevel right after) :
      Writes op.precedence (.binary op left right) (before ++ .operator op :: after)
  | loosen {level : Nat} {tree : Tree α} {tokens : List (Token α)}
      (written : Writes (level + 1) tree tokens) : Writes level tree tokens

end Tree

namespace Pending

/-- An operator that binds at least as strongly as `level`. -/
def Binds (level : Nat) (p : Pending) : Prop := ∃ n, p.precedence? = some n ∧ level ≤ n

theorem Binds.mono {level level' : Nat} {p : Pending} (h : p.Binds level') (le : level ≤ level') :
    p.Binds level := by
  obtain ⟨n, same, bound⟩ := h
  exact ⟨n, same, Nat.le_trans le bound⟩

@[simp] theorem precedence?_binary (op : Operator) :
    (binary op).precedence? = some op.precedence := by
  cases op <;> rfl

theorem binds_binary (op : Operator) : (binary op).Binds op.precedence :=
  ⟨op.precedence, precedence?_binary op, Nat.le_refl _⟩

theorem binds_negate : negate.Binds 4 := ⟨4, rfl, Nat.le_refl 4⟩

theorem Binds.ne_openParen {level : Nat} {p : Pending} (h : p.Binds level) : p ≠ openParen := by
  rintro rfl
  obtain ⟨n, none, -⟩ := h
  cases none

/-- An operator takes the operators of its left operand off the stack. -/
theorem yields_of_binds_left {op : Operator} {top : Pending} (h : top.Binds op.leftLevel) :
    (binary op).yields top = true := by
  obtain ⟨n, same, bound⟩ := h
  simp only [yields, precedence?_binary, same]
  cases op <;> exact decide_eq_true bound

/-- An operator stays on the stack while those of its right operand come. -/
theorem not_yields_of_binds_right {op : Operator} {next : Pending} (h : next.Binds op.rightLevel) :
    next.yields (binary op) = false := by
  obtain ⟨n, same, bound⟩ := h
  cases next with
  | openParen | call => cases same
  | negate => cases op <;> rfl
  | binary other =>
    obtain rfl : other.precedence = n := by simpa using same
    cases op <;> cases other <;> simp_all +decide

theorem not_yields_negate {next : Pending} (h : next.Binds 4) : next.yields negate = false := by
  obtain ⟨n, same, bound⟩ := h
  cases next with
  | openParen | call => cases same
  | negate => rfl
  | binary other =>
    obtain rfl : other.precedence = n := by simpa using same
    cases other <;> simp_all +decide

end Pending

namespace Postfix

variable {α : Type}

/-- The top of the stack is no call, and it stays where it is while operators come that bind at
least as strongly as `level`. -/
def Holds (level : Nat) (stack : List Pending) : Prop :=
  ∀ top ∈ stack.head?, (∀ next : Pending, next.Binds level → next.yields top = false) ∧
    ∀ name, top ≠ .call name

namespace Holds

variable {level : Nat} {stack : List Pending}

theorem nil : Holds level [] := by simp [Holds]

theorem openParen : Holds level (.openParen :: stack) := by
  rintro top ⟨⟩
  refine ⟨fun next _ => ?_, by simp⟩
  cases next with
  | binary op => cases op <;> rfl
  | _ => rfl

theorem binary (op : Operator) : Holds op.rightLevel (.binary op :: stack) := by
  rintro top ⟨⟩
  exact ⟨fun _ => Pending.not_yields_of_binds_right, by simp⟩

theorem negate : Holds 4 (.negate :: stack) := by
  rintro top ⟨⟩
  exact ⟨fun _ => Pending.not_yields_negate, by simp⟩

theorem mono {level' : Nat} (h : Holds level stack) (le : level ≤ level') : Holds level' stack :=
  fun top member => ⟨fun next binds => (h top member).1 next (binds.mono le), (h top member).2⟩

theorem popCall (h : Holds level stack) : popCall stack = (([] : List (Instruction α)), stack) := by
  cases stack with
  | nil => rfl
  | cons top rest =>
    cases top with
    | call name => exact absurd rfl ((h _ rfl).2 name)
    | _ => rfl

end Holds

theorem popWhile_of_stays {p : Pending → Bool} {stack : List Pending}
    (stays : ∀ top ∈ stack.head?, p top = false) :
    popWhile p stack = (([] : List (Instruction α)), stack) := by
  cases stack with
  | nil => rfl
  | cons top rest => simp [popWhile, stays top rfl]

/-- Entries that satisfy a condition are popped down to one that does not. -/
theorem popWhile_append {p : Pending → Bool} {waiting stack : List Pending}
    (pops : ∀ entry ∈ waiting, p entry = true) (stays : ∀ top ∈ stack.head?, p top = false) :
    popWhile p (waiting ++ stack) =
      ((waiting.flatMap Pending.emit : List (Instruction α)), stack) := by
  induction waiting with
  | nil => exact popWhile_of_stays stays
  | cons entry waiting ih =>
    obtain ⟨first, later⟩ := List.forall_mem_cons.mp pops
    simp [popWhile, first, ih later]

/-- The conversion of the tokens of a part gives its instructions, the last of which come from the
operators that are left waiting. -/
def Converts (level : Nat) (code : List (Instruction α)) (tokens : List (Token α)) : Prop :=
  ∀ stack rest, Holds level stack → opens rest = false →
    ∃ output waiting, (∀ entry ∈ waiting, entry.Binds level) ∧
      output ++ waiting.flatMap Pending.emit = code ∧
      convert true stack (tokens ++ rest) = output ++ convert false (waiting ++ stack) rest

namespace Converts

variable {level : Nat} {code : List (Instruction α)} {tokens : List (Token α)}

theorem loosen (h : Converts (level + 1) code tokens) : Converts level code tokens := by
  intro stack rest holds closed
  obtain ⟨output, waiting, binds, emitted, converted⟩ :=
    h stack rest (holds.mono (Nat.le_succ level)) closed
  exact ⟨output, waiting, fun entry member => (binds entry member).mono (Nat.le_succ level),
    emitted, converted⟩

theorem number (text : String) (value : α) :
    Converts 5 [.push text value] [.number text value] := by
  intro stack rest _ _
  exact ⟨[.push text value], [], by simp, rfl, rfl⟩

theorem identifier (name : String) :
    Converts 5 [.load name] [(.identifier name : Token α)] := by
  intro stack rest _ closed
  refine ⟨[.load name], [], by simp, rfl, ?_⟩
  simp [convert, closed]

/-- Up to a closing parenthesis or a comma, everything over the opening one is popped. -/
theorem popWhile_openParen (h : Converts level code tokens) (stack : List Pending)
    {rest : List (Token α)} (closed : opens rest = false) :
    ∃ output waiting, convert true (.openParen :: stack) (tokens ++ rest) =
        output ++ convert false (waiting ++ .openParen :: stack) rest ∧
      popWhile (· != .openParen) (waiting ++ .openParen :: stack) =
        ((waiting.flatMap Pending.emit : List (Instruction α)), .openParen :: stack) ∧
      output ++ waiting.flatMap Pending.emit = code := by
  obtain ⟨output, waiting, binds, emitted, converted⟩ := h _ rest Holds.openParen closed
  refine ⟨output, waiting, converted, popWhile_append ?_ ?_, emitted⟩
  · exact fun entry member => bne_iff_ne.mpr (binds entry member).ne_openParen
  · rintro top ⟨⟩
    rfl

theorem convert_comma (h : Converts level code tokens) (stack : List Pending)
    (rest : List (Token α)) :
    convert true (.openParen :: stack) (tokens ++ .comma :: rest) =
      code ++ convert true (.openParen :: stack) rest := by
  have closed : opens (.comma :: rest) = false := rfl
  obtain ⟨output, waiting, converted, popped, rfl⟩ := h.popWhile_openParen stack closed
  rw [converted, convert]
  simp only [popped, List.append_assoc]

theorem convert_closeParen (h : Converts level code tokens) {stack below : List Pending}
    {called : List (Instruction α)} (top : popCall stack = (called, below))
    (rest : List (Token α)) :
    convert true (.openParen :: stack) (tokens ++ .closeParen :: rest) =
      code ++ (called ++ convert false below rest) := by
  have closed : opens (.closeParen :: rest) = false := rfl
  obtain ⟨output, waiting, converted, popped, rfl⟩ := h.popWhile_openParen stack closed
  rw [converted, convert]
  simp only [popped, List.drop_succ_cons, List.drop_zero, top, List.append_assoc]

theorem parens (h : Converts 1 code tokens) :
    Converts 5 code (.openParen :: (tokens ++ [.closeParen])) := by
  intro stack rest holds _
  refine ⟨code, [], by simp, by simp, ?_⟩
  simpa [convert] using h.convert_closeParen holds.popCall rest

theorem negate (h : Converts 4 code tokens) :
    Converts 4 (code ++ [.unary negation]) (.operator .sub :: tokens) := by
  intro stack rest holds closed
  obtain ⟨output, waiting, binds, rfl, converted⟩ := h (.negate :: stack) rest .negate closed
  refine ⟨output, waiting ++ [.negate], ?_, by simp [Pending.emit], ?_⟩
  · simpa [or_imp, forall_and] using ⟨binds, Pending.binds_negate⟩
  · have kept : popWhile Pending.negate.yields stack = (([] : List (Instruction α)), stack) :=
      popWhile_of_stays fun top member => (holds top member).1 _ Pending.binds_negate
    simp only [List.cons_append, convert, beq_self_eq_true, Bool.and_self, if_true, kept,
      List.nil_append, converted, List.append_assoc]

theorem binary {op : Operator} {code' : List (Instruction α)} {tokens' : List (Token α)}
    (h : Converts op.leftLevel code tokens) (h' : Converts op.rightLevel code' tokens') :
    Converts op.precedence (code ++ code' ++ [.binary op.text])
      (tokens ++ .operator op :: tokens') := by
  intro stack rest holds closed
  have left : op.precedence ≤ op.leftLevel := by cases op <;> decide
  have right : op.precedence ≤ op.rightLevel := by cases op <;> decide
  obtain ⟨output, waiting, binds, rfl, converted⟩ :=
    h stack (.operator op :: (tokens' ++ rest)) (holds.mono left) rfl
  obtain ⟨output', waiting', binds', rfl, converted'⟩ :=
    h' (.binary op :: stack) rest (.binary op) closed
  refine ⟨output ++ waiting.flatMap Pending.emit ++ output', waiting' ++ [.binary op], ?_,
    by simp [Pending.emit], ?_⟩
  · simp only [List.mem_append, List.mem_singleton, or_imp, forall_and]
    exact ⟨fun entry member => (binds' entry member).mono right,
      fun entry same => same ▸ Pending.binds_binary op⟩
  · have popped : popWhile (Pending.binary op).yields (waiting ++ stack) =
        ((waiting.flatMap Pending.emit : List (Instruction α)), stack) :=
      popWhile_append (fun entry member => Pending.yields_of_binds_left (binds entry member))
        fun top member => (holds top member).1 _ (Pending.binds_binary op)
    simp only [List.append_assoc, List.cons_append, converted, convert, Bool.and_false,
      Bool.false_eq_true, if_false, popped, converted', List.nil_append]

/-- Arguments come out one after the other. -/
theorem convert_args {n : Nat} {code : Fin n → List (Instruction α)}
    {texts : Fin n → List (Token α)} (h : ∀ i, Converts 1 (code i) (texts i))
    {indices : List (Fin n)} (some : indices ≠ []) {stack below : List Pending}
    {called : List (Instruction α)} (top : popCall stack = (called, below))
    (rest : List (Token α)) :
    convert true (.openParen :: stack)
        (List.intercalate [.comma] (indices.map texts) ++ .closeParen :: rest) =
      indices.flatMap code ++ (called ++ convert false below rest) := by
  induction indices with
  | nil => exact absurd rfl some
  | cons i others ih =>
    cases others with
    | nil => simpa [List.intercalate] using (h i).convert_closeParen top rest
    | cons j others =>
      have later := ih (by simp)
      have first := (h i).convert_comma stack
        (List.intercalate [.comma] ((j :: others).map texts) ++ .closeParen :: rest)
      rw [later] at first
      simpa [List.intercalate] using first

theorem call {name : String} {f : Builtin} (known : Builtin.ofName? name = some f)
    {code : Fin f.arity → List (Instruction α)} {texts : Fin f.arity → List (Token α)}
    (h : ∀ i, Converts 1 (code i) (texts i)) :
    Converts 5 ((List.finRange f.arity).flatMap code ++ [.call name])
      (.identifier name :: .openParen ::
        (List.intercalate [.comma] ((List.finRange f.arity).map texts) ++ [.closeParen])) := by
  intro stack rest _ _
  refine ⟨_, [], by simp, List.append_nil _, ?_⟩
  have some : List.finRange f.arity ≠ [] := by cases f <;> decide
  have top : popCall (.call name :: stack) = ([(.call name : Instruction α)], stack) := rfl
  have args := convert_args h some top rest
  simpa [convert, opens, known] using args

end Converts

end Postfix

namespace Tree.Writes

variable {α : Type} {level : Nat} {tree : Tree α} {tokens : List (Token α)}

/-- The conversion finds the tree that tokens write. -/
theorem converts (h : tree.Writes level tokens) : Postfix.Converts level tree.postorder tokens := by
  induction h with
  | number text value => exact .number text value
  | identifier name => exact .identifier name
  | call known _ ih => exact .call known ih
  | parens _ ih => exact ih.parens
  | negate _ ih => exact ih.negate
  | binary _ _ ih ih' => exact ih.binary ih'
  | loosen _ ih => exact ih.loosen

theorem ofTokens_eq (h : tree.Writes level tokens) : Postfix.ofTokens tokens = tree.postorder := by
  obtain ⟨output, waiting, -, emitted, converted⟩ := h.converts [] [] .nil rfl
  rw [List.append_nil, List.append_nil] at converted
  rw [Postfix.ofTokens, converted, Postfix.convert, emitted]

/-- A minus sign binds more strongly than a power, which associates to the right. -/
example : Postfix.ofTokens [.operator .sub, .identifier "a", .operator .pow, .identifier "b",
    .operator .pow, .identifier "c"] =
    ([.load "a", .unary "neg", .load "b", .load "c", .binary "^", .binary "^"] :
      List (Instruction Nat)) := by
  decide +kernel

end Tree.Writes

end PlugGraph.Expr
