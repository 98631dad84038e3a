import Mathlib.Data.Fin.VecNotation
import PlugGraph.Proofs.Exact
import PlugGraph.Proofs.Grammar

/-!
# The stack machine computes the value of the tree

`Operator.meaning?` and `Builtin.meaning?` say what operators and functions stand for, clause by
clause and apart from the machine, and `Tree.value` is the value of an expression by recursion on
the tree. The stack machine gets the same value from the instructions of the tree in postorder:
whatever follows them, they push the value of the tree and nothing else, and each finds its operands
on the stack. Names are asked for in a monad, so the order in which they are asked for agrees as
well.
-/

namespace PlugGraph.Expr

namespace Postfix

variable {α : Type}

def operands : Instruction α → Nat
  | .push _ _ => 0
  | .load _ => 0
  | .unary symbol => if symbol == negation then 1 else 0
  | .binary _ => 2
  | .call name =>
    match Builtin.ofName? name with
    | some f => f.arity
    | none => 0

/-- How far a watched run has come. -/
structure Watched (α : Type) where
  /-- Every instruction has found its operands on the stack. -/
  fed : Bool
  stack : List α

variable [Scalar α]

/-- Runs a program as `run` does, but watches the instructions take their operands, and ends in the
whole stack. -/
def watch (frame : α) (locals : Variables α) : List (Instruction α) → Watched α →
    Dialogue String (Option α) (Option (Watched α))
  | [], state => .done (some state)
  | .load name :: rest, state =>
    match (locals.lookup name).or (constant? frame name) with
    | some value => watch frame locals rest ⟨state.fed, value :: state.stack⟩
    | none => .ask name fun
      | some value => watch frame locals rest ⟨state.fed, value :: state.stack⟩
      | none => .done none
  | instruction :: rest, state =>
    watch frame locals rest
      ⟨state.fed && operands instruction ≤ state.stack.length, step instruction state.stack⟩

/-- Watching a run does not change it. -/
theorem run_eq_watch (frame : α) (locals : Variables α) (program : List (Instruction α))
    (state : Watched α) :
    run frame locals program state.stack =
      Option.map (fun state => top state.stack) <$> watch frame locals program state := by
  induction program generalizing state with
  | nil => rfl
  | cons instruction rest ih =>
    cases instruction with
    | load name =>
      simp only [run, watch]
      cases (locals.lookup name).or (constant? frame name) with
      | some value => exact ih ⟨state.fed, value :: state.stack⟩
      | none =>
        refine congrArg (Dialogue.ask name) (funext fun reply => ?_)
        cases reply with
        | some value => exact ih ⟨state.fed, value :: state.stack⟩
        | none => rfl
    | _ => exact ih ⟨_, _⟩

theorem applySymbol_text (op : Operator) (a b : α) :
    applySymbol op.text a b = applyOperator op a b := by
  simp [applySymbol, Operator.text]

theorem orZero_eq_getD (result : Except Fault α) : orZero result = result.toOption.getD 0 := by
  cases result <;> rfl

end Postfix

section Meaning

variable {α : Type} [Scalar α]

/-- What an operator makes of two numbers; `none` where the arithmetic breaks down. Nothing is
divided by a magnitude below `1e-8`. -/
def Operator.meaning? : Operator → α → α → Option α
  | add, a, b => some (a + b)
  | sub, a, b => some (a - b)
  | mul, a, b => some (a * b)
  | div, a, b => if Scalar.abs b < 1e-8 then some 0 else (Scalar.divide? a b).toOption
  | pow, a, b => (Scalar.pow? a b).toOption

/-- The machine divides, multiplies, adds and takes powers as the operators mean it. -/
theorem Operator.getD_meaning? (op : Operator) (a b : α) :
    (op.meaning? a b).getD 0 = Postfix.orZero (Postfix.applyOperator op a b) := by
  rw [Postfix.orZero_eq_getD]
  cases op with
  | add | sub | mul | pow => rfl
  | div =>
    change (if Scalar.abs b < Scalar.zeroTolerance then _ else _ : Option α).getD 0 = _
    simp only [Postfix.applyOperator]
    split <;> rfl

example : Operator.meaning? .div (1 : ℚ) 1e-9 = some 0 := by decide +kernel

/-- What a function makes of its arguments; `none` where the arithmetic breaks down. -/
def Builtin.meaning? : Builtin → List α → Option α
  | sin, [x] => (Scalar.sin? x).toOption
  | cos, [x] => (Scalar.cos? x).toOption
  | tan, [x] => (Scalar.tan? x).toOption
  -- the nearest point of the domain
  | asin, [x] => (Scalar.asin? (if x < -1 then -1 else if 1 < x then 1 else x)).toOption
  | acos, [x] => (Scalar.acos? (if x < -1 then -1 else if 1 < x then 1 else x)).toOption
  | atan, [x] => (Scalar.atan? x).toOption
  | atan2, [y, x] => some (Scalar.atan2 y x)
  | abs, [x] => some (Scalar.abs x)
  | sqrt, [x] => (Scalar.sqrt? (if 0 < x then x else 0)).toOption
  | pow, [x, y] => (Scalar.pow? x y).toOption
  | min, [x, y] => some (if y < x then y else x)
  | max, [x, y] => some (if x < y then y else x)
  | clamp, [x, lo, hi] => some (if x < lo then lo else if hi < x then hi else x)
  | floor, [x] => (Scalar.floor? x).toOption.map Scalar.ofInt
  | ceil, [x] => (Scalar.ceil? x).toOption.map Scalar.ofInt
  | exp, [x] => (Scalar.exp? x).toOption
  | log, [x] => (Scalar.log? (if 1e-8 < x then x else 1e-8)).toOption
  | _, _ => none

/-- The machine applies a function to as many arguments as it takes as the function means it. -/
theorem Builtin.getD_meaning? (f : Builtin) {args : List α} (length : args.length = f.arity) :
    (f.meaning? args).getD 0 = Postfix.orZero (f.apply args) := by
  rw [Postfix.orZero_eq_getD]
  cases f with
  | atan2 | pow | min | max =>
    obtain ⟨x, y, rfl⟩ := List.length_eq_two.mp length
    rfl
  | clamp =>
    obtain ⟨x, lo, hi, rfl⟩ := List.length_eq_three.mp length
    rfl
  | floor =>
    obtain ⟨x, rfl⟩ := List.length_eq_one_iff.mp length
    show ((Scalar.floor? x).toOption.map _).getD 0 = ((Scalar.floor? x).map _).toOption.getD 0
    cases Scalar.floor? x <;> rfl
  | ceil =>
    obtain ⟨x, rfl⟩ := List.length_eq_one_iff.mp length
    show ((Scalar.ceil? x).toOption.map _).getD 0 = ((Scalar.ceil? x).map _).toOption.getD 0
    cases Scalar.ceil? x <;> rfl
  | _ =>
    obtain ⟨x, rfl⟩ := List.length_eq_one_iff.mp length
    rfl

end Meaning

namespace Tree

open Postfix

variable {α : Type} [Scalar α] {m : Type → Type} [Monad m] (frame : α) (locals : Variables α)
  (resolve : String → m α)

/-- The value of an expression. Where the arithmetic breaks down, the operation counts as zero and
the rest goes on. -/
def value : Tree α → m α
  | number _ value => return value
  | identifier name =>
    match locals.lookup name with
    | some value => return value
    | none =>
      match constant? frame name with
      | some value => return value
      | none => resolve name
  | negate operand => do
    let a ← operand.value
    return -a
  | binary op left right => do
    let a ← left.value
    let b ← right.value
    return (op.meaning? a b).getD 0
  | call _ f _ args => do
    let values ← (List.finRange f.arity).mapM fun i => (args i).value
    return (f.meaning? values).getD 0

/-- Answers a watched run with the replies of a resolver. -/
def replay (program : List (Instruction α)) (state : Watched α) : m (Option (Watched α)) :=
  (watch frame locals program state).answerM fun name => some <$> resolve name

variable {frame locals resolve} [LawfulMonad m]

/-- Steps that do not depend on more than the number of values may assume it. -/
theorem mapM_bind_congr {ι ρ ω : Type} {f : ι → m ρ} {next next' : List ρ → m ω} {items : List ι}
    (same : ∀ results, results.length = items.length → next results = next' results) :
    items.mapM f >>= next = items.mapM f >>= next' := by
  induction items generalizing next next' with
  | nil => simpa using same [] rfl
  | cons item rest ih =>
    simp only [List.mapM_cons, bind_assoc, pure_bind]
    refine congrArg (f item >>= ·) (funext fun result => ih fun results length => ?_)
    exact same (result :: results) (congrArg (· + 1) length)

/-- The instructions of a tree push its value and nothing else. -/
def Pushes (frame : α) (locals : Variables α) (resolve : String → m α) (tree : Tree α) : Prop :=
  ∀ rest state, replay frame locals resolve (tree.postorder ++ rest) state =
    tree.value frame locals resolve >>= fun value =>
      replay frame locals resolve rest ⟨state.fed, value :: state.stack⟩

theorem pushes_identifier (name : String) :
    Pushes frame locals resolve (.identifier name : Tree α) := by
  intro rest state
  simp only [replay, postorder, value, List.cons_append, List.nil_append, watch]
  cases locals.lookup name with
  | some value => simp
  | none =>
    cases constant? frame name with
    | some value => simp
    | none => simp

/-- Arguments are pushed one after the other. -/
theorem pushes_args {n : Nat} {args : Fin n → Tree α}
    (h : ∀ i, Pushes frame locals resolve (args i)) (indices : List (Fin n))
    (rest : List (Instruction α)) (state : Watched α) :
    replay frame locals resolve ((indices.flatMap fun i => (args i).postorder) ++ rest) state =
      (indices.mapM fun i => (args i).value frame locals resolve) >>= fun values =>
        replay frame locals resolve rest ⟨state.fed, values.reverse ++ state.stack⟩ := by
  induction indices generalizing state with
  | nil => simp
  | cons i indices ih =>
    simp only [List.flatMap_cons, List.append_assoc, h i _ state, List.mapM_cons, bind_assoc,
      pure_bind, ih]
    simp

/-- Every tree does, whatever follows and whatever is on the stack. -/
theorem pushes (tree : Tree α) : Pushes frame locals resolve tree := by
  induction tree with
  | number text value =>
    intro rest state
    simp [replay, postorder, Tree.value, watch, operands, step]
  | identifier name => exact pushes_identifier name
  | negate operand ih =>
    intro rest state
    simp only [postorder, List.append_assoc, ih _ state, value, bind_assoc, pure_bind]
    refine congrArg (_ >>= ·) (funext fun a => ?_)
    simp [replay, watch, operands, step, top]
  | binary op left right ih ih' =>
    intro rest state
    simp only [postorder, List.append_assoc, ih _ state, value, bind_assoc, pure_bind]
    refine congrArg (_ >>= ·) (funext fun a => ?_)
    rw [ih' _ ⟨state.fed, a :: state.stack⟩]
    refine congrArg (_ >>= ·) (funext fun b => ?_)
    rw [op.getD_meaning?]
    simp [replay, watch, operands, step, top, applySymbol_text]
  | call name f known args ih =>
    intro rest state
    simp only [postorder, List.append_assoc, pushes_args ih _ _ state, value, bind_assoc, pure_bind]
    refine mapM_bind_congr fun values length => ?_
    rw [List.length_finRange] at length
    rw [f.getD_meaning? length]
    simp [replay, watch, operands, step, topmost, known, ← length]

/-- The tokens that write a tree are converted to its postorder, on which the machine always finds
its operands and leaves the value of the tree alone on the stack. -/
theorem ofTokens_evaluates {level : Nat} {tree : Tree α} {tokens : List (Token α)}
    (written : tree.Writes level tokens) :
    ofTokens tokens = tree.postorder ∧
      ∀ {m : Type → Type} [Monad m] [LawfulMonad m] (frame : α) (locals : Variables α)
        (resolve : String → m α),
        replay frame locals resolve (ofTokens tokens) ⟨true, []⟩ =
            (fun value => some ⟨true, [value]⟩) <$> tree.value frame locals resolve ∧
          (Postfix.evaluate frame locals (ofTokens tokens)).answerM
              (fun name => some <$> resolve name) =
            some <$> tree.value frame locals resolve := by
  have code := written.ofTokens_eq
  refine ⟨code, fun frame locals resolve => ?_⟩
  have watched : replay frame locals resolve tree.postorder ⟨true, []⟩ =
      (fun value => some ⟨true, [value]⟩) <$> tree.value frame locals resolve := by
    have pushed : replay frame locals resolve (tree.postorder ++ []) ⟨true, []⟩ = _ :=
      tree.pushes [] ⟨true, []⟩
    rw [List.append_nil] at pushed
    rw [pushed, map_eq_pure_bind]
    rfl
  refine ⟨by rw [code, watched], ?_⟩
  rw [code, Postfix.evaluate, run_eq_watch frame locals tree.postorder ⟨true, []⟩,
    Dialogue.answerM_map]
  change _ <$> replay frame locals resolve tree.postorder ⟨true, []⟩ = _
  rw [watched, ← comp_map]
  rfl

/-- The expression `-a ^ 2 * max(1, b)` with a resolver that may take note of the names. It is 45
where `a` is 3 and `b` is 5. -/
theorem ofTokens_evaluates_power_times_call :
    let tree : Tree ℚ :=
      .binary .mul (.binary .pow (.negate (.identifier "a")) (.number "2" 2))
        (.call "max" .max (by decide +kernel) ![.number "1" 1, .identifier "b"])
    let tokens : List (Token ℚ) :=
      [.operator .sub, .identifier "a", .operator .pow, .number "2" 2, .operator .mul,
        .identifier "max", .openParen, .number "1" 1, .comma, .identifier "b", .closeParen]
    let five (name : String) : StateM (List String) ℚ := fun asked => (5, asked ++ [name])
    tree.Writes 2 tokens ∧ ofTokens tokens = tree.postorder ∧
      (∀ (frame : ℚ) (locals : Variables ℚ) (resolve : String → StateM (List String) ℚ),
        replay frame locals resolve (ofTokens tokens) ⟨true, []⟩ =
            (fun value => some ⟨true, [value]⟩) <$> tree.value frame locals resolve ∧
          (Postfix.evaluate frame locals (ofTokens tokens)).answerM
              (fun name => some <$> resolve name) =
            some <$> tree.value frame locals resolve) ∧
      ((Postfix.evaluate 0 [("a", 3)] (ofTokens tokens)).answerM
          fun name => some <$> five name).run [] = (some 45, ["b"]) := by
  intro tree tokens five
  have negated : Writes 4 (.negate (.identifier "a" : Tree ℚ)) _ :=
    .negate (.loosen (.identifier "a"))
  have power : Writes 3 (.binary .pow (.negate (.identifier "a")) (.number "2" (2 : ℚ))) _ :=
    @Writes.binary ℚ .pow _ _ _ _ negated (.loosen (.loosen (.number "2" 2)))
  have arguments : ∀ i, Writes 1 ((![.number "1" 1, .identifier "b"] : Fin 2 → Tree ℚ) i)
      ((![[.number "1" 1], [.identifier "b"]] : Fin 2 → List (Token ℚ)) i) := by
    refine Fin.forall_fin_two.mpr ⟨?_, ?_⟩
    · exact .loosen (.loosen (.loosen (.loosen (.number "1" 1))))
    · exact .loosen (.loosen (.loosen (.loosen (.identifier "b"))))
  have called : Writes 5 (.call "max" .max (by decide +kernel) _) _ :=
    @Writes.call ℚ "max" .max _ _ _ arguments
  have written : tree.Writes 2 tokens :=
    @Writes.binary ℚ .mul _ _ _ _ (.loosen power) (.loosen (.loosen called))
  have means (frame : ℚ) (locals : Variables ℚ) (resolve : String → StateM (List String) ℚ) :=
    (ofTokens_evaluates written).2 frame locals resolve
  refine ⟨written, (ofTokens_evaluates written).1, means, ?_⟩
  rw [(means 0 [("a", 3)] five).2]
  have number : Id.run (tree.value 0 [("a", 3)] five []) = (45, ["b"]) := by
    decide +kernel
  exact congrArg (Prod.map some id) number

end Tree

end PlugGraph.Expr
