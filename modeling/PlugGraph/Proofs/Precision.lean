import PlugGraph.Proofs.Rounding
import PlugGraph.Proofs.Session

/-!
# Values are in single precision

Whatever a plug is computed from, it is rounded to single precision when it is settled, and what is
not finite then becomes zero. So is the value of an expression. Hence the values in a cache are
finite numbers in single precision: each step of a walk adds such a value to the cache or leaves the
cache as it is, and whatever else an operation does to a cache is to empty it.
-/

namespace PlugGraph

variable {α : Type} [Scalar α]

/-- A finite number in single precision. -/
def Scalar.IsSingle (x : α) : Prop := Scalar.isFinite x = true ∧ Scalar.single x = x

/-- All values in a cache are finite numbers in single precision. -/
def Rounded (cache : Std.ExtTreeMap String α) : Prop :=
  ∀ (plug : String) (value : α), cache[plug]? = some value → Scalar.IsSingle value

namespace Rounded

theorem empty : Rounded (∅ : Std.ExtTreeMap String α) := by
  intro plug value known
  simp at known

theorem insert {cache : Std.ExtTreeMap String α} (h : Rounded cache) (plug : String) {value : α}
    (single : Scalar.IsSingle value) : Rounded (cache.insert plug value) := by
  intro other value' known
  rw [Std.ExtTreeMap.getElem?_insert] at known
  split at known
  · cases known
    exact single
  · exact h other value' known

theorem atFrame {e : Evaluator α} (h : Rounded e.cache) (frame : α) :
    Rounded (e.atFrame frame).cache := by
  unfold Evaluator.atFrame
  split
  · exact h
  · exact empty

end Rounded

/-- A finite number in single precision is not rounded any more. -/
theorem Context.round_of_isSingle (plug : String) {value : α} (h : Scalar.IsSingle value) :
    round plug value = ⟨value, []⟩ := by
  obtain ⟨finite, single⟩ := h
  rw [Scalar.isFinite, Option.isNone_iff_eq_none] at finite
  simp only [round, single, finite]

/-- What a number is rounded to does not depend on the plug. -/
theorem Context.value_round (plug plug' : String) (value : α) :
    (round plug value).value = (round plug' value).value := by
  simp only [round]
  split <;> rfl

variable [Scalar.LawfulSingle α]

namespace Scalar

theorem isSingle_zero : IsSingle (0 : α) := ⟨LawfulSingle.isFinite_zero, LawfulSingle.single_zero⟩

theorem isSingle_single {x : α} (finite : isFinite (single x) = true) : IsSingle (single x) :=
  ⟨finite, LawfulSingle.single_single x⟩

end Scalar

namespace Context

theorem isSingle_round (plug : String) (value : α) :
    Scalar.IsSingle (round plug value).value := by
  simp only [round]
  split
  · next finite => exact Scalar.isSingle_single (by rw [Scalar.isFinite, finite]; rfl)
  · exact Scalar.isSingle_zero

/-- However the computation of a plug ends, the value is in single precision. -/
theorem isSingle_settle (c : Context α) (plug : String) (outcome : Outcome α) :
    Scalar.IsSingle (c.settle plug outcome).value := by
  cases outcome with
  | fallback cause value => exact isSingle_round plug value
  | result result =>
    cases result with
    | value value => exact isSingle_round plug value
    | blend start target weight order axis =>
      simp only [settle, Settled.after]
      split
      · exact isSingle_round plug _
      · exact isSingle_round plug _

end Context

namespace Rounded

theorem step {walk : Walk α} (h : Rounded walk.cache) (c : Context α) (frame : α) :
    Rounded (walk.step c frame).cache := by
  cases top : walk.stack with
  | nil => rwa [Walk.step_nil c frame top]
  | cons plug below =>
    cases ending : (walk.attempt c frame plug).1 with
    | error missing =>
      rw [Walk.step_missing top ending, Walk.push_cache, Walk.attempted_cache]
      exact h
    | ok outcome =>
      rw [Walk.step_settled top ending, Walk.pop_cache, Walk.attempted_cache]
      exact h.insert plug (c.isSingle_settle plug outcome)

/-- A walk adds none but such values. -/
theorem run {walk : Walk α} (h : Rounded walk.cache) (c : Context α) (frame : α) (fuel : Nat) :
    Rounded (walk.run c frame fuel).cache := by
  induction fuel generalizing walk with
  | zero => exact h
  | succ fuel ih =>
    rw [Walk.run]
    split
    · exact h
    · exact ih (h.step c frame)

variable {e : Evaluator α}

theorem evaluate (h : Rounded e.cache) (text : String) (frame : α) :
    Rounded ((Query.evaluate text frame).run e).evaluator.cache ∧
      Scalar.IsSingle ((Query.evaluate text frame).run e).value := by
  have ready := h.atFrame frame
  rcases Query.evaluate_cases text frame e with ⟨-, same⟩ | ⟨-, ⟨_, known, same⟩ | ⟨-, same⟩⟩ <;>
    rw [same]
  · exact ⟨h, Scalar.isSingle_zero⟩
  · exact ⟨ready, ready _ _ known⟩
  · have walked : Rounded ((e.atFrame frame).walk (Plug.normalize text) frame).cache :=
      ready.run _ frame _
    refine ⟨walked, ?_⟩
    rw [Std.ExtTreeMap.getD_eq_getD_getElem?]
    generalize (e.atFrame frame).walk (Plug.normalize text) frame = walk at walked ⊢
    cases found : walk.cache[Plug.normalize text]? with
    | some value => exact walked _ _ found
    | none => exact Scalar.isSingle_zero

theorem resolve (h : Rounded e.cache) (name : String) (frame : α) :
    Scalar.IsSingle ((Query.resolve name frame).run e).value := by
  simp only [Query.run, Query.resolve]
  split
  · exact (h.evaluate _ frame).2
  · exact Scalar.isSingle_zero

theorem perform (h : Rounded e.cache) (operation : Operation α) :
    Rounded (operation.perform.run e).evaluator.cache :=
  (operation.upholds_perform (p := fun e => Rounded e.cache) .any
    (fun text frame _ h => ⟨(h.evaluate text frame).1, trivial⟩) (fun _ _ h => h)
    (fun _ _ => empty) (fun _ _ _ _ h => h) (fun _ _ h => h) e h).1

/-- Every value that an evaluator knows is in single precision. -/
theorem after (h : Rounded e.cache) (session : List (Operation α)) :
    Rounded (e.after session).cache :=
  Evaluator.after_induction (p := fun e => Rounded e.cache)
    (fun operation _ h => h.perform operation) h session

end Rounded

namespace Expr

/-- The value of an expression is in single precision. -/
theorem endsIn_evaluate (frame : α) (locals : Postfix.Variables α) (text : String) :
    (evaluate frame locals text).EndsIn Scalar.IsSingle := by
  unfold evaluate
  split
  · exact Scalar.isSingle_zero
  · refine (Dialogue.EndsIn.any _).bind fun value _ => ?_
    cases value with
    | none => exact Scalar.isSingle_zero
    | some value =>
      simp only [Dialogue.pure_eq, Dialogue.EndsIn]
      split
      · next finite => exact Scalar.isSingle_single finite
      · exact Scalar.isSingle_zero

theorem endsIn_slotFrom (frame : α) (locals : Postfix.Variables α) (assignments : List Assignment)
    (slot : Nat) : (Program.slotFrom frame locals assignments slot).EndsIn Scalar.IsSingle := by
  induction assignments generalizing locals slot with
  | nil => exact Scalar.isSingle_zero
  | cons a rest ih =>
    unfold Program.slotFrom
    split
    · exact (Dialogue.EndsIn.any _).bind fun _ _ => ih _ _
    · cases slot with
      | zero => exact endsIn_evaluate frame locals a.value
      | succ slot => exact ih _ _

theorem endsIn_output (program : Program) (frame : α) (slot : Int) :
    (program.output frame slot).EndsIn Scalar.IsSingle := by
  cases slot with
  | ofNat slot => exact endsIn_slotFrom frame [] program.assignments slot
  | negSucc => exact Scalar.isSingle_zero

theorem endsIn_valuesFrom (frame : α) (locals : Postfix.Variables α)
    (assignments : List Assignment) :
    (Program.valuesFrom frame locals assignments).EndsIn fun values =>
      ∀ entry ∈ values, Scalar.IsSingle entry.2 := by
  induction assignments generalizing locals with
  | nil => simp [Program.valuesFrom, Dialogue.EndsIn]
  | cons a rest ih =>
    refine (endsIn_evaluate frame locals a.value).bind fun value single => ?_
    refine (ih _).bind fun values singles => ?_
    exact List.forall_mem_cons.mpr ⟨single, singles⟩

end Expr

end PlugGraph
