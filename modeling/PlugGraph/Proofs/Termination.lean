import PlugGraph.Number.Double
import PlugGraph.Proofs.Session

/-!
# Every query ends

The loop of a query is told step by step. In whatever state earlier operations have left the
evaluator, the walk to a plug that has no value yet is orderly throughout, and each of its steps
either pushes a plug that has never been on the stack or gives the topmost plug its value. After a
bounded number of steps the stack is empty and the plug asked for has its value.
-/

namespace PlugGraph.Evaluator

variable {α : Type} [Scalar α]

/-- The walk to a plug after `k` steps. -/
def walkAfter (e : Evaluator α) (frame : α) (root : String) (k : Nat) : Walk α :=
  (Walk.step e.context frame)^[k] (e.setOut root)

/-- The step after `k` others finds that the topmost plug lacks another one. That one has never been
on the stack before, and goes on top of it. -/
def Pushes (e : Evaluator α) (frame : α) (root : String) (k : Nat) : Prop :=
  ∃ plug below missing,
    (e.walkAfter frame root k).stack = plug :: below ∧
    ((e.walkAfter frame root k).attempt e.context frame plug).1 = .error missing ∧
    (∀ j ≤ k, missing ∉ (e.walkAfter frame root j).stack) ∧
    (e.walkAfter frame root (k + 1)).stack = missing :: plug :: below ∧
    (e.walkAfter frame root (k + 1)).cache = (e.walkAfter frame root k).cache

/-- The step after `k` others gives the topmost plug its value and takes it off the stack. -/
def Settles (e : Evaluator α) (frame : α) (root : String) (k : Nat) : Prop :=
  ∃ plug below outcome,
    (e.walkAfter frame root k).stack = plug :: below ∧
    ((e.walkAfter frame root k).attempt e.context frame plug).1 = .ok outcome ∧
    (e.walkAfter frame root (k + 1)).stack = below ∧
    (e.walkAfter frame root (k + 1)).cache =
      (e.walkAfter frame root k).cache.insert plug (e.context.settle plug outcome).value

/-- The walk to a plug is done after `n` steps. -/
structure Ends (e : Evaluator α) (frame : α) (root : String) (n : Nat) : Prop where
  orderly : ∀ k ≤ n, (e.walkAfter frame root k).Orderly
  step : ∀ k < n, e.Pushes frame root k ∨ e.Settles frame root k
  stack : (e.walkAfter frame root n).stack = []
  underway : (e.walkAfter frame root n).underway = ∅
  current : (e.walkAfter frame root n).current = none
  known : root ∈ (e.walkAfter frame root n).cache

namespace Sound

variable {e : Evaluator α} {root : String}

theorem coherent_walkAfter (h : e.Sound) (frame : α) (unknown : root ∉ e.cache) (k : Nat) :
    (e.walkAfter frame root k).Coherent (root :: e.vocabulary) :=
  (h.setOut unknown).iterate (h.asksOnly root frame) k

/-- A plug that has not been visited has never been on the stack. -/
theorem not_stacked_before (h : e.Sound) (frame : α) (unknown : root ∉ e.cache) {k : Nat}
    {plug : String} (fresh : plug ∉ (e.walkAfter frame root k).visited) :
    ∀ j ≤ k, plug ∉ (e.walkAfter frame root j).stack := by
  intro j le stacked
  have visited := (h.coherent_walkAfter frame unknown j).stack_visited stacked
  exact fresh ((h.setOut unknown).visited_subset_iterate (h.asksOnly root frame) le visited)

theorem pushes_or_settles (h : e.Sound) (frame : α) (unknown : root ∉ e.cache) {k : Nat}
    (busy : (e.walkAfter frame root k).stack ≠ []) :
    e.Pushes frame root k ∨ e.Settles frame root k := by
  have coherent := h.coherent_walkAfter frame unknown k
  have next : e.walkAfter frame root (k + 1) = (e.walkAfter frame root k).step e.context frame :=
    Function.iterate_succ_apply' _ _ _
  obtain ⟨plug, below, top⟩ := List.exists_cons_of_ne_nil busy
  rcases coherent.step_cases (h.asksOnly root frame) top with
    ⟨missing, -, fresh, -, -, ending, pushed⟩ | ⟨outcome, ending, popped⟩
  · refine .inl ⟨plug, below, missing, top, ending, h.not_stacked_before frame unknown fresh, ?_⟩
    rw [next, pushed]
    simp [top]
  · refine .inr ⟨plug, below, outcome, top, ending, ?_⟩
    rw [next, popped]
    simp [top]

theorem mem_visited_walkAfter (h : e.Sound) (frame : α) (unknown : root ∉ e.cache) (k : Nat) :
    root ∈ (e.walkAfter frame root k).visited :=
  (h.setOut unknown).visited_subset_iterate (h.asksOnly root frame) (Nat.zero_le k)
    List.mem_cons_self

/-- The walk to a plug without a value ends within the fuel that it is given. -/
theorem exists_ends (h : e.Sound) (frame : α) (unknown : root ∉ e.cache) :
    ∃ n ≤ e.stepLimit, e.Ends frame root n ∧ e.walk root frame = e.walkAfter frame root n := by
  obtain ⟨n, bound, done, busy⟩ := (h.setOut unknown).exists_done (h.asksOnly root frame)
  have coherent := h.coherent_walkAfter frame unknown
  have done : (e.walkAfter frame root n).stack = [] := done
  have enough := Nat.le_trans bound (e.remaining_setOut root)
  refine ⟨n, enough, ?_, ?_⟩
  · exact {
      orderly := fun k _ => (coherent k).toOrderly
      step := fun k hk => h.pushes_or_settles frame unknown (busy k hk)
      stack := done
      underway := (coherent n).empty_underway done
      current := (coherent n).idle
      known := by
        rcases (coherent n).met root (h.mem_visited_walkAfter frame unknown n) with stacked | known
        · rw [done] at stacked
          cases stacked
        · exact known }
  · rw [Evaluator.walk, Walk.run_eq_iterate, Walk.iterate_eq_of_done done enough]
    rfl

end Sound

/-- In every state that a session can leave an evaluator in, the walk to a plug that is not known at
the frame ends, and the query answers with the value that the plug has then. -/
theorem exists_ends_evaluate (nodes : List Node) (connections : List Connection)
    (curves : List (String × CurveShape α)) (rotation : RotationBlend α)
    (session : List (Operation α)) (text : String) (frame : α) :
    let before := (ofGraph (.ofRecords nodes connections) curves rotation).after session
    let e := before.atFrame frame
    let root := Plug.normalize text
    root ∉ e.cache →
    ∃ n ≤ e.stepLimit, e.Ends frame root n ∧
      (Text.isBlankText text = false → ∃ value,
        (e.walkAfter frame root n).cache[root]? = some value ∧
        (Query.evaluate text frame).run before =
          ⟨value, (e.walkAfter frame root n).events.toList,
            e.adopt (e.walkAfter frame root n)⟩) := by
  intro before e root unknown
  have sound : e.Sound :=
    ((sound_ofGraph nodes connections curves rotation).after session).atFrame frame
  obtain ⟨n, bound, ends, walked⟩ := sound.exists_ends frame unknown
  refine ⟨n, bound, ends, fun notBlank => ?_⟩
  have absent : e.cache[root]? = none := by simpa using unknown
  have known := ends.known
  rw [Std.ExtTreeMap.mem_iff_isSome_getElem?] at known
  obtain ⟨value, found⟩ := Option.isSome_iff_exists.mp known
  refine ⟨value, found, ?_⟩
  have value' : (e.walk root frame).cache.getD root 0 = value := by
    rw [walked, Std.ExtTreeMap.getD_eq_getD_getElem?, found]
    rfl
  simp only [Query.run, Query.evaluate, notBlank, Bool.false_eq_true, if_false]
  split
  · next other known =>
    rw [absent] at known
    cases known
  · rw [← walked, ← value']

/-- A node that drives its own input, queried after a reset. -/
theorem exists_ends_evaluate_self_driven :
    let nodes : List Node := [⟨"sum", "addDoubleLinear", []⟩]
    let connections : List Connection := [⟨"sum.output", "sum.input1", false⟩]
    let before := (ofGraph (.ofRecords nodes connections) [] slerpEuler).after [.reset]
    let e : Evaluator Float := before.atFrame 1
    let root := Plug.normalize "sum.output"
    root ∉ e.cache ∧
    ∃ n ≤ e.stepLimit, e.Ends 1 root n ∧
      (Text.isBlankText "sum.output" = false → ∃ value,
        (e.walkAfter 1 root n).cache[root]? = some value ∧
        (Query.evaluate "sum.output" 1).run before =
          ⟨value, (e.walkAfter 1 root n).events.toList, e.adopt (e.walkAfter 1 root n)⟩) := by
  intro nodes connections before e root
  have unknown : root ∉ e.cache := by
    change root ∉ (∅ : Std.ExtTreeMap String Float)
    simp
  exact ⟨unknown, exists_ends_evaluate nodes connections [] slerpEuler [.reset] "sum.output" 1
    unknown⟩

end PlugGraph.Evaluator
