import Mathlib.Data.List.Perm.Subperm
import Mathlib.Logic.Function.Iterate
import PlugGraph.Proofs.Vocabulary
import PlugGraph.Eval.Walk

/-!
# Every walk comes to an end

An attempt changes nothing but the reports, so a step of a walk either pushes the plug that the
attempt lacked or takes the topmost plug off the stack with its value. `Walk.Coherent` is what every
step keeps: the stack has no plug twice and agrees with the set of plugs under way, none of which
has a value yet, and whatever has been visited is either still on the stack or has its value.

A plug that is pushed has never been visited before. Since the plugs that readings ask for lie in a
finite list, `Walk.remaining` decreases with every step, and the stack runs empty.
-/

namespace PlugGraph

namespace Desk

variable {α ω : Type} [Scalar α]

/-- Carrying a reading on changes nothing that a report leaves alone. -/
theorem carry_unchanged {β : Type} {view : Notes α → β}
    (kept : ∀ notes reader plug, view (Notes.reportCycle notes reader plug) = view notes)
    (desk : Desk) (reading : Reading α ω) (notes : Notes α) :
    view (desk.carry reading notes).2 = view notes := by
  induction reading generalizing notes with
  | done => rfl
  | ask plug next ih =>
    cases known : notes.cache[plug]? with
    | some value => rw [carry_known known, ih]
    | none =>
      by_cases underway : plug ∈ desk.underway
      · rw [carry_underway known underway, ih, kept]
      · rw [carry_missing known underway]

/-- A reading that cannot be carried on lacks a plug that it may ask for, that has no value and that
is not under way. -/
theorem lacking_of_carry {desk : Desk} {reading : Reading α ω} {notes : Notes α} {plug : String}
    {p : String → Prop} (asks : reading.AsksOnly p)
    (ending : (desk.carry reading notes).1 = .error plug) :
    p plug ∧ notes.cache[plug]? = none ∧ plug ∉ desk.underway := by
  induction reading generalizing notes with
  | done => cases ending
  | ask asked next ih =>
    cases known : notes.cache[asked]? with
    | some value =>
      rw [carry_known known] at ending
      exact ih value (asks.2 value) ending
    | none =>
      by_cases underway : asked ∈ desk.underway
      · rw [carry_underway known underway] at ending
        simpa using ih 0 (asks.2 0) ending
      · rw [carry_missing known underway] at ending
        cases ending
        exact ⟨asks.1, known, underway⟩

end Desk

namespace Walk

variable {α : Type} {plugs : List String} {walk : Walk α}

/-- The stack has no plug twice and agrees with the set of plugs under way, none of which has a
value yet; no reading is being attempted. -/
structure Orderly (walk : Walk α) : Prop where
  nodup : walk.stack.Nodup
  mem_underway : ∀ plug, plug ∈ walk.underway ↔ plug ∈ walk.stack
  unknown : ∀ plug ∈ walk.stack, plug ∉ walk.cache
  idle : walk.current = none

/-- What every step of a walk keeps. The plugs that it may visit are among `plugs`. -/
structure Coherent (plugs : List String) (walk : Walk α) : Prop extends Orderly walk where
  stack_visited : walk.stack ⊆ walk.visited
  visited_nodup : walk.visited.Nodup
  visited_subset : walk.visited ⊆ plugs
  met : ∀ plug ∈ walk.visited, plug ∈ walk.stack ∨ plug ∈ walk.cache

namespace Coherent

theorem empty_underway (h : walk.Coherent plugs) (done : walk.stack = []) : walk.underway = ∅ := by
  refine Std.ExtTreeSet.ext_mem fun plug => ?_
  simp [h.mem_underway, done]

/-- A plug without a value that is not under way has not been visited. -/
theorem not_visited (h : walk.Coherent plugs) {plug : String} (unknown : plug ∉ walk.cache)
    (idle : plug ∉ walk.underway) : plug ∉ walk.visited := by
  intro visited
  rcases h.met _ visited with stacked | known
  · exact idle ((h.mem_underway _).mpr stacked)
  · exact unknown known

theorem push (h : walk.Coherent plugs) {plug : String} (unknown : plug ∉ walk.cache)
    (idle : plug ∉ walk.underway) (member : plug ∈ plugs) : (walk.push plug).Coherent plugs where
  nodup := List.nodup_cons.mpr ⟨fun stacked => idle ((h.mem_underway _).mpr stacked), h.nodup⟩
  mem_underway := by
    intro other
    simp [h.mem_underway, @eq_comm _ plug]
  unknown := by
    intro other stacked
    rcases List.mem_cons.mp stacked with rfl | below
    · exact unknown
    · exact h.unknown other below
  idle := h.idle
  stack_visited := List.cons_subset_cons _ h.stack_visited
  visited_nodup := List.nodup_cons.mpr ⟨h.not_visited unknown idle, h.visited_nodup⟩
  visited_subset := List.cons_subset.mpr ⟨member, h.visited_subset⟩
  met := by
    intro other visited
    rcases List.mem_cons.mp visited with rfl | before
    · exact .inl List.mem_cons_self
    · exact (h.met other before).imp_left (List.mem_cons_of_mem _)

theorem pop (h : walk.Coherent plugs) {plug : String} {below : List String}
    (top : walk.stack = plug :: below) (settled : Context.Settled α) :
    (walk.pop plug settled).Coherent plugs := by
  have stack : (walk.pop plug settled).stack = below := by simp [top]
  have fresh : plug ∉ below := by
    have := h.nodup
    rw [top] at this
    exact (List.nodup_cons.mp this).1
  have known {other : String} :
      other ∈ (walk.pop plug settled).cache ↔ other = plug ∨ other ∈ walk.cache := by
    simp [@eq_comm _ plug]
  refine ⟨⟨?_, ?_, ?_, h.idle⟩, ?_, h.visited_nodup, h.visited_subset, ?_⟩
  · have := h.nodup
    rw [top] at this
    rw [stack]
    exact (List.nodup_cons.mp this).2
  · intro other
    rw [stack]
    simp only [pop_underway, Std.ExtTreeSet.mem_erase, h.mem_underway, top, List.mem_cons]
    grind
  · intro other stacked hk
    rw [stack] at stacked
    rcases known.mp hk with rfl | hk
    · exact fresh stacked
    · exact h.unknown other (top ▸ List.mem_cons_of_mem _ stacked) hk
  · rw [stack]
    exact fun other stacked => h.stack_visited (top ▸ List.mem_cons_of_mem _ stacked)
  · intro other visited
    rw [stack, known]
    rcases h.met _ visited with stacked | hk
    · rw [top] at stacked
      rcases List.mem_cons.mp stacked with rfl | stacked
      · exact .inr (.inl rfl)
      · exact .inl stacked
    · exact .inr (.inr hk)

end Coherent

variable [Scalar α] {c : Context α} {frame : α}

def attempted (c : Context α) (frame : α) (plug : String) (walk : Walk α) : Walk α :=
  (walk.attempt c frame plug).2

@[simp] theorem attempted_stack (plug : String) :
    (walk.attempted c frame plug).stack = walk.stack := rfl

@[simp] theorem attempted_underway (plug : String) :
    (walk.attempted c frame plug).underway = walk.underway := rfl

@[simp] theorem attempted_current (plug : String) :
    (walk.attempted c frame plug).current = none := rfl

@[simp] theorem attempted_cache (plug : String) :
    (walk.attempted c frame plug).cache = walk.cache :=
  Desk.carry_unchanged Notes.reportCycle_cache _ _ _

@[simp] theorem attempted_visited (plug : String) :
    (walk.attempted c frame plug).visited = walk.visited :=
  Desk.carry_unchanged Notes.reportCycle_visited _ _ _

theorem step_nil (c : Context α) (frame : α) (empty : walk.stack = []) :
    walk.step c frame = walk := by
  simp only [step, empty]

theorem step_missing {plug missing : String} {below : List String}
    (top : walk.stack = plug :: below)
    (ending : (walk.attempt c frame plug).1 = .error missing) :
    walk.step c frame = (walk.attempted c frame plug).push missing := by
  simp only [step, top, attempted]
  generalize walk.attempt c frame plug = tried at ending
  obtain ⟨_, after⟩ := tried
  cases ending
  rfl

theorem step_settled {plug : String} {below : List String} {outcome : Outcome α}
    (top : walk.stack = plug :: below)
    (ending : (walk.attempt c frame plug).1 = .ok outcome) :
    walk.step c frame = (walk.attempted c frame plug).pop plug (c.settle plug outcome) := by
  simp only [step, top, attempted]
  generalize walk.attempt c frame plug = tried at ending
  obtain ⟨_, after⟩ := tried
  cases ending
  rfl

/-- How many steps are left at most. -/
def remaining (plugs : List String) (walk : Walk α) : Nat :=
  2 * (plugs.length - walk.visited.length) + walk.stack.length

namespace Coherent

theorem attempted (h : walk.Coherent plugs) (plug : String) :
    (walk.attempted c frame plug).Coherent plugs := by
  refine ⟨⟨?_, ?_, ?_, rfl⟩, ?_, ?_, ?_, ?_⟩
  · exact h.nodup
  · exact h.mem_underway
  · simpa using h.unknown
  · simpa using h.stack_visited
  · simpa using h.visited_nodup
  · simpa using h.visited_subset
  · simpa using h.met

/-- Either the topmost plug lacks one that has not been visited yet, which is pushed, or it gets its
value and leaves the stack. -/
theorem step_cases (h : walk.Coherent plugs)
    (asks : ∀ text, (c.reading frame text).AsksOnly (· ∈ plugs)) {plug : String}
    {below : List String} (top : walk.stack = plug :: below) :
    (∃ missing ∈ plugs, missing ∉ walk.visited ∧ missing ∉ walk.cache ∧
      missing ∉ walk.underway ∧ (walk.attempt c frame plug).1 = .error missing ∧
      walk.step c frame = (walk.attempted c frame plug).push missing) ∨
    ∃ outcome, (walk.attempt c frame plug).1 = .ok outcome ∧
      walk.step c frame = (walk.attempted c frame plug).pop plug (c.settle plug outcome) := by
  cases ending : (walk.attempt c frame plug).1 with
  | error missing =>
    obtain ⟨member, unknown, idle⟩ := Desk.lacking_of_carry (asks plug) ending
    have unknown : missing ∉ walk.cache := by simpa using unknown
    exact .inl ⟨missing, member, h.not_visited unknown idle, unknown, idle, rfl,
      step_missing top ending⟩
  | ok outcome => exact .inr ⟨outcome, rfl, step_settled top ending⟩

theorem step (h : walk.Coherent plugs)
    (asks : ∀ text, (c.reading frame text).AsksOnly (· ∈ plugs)) :
    (walk.step c frame).Coherent plugs := by
  cases top : walk.stack with
  | nil => rwa [step_nil c frame top]
  | cons plug below =>
    rcases h.step_cases asks top with ⟨missing, member, -, unknown, idle, -, next⟩ | ⟨_, -, next⟩
    · rw [next]
      exact (h.attempted plug).push (by simpa using unknown) idle member
    · rw [next]
      exact (h.attempted plug).pop top _

theorem iterate (h : walk.Coherent plugs)
    (asks : ∀ text, (c.reading frame text).AsksOnly (· ∈ plugs)) (k : Nat) :
    ((Walk.step c frame)^[k] walk).Coherent plugs := by
  induction k with
  | zero => exact h
  | succ k ih =>
    rw [Function.iterate_succ_apply']
    exact ih.step asks

theorem visited_subset_step (h : walk.Coherent plugs)
    (asks : ∀ text, (c.reading frame text).AsksOnly (· ∈ plugs)) :
    walk.visited ⊆ (walk.step c frame).visited := by
  cases top : walk.stack with
  | nil =>
    rw [step_nil c frame top]
    exact List.Subset.refl _
  | cons plug below =>
    rcases h.step_cases asks top with ⟨_, -, -, -, -, -, next⟩ | ⟨_, -, next⟩
    · simp [next]
    · simp [next]

/-- What has been visited stays so. -/
theorem visited_subset_iterate (h : walk.Coherent plugs)
    (asks : ∀ text, (c.reading frame text).AsksOnly (· ∈ plugs)) {j k : Nat} (le : j ≤ k) :
    ((Walk.step c frame)^[j] walk).visited ⊆ ((Walk.step c frame)^[k] walk).visited := by
  induction le with
  | refl => exact List.Subset.refl _
  | @step k _ ih =>
    rw [Function.iterate_succ_apply']
    exact List.Subset.trans ih ((h.iterate asks k).visited_subset_step asks)

theorem remaining_step_lt (h : walk.Coherent plugs)
    (asks : ∀ text, (c.reading frame text).AsksOnly (· ∈ plugs)) (busy : walk.stack ≠ []) :
    (walk.step c frame).remaining plugs < walk.remaining plugs := by
  obtain ⟨plug, below, top⟩ := List.exists_cons_of_ne_nil busy
  rcases h.step_cases asks top with ⟨missing, member, fresh, -, -, -, next⟩ | ⟨_, -, next⟩
  · have room : (missing :: walk.visited).length ≤ plugs.length :=
      ((List.nodup_cons.mpr ⟨fresh, h.visited_nodup⟩).subperm
        (List.cons_subset.mpr ⟨member, h.visited_subset⟩)).length_le
    simp only [List.length_cons] at room
    simp only [next, remaining, push_visited, push_stack, attempted_visited, attempted_stack,
      List.length_cons]
    omega
  · simp only [next, remaining, pop_visited, pop_stack, attempted_visited, attempted_stack, top,
      List.tail_cons, List.length_cons]
    omega

/-- A walk is done after at most as many steps as are left. -/
theorem exists_done (h : walk.Coherent plugs)
    (asks : ∀ text, (c.reading frame text).AsksOnly (· ∈ plugs)) :
    ∃ n ≤ walk.remaining plugs, ((Walk.step c frame)^[n] walk).stack = [] ∧
      ∀ k < n, ((Walk.step c frame)^[k] walk).stack ≠ [] := by
  induction bound : walk.remaining plugs using Nat.strongRecOn generalizing walk with
  | _ bound' ih =>
    subst bound
    by_cases done : walk.stack = []
    · exact ⟨0, Nat.zero_le _, done, fun k hk => absurd hk (Nat.not_lt_zero k)⟩
    · have less := h.remaining_step_lt asks done
      obtain ⟨n, hn, empty, busy⟩ := ih _ less (h.step asks) rfl
      refine ⟨n + 1, by omega, empty, fun k hk => ?_⟩
      cases k with
      | zero => exact done
      | succ k => exact busy k (by omega)

end Coherent

/-- Running is stepping: a walk that is done stays as it is. -/
theorem run_eq_iterate (fuel : Nat) (walk : Walk α) :
    Walk.run c frame fuel walk = (Walk.step c frame)^[fuel] walk := by
  induction fuel generalizing walk with
  | zero => rfl
  | succ fuel ih =>
    rw [Function.iterate_succ_apply, run]
    split
    · next empty =>
      have done := step_nil c frame (List.isEmpty_iff.mp empty)
      rw [done, Function.iterate_fixed done]
    · exact ih _

/-- Steps beyond the end of a walk change nothing. -/
theorem iterate_eq_of_done {n k : Nat} (done : ((Walk.step c frame)^[n] walk).stack = [])
    (le : n ≤ k) : (Walk.step c frame)^[k] walk = (Walk.step c frame)^[n] walk := by
  obtain ⟨extra, rfl⟩ := Nat.exists_eq_add_of_le le
  rw [Nat.add_comm, Function.iterate_add_apply, Function.iterate_fixed (step_nil c frame done)]

/-- A walk has one end. -/
theorem iterate_unique {n k : Nat} (done : ((Walk.step c frame)^[n] walk).stack = [])
    (done' : ((Walk.step c frame)^[k] walk).stack = []) :
    (Walk.step c frame)^[n] walk = (Walk.step c frame)^[k] walk := by
  rcases Nat.le_total n k with le | le
  · exact (iterate_eq_of_done done le).symm
  · exact iterate_eq_of_done done' le

end Walk

end PlugGraph
