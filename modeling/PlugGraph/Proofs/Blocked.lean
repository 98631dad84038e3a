import Mathlib.Algebra.GroupWithZero.Nat
import Mathlib.Algebra.Order.BigOperators.Group.Finset
import Mathlib.Data.List.Perm.Subperm
import Mathlib.Logic.Function.Iterate
import Mathlib.Logic.Relation
import Mathlib.Order.Preorder.Finite
import PlugGraph.Scene.Blocked

/-!
# What is never released

Releasing keeps a tally: what is pending at a vertex is the number of edges into it that come from
vertices not yet released. `Blocked.Tallied` is that invariant, in the middle of a release too, when
some of the edges out of the released vertex are still to be taken away. A vertex is released once
nothing is pending there, so a vertex stays back for good if each vertex of some set, which it
belongs to, has a predecessor in that set. The vertices on cycles and downstream of them are such a
set: `Blocked.mem_vertices`.

Nor does anything else stay back. What has nothing pending is ready or released, and the fuel lasts
until nothing is ready, so each vertex that stays back has a predecessor that stays back as well.
There are finitely many of them, so going back from one of them comes to a cycle:
`Blocked.mem_vertices_iff`.
-/

namespace PlugGraph.Blocked

open Relation

variable {κ : Type} [Ord κ] [Std.TransOrd κ] [Std.LawfulEqOrd κ] [DecidableEq κ]

/-! ### Counting edges -/

theorem getD_foldl_countEdge (targets : List κ) (degrees : Indegrees κ) (v : κ) :
    (targets.foldl countEdge degrees).getD v 0 = degrees.getD v 0 + targets.count v := by
  induction targets generalizing degrees with
  | nil => rfl
  | cons target rest ih =>
    rw [List.foldl_cons, ih, countEdge, Std.ExtTreeMap.getD_insert, List.count_cons]
    by_cases same : target = v
    · simp [same]
      omega
    · simp [same]

theorem getD_countVertex (degrees : Indegrees κ) (entry : κ × List κ) (v : κ) :
    (countVertex degrees entry).getD v 0 = degrees.getD v 0 + entry.2.count v := by
  rw [countVertex, getD_foldl_countEdge, Std.ExtTreeMap.getD_insert]
  by_cases same : entry.1 = v <;> simp [same]

omit [DecidableEq κ] in
theorem mem_foldl_countEdge {targets : List κ} {degrees : Indegrees κ} {v : κ} :
    v ∈ targets.foldl countEdge degrees ↔ v ∈ degrees ∨ v ∈ targets := by
  induction targets generalizing degrees with
  | nil => simp
  | cons target rest ih =>
    rw [List.foldl_cons, ih, countEdge, Std.ExtTreeMap.mem_insert, Std.compare_eq_iff_eq,
      List.mem_cons, or_left_comm, @eq_comm _ target, or_assoc, or_left_comm]

omit [DecidableEq κ] in
theorem mem_foldl_countVertex {entries : List (κ × List κ)} {degrees : Indegrees κ} {v : κ} :
    v ∈ entries.foldl countVertex degrees ↔
      v ∈ degrees ∨ ∃ entry ∈ entries, v = entry.1 ∨ v ∈ entry.2 := by
  induction entries generalizing degrees with
  | nil => simp
  | cons entry rest ih =>
    have counted : v ∈ countVertex degrees entry ↔ v ∈ degrees ∨ v = entry.1 ∨ v ∈ entry.2 := by
      rw [countVertex, mem_foldl_countEdge, Std.ExtTreeMap.mem_insert, Std.compare_eq_iff_eq,
        @eq_comm _ entry.1, or_assoc, or_left_comm]
    rw [List.foldl_cons, ih, counted, or_assoc]
    simp only [List.mem_cons, exists_eq_or_imp]

theorem getD_foldl_countVertex (entries : List (κ × List κ)) (degrees : Indegrees κ) (v : κ) :
    (entries.foldl countVertex degrees).getD v 0 =
      degrees.getD v 0 + (entries.map (·.2.count v)).sum := by
  induction entries generalizing degrees with
  | nil => rfl
  | cons entry rest ih =>
    rw [List.foldl_cons, ih, getD_countVertex, List.map_cons, List.sum_cons, Nat.add_assoc]

variable (successors : Successors κ)

def Edge (u v : κ) : Prop := v ∈ successors.getD u []

/-- The number of edges into a vertex that come from vertices not yet released. -/
def edgesInto (released : Std.ExtTreeSet κ compare) (v : κ) : Nat :=
  ∑ u ∈ successors.keys.toFinset with u ∉ released, (successors.getD u []).count v

theorem getD_indegrees (v : κ) :
    (indegrees successors).getD v 0 = edgesInto successors ∅ v := by
  have counts : (successors.toList.map (·.2.count v)).sum =
      (successors.keys.map fun u => (successors.getD u []).count v).sum := by
    rw [← Std.ExtTreeMap.map_fst_toList_eq_keys, List.map_map]
    refine congrArg List.sum (List.map_congr_left fun entry member => ?_)
    have found := Std.ExtTreeMap.mem_toList_iff_getElem?_eq_some.mp member
    simp [Std.ExtTreeMap.getD_eq_getD_getElem?, found]
  rw [indegrees, getD_foldl_countVertex, Std.ExtTreeMap.getD_empty, Nat.zero_add, counts, edgesInto,
    Finset.filter_true_of_mem (by simp), List.sum_toFinset _ successors.nodup_keys]

variable {successors}

omit [DecidableEq κ] in
/-- The vertices counted are the keys of the graph and those that an edge leads to. -/
theorem mem_indegrees {v : κ} :
    v ∈ indegrees successors ↔ v ∈ successors ∨ ∃ u, Edge successors u v := by
  rw [indegrees, mem_foldl_countVertex]
  simp only [Std.ExtTreeMap.not_mem_empty, false_or, Prod.exists,
    Std.ExtTreeMap.mem_toList_iff_getElem?_eq_some, Edge]
  constructor
  · rintro ⟨u, targets, found, rfl | listed⟩
    · exact .inl (Std.ExtTreeMap.mem_iff_isSome_getElem?.mpr (by rw [found]; rfl))
    · exact .inr ⟨u, by rwa [Std.ExtTreeMap.getD_eq_getD_getElem?, found]⟩
  · rintro (key | ⟨u, edge⟩)
    · exact ⟨v, _, Std.ExtTreeMap.getElem?_eq_some_getElem key, .inl rfl⟩
    · rw [Std.ExtTreeMap.getD_eq_getD_getElem?] at edge
      cases found : successors[u]? with
      | none =>
        rw [found] at edge
        cases edge
      | some targets =>
        rw [found] at edge
        exact ⟨u, targets, found, .inr edge⟩

theorem edgesInto_pos {released : Std.ExtTreeSet κ compare} {u v : κ} (edge : Edge successors u v)
    (waits : u ∉ released) : 0 < edgesInto successors released v := by
  have key : u ∈ successors.keys := by
    by_contra absent
    rw [Std.ExtTreeMap.mem_keys] at absent
    rw [Edge, Std.ExtTreeMap.getD_eq_fallback absent] at edge
    cases edge
  refine Finset.sum_pos' (fun _ _ => Nat.zero_le _) ⟨u, ?_, List.count_pos_iff.mpr edge⟩
  simp [key, waits]

/-- Releasing a vertex takes the edges out of it away. -/
theorem edgesInto_insert {released : Std.ExtTreeSet κ compare} {u : κ} (waits : u ∉ released)
    (v : κ) : edgesInto successors released v =
      edgesInto successors (released.insert u) v + (successors.getD u []).count v := by
  have others : (successors.keys.toFinset.filter fun w => w ∉ released.insert u) =
      (successors.keys.toFinset.filter fun w => w ∉ released).erase u := by
    ext w
    simp [eq_comm]
    grind
  rw [edgesInto, edgesInto, others]
  by_cases key : u ∈ successors
  · rw [Finset.sum_erase_add]
    simp [key, waits]
  · rw [Finset.erase_eq_of_notMem (by simp [key]), Std.ExtTreeMap.getD_eq_fallback key]
    rfl

/-! ### The tally -/

/-- The tally of a release of which the edges to `targets` are still to be taken away. -/
structure Tallied (successors : Successors κ) (targets : List κ) (p : Progress κ) : Prop where
  pending : ∀ v, p.pending.getD v 0 = edgesInto successors p.released v + targets.count v
  ready : ∀ v ∈ p.ready, p.pending.getD v 0 = 0
  released : ∀ v ∈ p.released, p.pending.getD v 0 = 0
  waits : ∀ v ∈ p.ready, v ∉ p.released
  nodup : p.ready.Nodup

section RemoveEdge

variable {p : Progress κ} {target v : κ}

omit [Std.LawfulEqOrd κ] [DecidableEq κ] in
theorem getD_removeEdge_self (p : Progress κ) (target : κ) :
    (removeEdge p target).pending.getD target 0 = p.pending.getD target 0 - 1 := by
  simp [removeEdge]

omit [DecidableEq κ] in
theorem getD_removeEdge_of_ne (p : Progress κ) (differs : target ≠ v) :
    (removeEdge p target).pending.getD v 0 = p.pending.getD v 0 := by
  simp [removeEdge, Std.ExtTreeMap.getD_insert, differs]

omit [Std.LawfulEqOrd κ] [DecidableEq κ] in
/-- A vertex gets ready when the last edge into it is taken away. -/
theorem mem_ready_removeEdge : v ∈ (removeEdge p target).ready ↔
    v ∈ p.ready ∨ v = target ∧ p.pending.getD target 0 - 1 = 0 := by
  simp only [removeEdge, beq_iff_eq]
  split
  · next last => simp [last, or_comm]
  · next due => simp [due]

end RemoveEdge

namespace Tallied

variable {targets rest : List κ} {target vertex : κ} {p : Progress κ}

theorem removeEdge (h : Tallied successors (target :: targets) p) :
    Tallied successors targets (removeEdge p target) := by
  have due := h.pending target
  rw [List.count_cons_self] at due
  -- What has nothing pending is another vertex, and stays as it is.
  have other {v : κ} (settled : p.pending.getD v 0 = 0) : target ≠ v := by
    rintro rfl
    omega
  have kept {v : κ} (differs : target ≠ v) :
      (Blocked.removeEdge p target).pending.getD v 0 = p.pending.getD v 0 :=
    getD_removeEdge_of_ne p differs
  have left := getD_removeEdge_self p target
  refine ⟨fun v => ?_, fun v member => ?_, fun v member => ?_, fun v member => ?_, ?_⟩
  · by_cases same : target = v
    · subst same
      rw [left, due]
      rfl
    · rw [kept same, h.pending v, List.count_cons_of_ne same]
      rfl
  · rcases mem_ready_removeEdge.mp member with member | ⟨rfl, last⟩
    · rw [kept (other (h.ready v member)), h.ready v member]
    · rw [left, last]
  · rw [kept (other (h.released v member)), h.released v member]
  · rcases mem_ready_removeEdge.mp member with member | ⟨rfl, -⟩
    · exact h.waits v member
    · exact fun released => other (h.released v released) rfl
  · have new : target ∉ p.ready := fun member => other (h.ready target member) rfl
    unfold Blocked.removeEdge
    dsimp only
    split
    · exact List.nodup_cons.mpr ⟨new, h.nodup⟩
    · exact h.nodup

theorem foldl_removeEdge (h : Tallied successors targets p) :
    Tallied successors [] (targets.foldl Blocked.removeEdge p) := by
  induction targets generalizing p with
  | nil => exact h
  | cons target rest ih => exact ih h.removeEdge

/-- A ready vertex is released, and the edges out of it are to be taken away. -/
theorem release_one (h : Tallied successors [] p) (next : p.ready = vertex :: rest) :
    Tallied successors (successors.getD vertex [])
      { p with ready := rest, released := p.released.insert vertex } := by
  have member : vertex ∈ p.ready := next ▸ List.mem_cons_self
  have later {v : κ} (waiting : v ∈ rest) : v ∈ p.ready := next ▸ List.mem_cons_of_mem _ waiting
  obtain ⟨new, nodup⟩ := List.nodup_cons.mp (next ▸ h.nodup)
  have released {v : κ} (done : v ∈ p.released.insert vertex) : v = vertex ∨ v ∈ p.released :=
    (Std.ExtTreeSet.mem_insert.mp done).imp_left fun same => (Std.compare_eq_iff_eq.mp same).symm
  refine ⟨fun v => ?_, fun v waiting => h.ready v (later waiting), fun v done => ?_,
    fun v waiting done => ?_, nodup⟩
  · rw [h.pending v, edgesInto_insert (h.waits vertex member)]
    rfl
  · rcases released done with rfl | done
    · exact h.ready v member
    · exact h.released v done
  · rcases released done with rfl | done
    · exact new waiting
    · exact h.waits v (later waiting) done

end Tallied

omit [Std.LawfulEqOrd κ] [DecidableEq κ] in
theorem released_foldl_removeEdge (targets : List κ) (p : Progress κ) :
    (targets.foldl removeEdge p).released = p.released := by
  induction targets generalizing p with
  | nil => rfl
  | cons target rest ih => exact ih (removeEdge p target)

omit [Std.LawfulEqOrd κ] [DecidableEq κ] in
/-- What one release keeps, all releases keep. -/
theorem release_induction (successors : Successors κ) {motive : Progress κ → Prop}
    (step : ∀ p vertex rest, p.ready = vertex :: rest → motive p →
      motive ((successors.getD vertex []).foldl removeEdge
        { p with ready := rest, released := p.released.insert vertex }))
    (fuel : Nat) {p : Progress κ} (start : motive p) : motive (release successors fuel p) := by
  induction fuel generalizing p with
  | zero => exact start
  | succ fuel ih =>
    unfold release
    split
    · exact start
    · next vertex rest next => exact ih (step p vertex rest next start)

theorem tallied_start (successors : Successors κ) :
    Tallied successors [] ⟨indegrees successors,
      ((indegrees successors).toList.filter (·.2 == 0)).map (·.1), ∅⟩ := by
  refine ⟨getD_indegrees successors, fun v member => ?_, fun v member => ?_, fun v _ => ?_, ?_⟩
  · obtain ⟨⟨w, degree⟩, listed, rfl⟩ := List.mem_map.mp member
    obtain ⟨listed, none⟩ := List.mem_filter.mp listed
    rw [Std.ExtTreeMap.getD_eq_getD_getElem?,
      Std.ExtTreeMap.mem_toList_iff_getElem?_eq_some.mp listed]
    exact beq_iff_eq.mp none
  · exact absurd member Std.ExtTreeSet.not_mem_empty
  · exact Std.ExtTreeSet.not_mem_empty
  · refine List.Nodup.sublist (List.filter_sublist.map _) ?_
    rw [Std.ExtTreeMap.map_fst_toList_eq_keys]
    exact Std.ExtTreeMap.nodup_keys

/-- A vertex is not released if it belongs to a set in which each has a predecessor. -/
theorem not_mem_released {back : κ → Prop}
    (fed : ∀ v, back v → ∃ u, back u ∧ Edge successors u v) {v : κ} (stays : back v) :
    v ∉ released successors := by
  have kept := release_induction successors
    (motive := fun p => Tallied successors [] p ∧ ∀ v, back v → v ∉ p.released)
    (fun p vertex rest next ⟨tallied, waits⟩ => ?_) (indegrees successors).size
    ⟨tallied_start successors, fun v _ => Std.ExtTreeSet.not_mem_empty⟩
  · exact kept.2 v stays
  · refine ⟨(tallied.release_one next).foldl_removeEdge, fun v stays done => ?_⟩
    rw [released_foldl_removeEdge, Std.ExtTreeSet.mem_insert, Std.compare_eq_iff_eq] at done
    rcases done with rfl | done
    · -- Nothing is pending at the released vertex, but its predecessor still waits.
      have settled := tallied.ready vertex (next ▸ List.mem_cons_self)
      obtain ⟨u, before, edge⟩ := fed vertex stays
      have due := edgesInto_pos edge (waits u before)
      rw [tallied.pending vertex] at settled
      omega
    · exact waits v stays done

/-- The vertices on a cycle and those downstream of it are found. -/
theorem mem_vertices {u v : κ} (cycle : TransGen (Edge successors) u u)
    (path : ReflTransGen (Edge successors) u v) : v ∈ vertices successors := by
  have fed : ∀ v, ReflTransGen (Edge successors) u v →
      ∃ w, ReflTransGen (Edge successors) u w ∧ Edge successors w v := by
    intro v path
    rcases path.cases_tail with rfl | ⟨w, path, edge⟩
    · obtain ⟨w, path, edge⟩ := TransGen.tail'_iff.mp cycle
      exact ⟨w, path, edge⟩
    · exact ⟨w, path, edge⟩
  obtain ⟨w, -, edge⟩ := fed v path
  have counted : v ∈ (indegrees successors).keys :=
    Std.ExtTreeMap.mem_keys.mpr (mem_indegrees.mpr (.inr ⟨w, edge⟩))
  have stays : v ∉ released successors := not_mem_released fed path
  exact List.mem_filter.mpr ⟨counted, by simpa [← Std.ExtTreeSet.contains_iff_mem] using stays⟩

/-! ### What stays back -/

/-- Releasing deals with counted vertices only, and of these it loses none that has nothing
pending. -/
structure Accounted (successors : Successors κ) (p : Progress κ) : Prop where
  settled : ∀ v ∈ indegrees successors, p.pending.getD v 0 = 0 → v ∈ p.ready ∨ v ∈ p.released
  ready : ∀ v ∈ p.ready, v ∈ indegrees successors
  released : ∀ v ∈ p.released, v ∈ indegrees successors

namespace Accounted

variable {targets rest : List κ} {target vertex : κ} {p : Progress κ}

omit [DecidableEq κ] in
theorem start (successors : Successors κ) :
    Accounted successors ⟨indegrees successors,
      ((indegrees successors).toList.filter (·.2 == 0)).map (·.1), ∅⟩ where
  settled v counted none := by
    have found := Std.ExtTreeMap.getElem?_eq_some_getElem counted
    have zero : (indegrees successors)[v] = 0 := by
      rwa [Std.ExtTreeMap.getD_eq_getD_getElem?, found] at none
    refine .inl (List.mem_map.mpr ⟨(v, 0), List.mem_filter.mpr ⟨?_, rfl⟩, rfl⟩)
    rw [Std.ExtTreeMap.mem_toList_iff_getElem?_eq_some, found, zero]
  ready v member := by
    obtain ⟨entry, listed, rfl⟩ := List.mem_map.mp member
    have found := Std.ExtTreeMap.mem_toList_iff_getElem?_eq_some.mp (List.mem_filter.mp listed).1
    exact Std.ExtTreeMap.mem_iff_isSome_getElem?.mpr (by rw [found]; rfl)
  released v member := absurd member Std.ExtTreeSet.not_mem_empty

theorem removeEdge (h : Accounted successors p) (counted : target ∈ indegrees successors) :
    Accounted successors (removeEdge p target) where
  settled v known none := by
    by_cases same : target = v
    · subst same
      rw [getD_removeEdge_self] at none
      exact .inl (mem_ready_removeEdge.mpr (.inr ⟨rfl, none⟩))
    · rw [getD_removeEdge_of_ne p same] at none
      exact (h.settled v known none).imp_left fun waits => mem_ready_removeEdge.mpr (.inl waits)
  ready v member := by
    rcases mem_ready_removeEdge.mp member with waits | ⟨rfl, -⟩
    · exact h.ready v waits
    · exact counted
  released := h.released

theorem foldl_removeEdge (h : Accounted successors p)
    (counted : ∀ target ∈ targets, target ∈ indegrees successors) :
    Accounted successors (targets.foldl Blocked.removeEdge p) := by
  induction targets generalizing p with
  | nil => exact h
  | cons target rest ih =>
    obtain ⟨first, others⟩ := List.forall_mem_cons.mp counted
    exact ih (h.removeEdge first) others

omit [DecidableEq κ] in
theorem release_one (h : Accounted successors p) (next : p.ready = vertex :: rest) :
    Accounted successors { p with ready := rest, released := p.released.insert vertex } where
  settled v known none := by
    rcases h.settled v known none with waits | done
    · rw [next] at waits
      rcases List.mem_cons.mp waits with rfl | later
      · exact .inr Std.ExtTreeSet.mem_insert_self
      · exact .inl later
    · exact .inr (Std.ExtTreeSet.mem_insert.mpr (.inr done))
  ready v waits := h.ready v (next ▸ List.mem_cons_of_mem _ waits)
  released v done := by
    rcases Std.ExtTreeSet.mem_insert.mp done with same | done
    · rw [← Std.compare_eq_iff_eq.mp same]
      exact h.ready vertex (next ▸ List.mem_cons_self)
    · exact h.released v done

theorem step (h : Accounted successors p) (next : p.ready = vertex :: rest) :
    Accounted successors ((successors.getD vertex []).foldl Blocked.removeEdge
      { p with ready := rest, released := p.released.insert vertex }) :=
  (h.release_one next).foldl_removeEdge fun _ edge => mem_indegrees.mpr (.inr ⟨vertex, edge⟩)

omit [DecidableEq κ] in
/-- As long as a vertex is ready, not all counted ones have been released. -/
theorem size_released_lt (h : Accounted successors p) (member : vertex ∈ p.ready)
    (waits : vertex ∉ p.released) : p.released.size < (indegrees successors).size := by
  have nodup : (vertex :: p.released.toList).Nodup := by
    refine List.nodup_cons.mpr ⟨by simpa using waits, p.released.distinct_toList.imp ?_⟩
    rintro u _ different rfl
    exact different Std.compare_self
  have counted : vertex :: p.released.toList ⊆ (indegrees successors).keys :=
    List.cons_subset.mpr ⟨Std.ExtTreeMap.mem_keys.mpr (h.ready vertex member), fun v done =>
      Std.ExtTreeMap.mem_keys.mpr (h.released v (Std.ExtTreeSet.mem_toList.mp done))⟩
  have room := (nodup.subperm counted).length_le
  rwa [List.length_cons, Std.ExtTreeSet.length_toList, Std.ExtTreeMap.length_keys] at room

end Accounted

/-- The fuel lasts until nothing is ready. -/
theorem ready_release {fuel : Nat} {p : Progress κ} (tallied : Tallied successors [] p)
    (accounted : Accounted successors p)
    (enough : (indegrees successors).size ≤ fuel + p.released.size) :
    (release successors fuel p).ready = [] := by
  induction fuel generalizing p with
  | zero =>
    refine List.eq_nil_iff_forall_not_mem.mpr fun vertex member => ?_
    have less := accounted.size_released_lt member (tallied.waits vertex member)
    omega
  | succ fuel ih =>
    unfold release
    split
    · next done => exact done
    · next vertex rest next =>
      have waits := tallied.waits vertex (next ▸ List.mem_cons_self)
      refine ih (tallied.release_one next).foldl_removeEdge (accounted.step next) ?_
      rw [released_foldl_removeEdge, Std.ExtTreeSet.size_insert, if_neg (by simpa using waits)]
      omega

/-- A vertex that stays back has a predecessor that stays back. -/
theorem exists_edge_of_not_mem_released {v : κ} (counted : v ∈ indegrees successors)
    (stays : v ∉ released successors) :
    ∃ u ∈ indegrees successors, u ∉ released successors ∧ Edge successors u v := by
  have kept := release_induction successors
    (motive := fun p => Tallied successors [] p ∧ Accounted successors p)
    (fun p vertex rest next ⟨tallied, accounted⟩ =>
      ⟨(tallied.release_one next).foldl_removeEdge, accounted.step next⟩)
    (indegrees successors).size ⟨tallied_start successors, Accounted.start successors⟩
  have done := ready_release (tallied_start successors) (Accounted.start successors)
    (Nat.le_add_right _ _)
  obtain ⟨tallied, accounted⟩ := kept
  have due : edgesInto successors (released successors) v ≠ 0 := by
    intro none
    rcases accounted.settled v counted ((tallied.pending v).trans none) with waits | done'
    · rw [done] at waits
      cases waits
    · exact stays done'
  obtain ⟨u, listed, some⟩ := Finset.exists_ne_zero_of_sum_ne_zero due
  obtain ⟨key, waits⟩ := Finset.mem_filter.mp listed
  have key : u ∈ successors := Std.ExtTreeMap.mem_keys.mp (List.mem_toFinset.mp key)
  exact ⟨u, mem_indegrees.mpr (.inl key), waits,
    List.count_pos_iff.mp (Nat.pos_of_ne_zero some)⟩

omit [Ord κ] [Std.TransOrd κ] [Std.LawfulEqOrd κ] [DecidableEq κ] in
/-- Where each member of a finite set is related to a member, a cycle can be reached from each. -/
theorem exists_cycle {r : κ → κ → Prop} {s : Set κ} (finite : s.Finite)
    (serial : ∀ v ∈ s, ∃ u ∈ s, r v u) {v : κ} (member : v ∈ s) :
    ∃ u, ReflTransGen r v u ∧ TransGen r u u := by
  choose next inside related using fun v : s => serial v v.2
  let follow (v : s) : s := ⟨next v, inside v⟩
  have path (n : ℕ) (v : s) : ReflTransGen r v (follow^[n] v) := by
    induction n generalizing v with
    | zero => exact .refl
    | succ n ih => exact .head (related v) (ih (follow v))
  let visited (n : ℕ) : κ := follow^[n] ⟨v, member⟩
  obtain ⟨m, n, less, same⟩ := Set.Finite.exists_lt_map_eq_of_forall_mem (f := visited)
    (fun n => (follow^[n] ⟨v, member⟩).2) finite
  -- After `m` steps the way has come to a vertex to which it comes again after `k + 1` more.
  obtain ⟨k, rfl⟩ := Nat.exists_eq_add_of_lt less
  have around : TransGen r (visited m) (follow^[k + 1] (follow^[m] ⟨v, member⟩)) :=
    .head' (related _) (path k (follow (follow^[m] ⟨v, member⟩)))
  rw [← Function.iterate_add_apply, Nat.add_comm, ← Nat.add_assoc] at around
  exact ⟨visited m, path m ⟨v, member⟩, same ▸ around⟩

/-- The vertices that are never released are those on a cycle and those downstream of one. -/
theorem mem_vertices_iff (successors : Successors κ) :
    (vertices successors).Nodup ∧
      ∀ v, v ∈ vertices successors ↔
        ∃ u, TransGen (Edge successors) u u ∧ ReflTransGen (Edge successors) u v := by
  refine ⟨(indegrees successors).nodup_keys.filter _, fun v => ⟨fun blocked => ?_, ?_⟩⟩
  · let back := {v | v ∈ indegrees successors ∧ v ∉ released successors}
    have finite : back.Finite := (indegrees successors).keys.finite_toSet.subset
      fun v member => Std.ExtTreeMap.mem_keys.mpr member.1
    have serial : ∀ v ∈ back, ∃ u ∈ back, Function.swap (Edge successors) v u := by
      intro v ⟨counted, stays⟩
      obtain ⟨u, counted, stays, edge⟩ := exists_edge_of_not_mem_released counted stays
      exact ⟨u, ⟨counted, stays⟩, edge⟩
    obtain ⟨listed, stays⟩ := List.mem_filter.mp blocked
    have member : v ∈ back := ⟨Std.ExtTreeMap.mem_keys.mp listed, by
      simpa [← Std.ExtTreeSet.contains_iff_mem] using stays⟩
    obtain ⟨u, path, cycle⟩ := exists_cycle finite serial member
    exact ⟨u, transGen_swap.mp cycle, reflTransGen_swap.mp path⟩
  · rintro ⟨u, cycle, path⟩
    exact mem_vertices cycle path

/-- Two vertices feed each other, one of them a third with two edges, which is no key; a fourth
feeds the third. -/
theorem mem_vertices_iff_pair :
    let graph : Successors String := .ofList [("a", ["b"]), ("b", ["a", "c", "c"]), ("d", ["c"])]
    vertices graph = ["a", "b", "c"] ∧
      (∃ u, TransGen (Edge graph) u u ∧ ReflTransGen (Edge graph) u "c") ∧
      ¬∃ u, TransGen (Edge graph) u u ∧ ReflTransGen (Edge graph) u "d" := by
  intro graph
  have found : vertices graph = ["a", "b", "c"] := by decide +kernel
  have exact := (mem_vertices_iff graph).2
  refine ⟨found, (exact "c").mp ?_, fun cycle => ?_⟩
  · rw [found]
    decide
  · have blocked := (exact "d").mpr cycle
    rw [found] at blocked
    exact absurd blocked (by decide)

end PlugGraph.Blocked
