import Mathlib.Data.List.Range
import Mathlib.Tactic.Linarith
import PlugGraph.FrameRange
import PlugGraph.Proofs.Exact

/-!
# Frames over the rationals

Without rounding, a range of frames is an arithmetic progression: it starts at the first frame and
goes on in equal steps as long as the last frame is not passed by more than the tolerance
(`frameRange_covers`). So the step after the final frame would lead beyond the last one, and a last
frame at a whole number of steps is met exactly.
-/

namespace PlugGraph

namespace FrameRange

/-! ### Progressions -/

section Progression

variable {first step : ℚ} {n : ℕ}

/-- The frames from `first` on, `step` apart. -/
def progression (first step : ℚ) (count : ℕ) : List ℚ :=
  (List.range count).map fun (i : ℕ) => first + i * step

theorem head?_progression : (progression first step (n + 1)).head? = some first := by
  simp [progression, List.range_succ_eq_map]

theorem getLast?_progression :
    (progression first step (n + 1)).getLast? = some (first + n * step) := by
  simp [progression, List.range_succ]

theorem isChain_progression :
    (progression first step n).IsChain fun frame next => next = frame + step := by
  have successors : (List.range n).IsChain fun i j => j = i + 1 :=
    (List.isChain_range _ n).mpr fun _ _ => rfl
  refine List.isChain_map_of_isChain _ ?_ successors
  rintro i _ rfl
  push_cast
  ring

theorem pairwise_progression (positive : 0 < step) :
    (progression first step n).Pairwise (· < ·) := by
  refine List.pairwise_lt_range.map _ fun i j less => ?_
  have farther : (i : ℚ) * step < j * step :=
    mul_lt_mul_of_pos_right (Nat.cast_lt.mpr less) positive
  exact add_lt_add_right farther first

theorem mem_progression {frame : ℚ} :
    frame ∈ progression first step n ↔ ∃ i < n, frame = first + i * step := by
  simp [progression, eq_comm]

end Progression

/-! ### Counting steps -/

/-- The frames from `first` to `last`, in steps of `step`. -/
structure Covers (first last step : ℚ) (frames : List ℚ) : Prop where
  starts : frames.head? = some first
  noGap : frames.IsChain fun frame next => next = frame + step
  ascending : frames.Pairwise (· < ·)
  /-- Nothing but the tolerance decides where the frames end. -/
  reached (frame : ℚ) :
    frame ∈ frames ↔ ∃ i : ℕ, frame = first + i * step ∧ frame ≤ last + 1e-9 * step
  final : ∃ final, frames.getLast? = some final ∧ last - step < final ∧
    final ≤ last + 1e-9 * step
  whole (k : ℕ) : last - first = k * step →
    frames.length = k + 1 ∧ frames.getLast? = some last

/-- As many whole steps as lead to `last`, or past it by no more than the tolerance. -/
structure Steps (first last step : ℚ) (n : ℕ) : Prop where
  le : first + n * step ≤ last + 1e-9 * step
  lt : last + 1e-9 * step < first + (n + 1) * step

namespace Steps

variable {first last step : ℚ} {n : ℕ}

/-- A whole number of steps to `last` is counted exactly. -/
theorem eq_of_whole (h : Steps first last step n) (positive : 0 < step) {k : ℕ}
    (whole : last - first = k * step) : n = k := by
  have atMost : (n : ℚ) < k + 1 := by
    have bound : n * step < (k + 1) * step := by linarith [h.le]
    exact lt_of_mul_lt_mul_right bound positive.le
  have atLeast : (k : ℚ) < n + 1 := by
    have bound : k * step < (n + 1) * step := by linarith [h.lt]
    exact lt_of_mul_lt_mul_right bound positive.le
  norm_cast at atMost atLeast
  omega

theorem mem_iff (h : Steps first last step n) (positive : 0 < step) (frame : ℚ) :
    frame ∈ progression first step (n + 1) ↔
      ∃ i : ℕ, frame = first + i * step ∧ frame ≤ last + 1e-9 * step := by
  rw [mem_progression]
  constructor
  · rintro ⟨i, within, rfl⟩
    have le : (i : ℚ) ≤ n := Nat.cast_le.mpr (Nat.le_of_lt_succ within)
    have notFarther := mul_le_mul_of_nonneg_right le positive.le
    exact ⟨i, rfl, by linarith [h.le]⟩
  · rintro ⟨i, rfl, inside⟩
    have bound : i * step < (n + 1) * step := by linarith [h.lt]
    have less : (i : ℚ) < n + 1 := lt_of_mul_lt_mul_right bound positive.le
    exact ⟨i, by exact_mod_cast less, rfl⟩

theorem covers (h : Steps first last step n) (positive : 0 < step) :
    Covers first last step (progression first step (n + 1)) where
  starts := head?_progression
  noGap := isChain_progression
  ascending := pairwise_progression positive
  reached := h.mem_iff positive
  final := by
    refine ⟨first + n * step, getLast?_progression, ?_, h.le⟩
    linarith [h.lt]
  whole k whole := by
    obtain rfl := h.eq_of_whole positive whole
    refine ⟨by simp [progression], ?_⟩
    rw [getLast?_progression, ← whole, add_sub_cancel]

end Steps

end FrameRange

/-! ### Ranges of frames -/

section Frames

open FrameRange

variable {first last step : ℚ}

theorem frameCount_eq (nonzero : step ≠ 0) :
    frameCount first last step = .ok (⌊(last - first) / step + 1e-9⌋ + 1).toNat := by
  unfold frameCount
  rw [Scalar.divide?_of_ne _ nonzero]
  rfl

theorem exists_frameCount (positive : 0 < step) (ordered : first ≤ last) :
    ∃ n, frameCount first last step = .ok (n + 1) ∧ Steps first last step n := by
  have nonneg : 0 ≤ (last - first) / step := div_nonneg (sub_nonneg.mpr ordered) positive.le
  obtain ⟨n, whole⟩ : ∃ n : ℕ, ⌊(last - first) / step + 1e-9⌋ = n :=
    Int.eq_ofNat_of_zero_le (Int.floor_nonneg.mpr (by linarith))
  obtain ⟨below, above⟩ := Int.floor_eq_iff.mp whole
  rw [Int.cast_natCast] at below above
  have length : (last - first) / step * step = last - first := div_mul_cancel₀ _ positive.ne'
  refine ⟨n, ?_, ?_, ?_⟩
  · rw [frameCount_eq positive.ne', whole]
    rfl
  · have := mul_le_mul_of_nonneg_right below positive.le
    linarith
  · have := mul_lt_mul_of_pos_right above positive
    linarith

/-- Every rational is finite, so a step only has to be positive. -/
theorem step_valid (positive : 0 < step) :
    ¬ (!Scalar.isFinite step || decide (step ≤ 0)) = true := by
  have finite : Scalar.isFinite step = true := rfl
  rw [finite, Bool.not_true, Bool.false_or, decide_eq_true_eq]
  exact not_le.mpr positive

theorem frameRange_of_lt (positive : 0 < step) (descending : last < first) :
    frameRange first last step = .ok [] := by
  unfold frameRange
  rw [if_neg (step_valid positive), if_pos descending]

theorem frameRange_of_le (positive : 0 < step) (ordered : first ≤ last) {count : ℕ}
    (counted : frameCount first last step = .ok count) :
    frameRange first last step = .ok (progression first step count) := by
  unfold frameRange
  rw [if_neg (step_valid positive), if_neg (not_lt.mpr ordered), counted]
  rfl

/-- The frames of an ascending interval start at its first frame and go on in equal steps. The final
one is less than a step below the last, or else beyond it by no more than the tolerance, and it is
the last one if that is a whole number of steps away. A descending interval has no frames. -/
theorem frameRange_covers (first last step : ℚ) (positive : 0 < step) :
    (first ≤ last → ∃ frames, frameRange first last step = .ok frames ∧
      Covers first last step frames) ∧
    (last < first → frameRange first last step = .ok []) := by
  refine ⟨fun ordered => ?_, frameRange_of_lt positive⟩
  obtain ⟨n, counted, steps⟩ := exists_frameCount positive ordered
  exact ⟨_, frameRange_of_le positive ordered counted, steps.covers positive⟩

/-- Three tenths are met in three steps, and still when the interval ends a little before them. -/
theorem frameRange_covers_tenths :
    (0 : ℚ) < 1 / 10 ∧
      (∃ frames, frameRange (0 : ℚ) (3 / 10) (1 / 10) = .ok frames ∧ frames.length = 4 ∧
        frames.getLast? = some (3 / 10)) ∧
      (∃ frames, frameRange (0 : ℚ) (3 / 10 - 1 / 10 ^ 11) (1 / 10) = .ok frames ∧
        3 / 10 ∈ frames) ∧
      frameRange (3 / 10 : ℚ) 0 (1 / 10) = .ok [] := by
  have positive : (0 : ℚ) < 1 / 10 := by norm_num
  refine ⟨positive, ?_, ?_, ?_⟩
  · obtain ⟨frames, range, covers⟩ := (frameRange_covers 0 (3 / 10) _ positive).1 (by norm_num)
    exact ⟨frames, range, covers.whole 3 (by norm_num)⟩
  · obtain ⟨frames, range, covers⟩ :=
      (frameRange_covers 0 (3 / 10 - 1 / 10 ^ 11) _ positive).1 (by norm_num)
    exact ⟨frames, range, (covers.reached (3 / 10)).mpr ⟨3, by norm_num, by norm_num⟩⟩
  · exact (frameRange_covers (3 / 10) 0 _ positive).2 (by norm_num)

end Frames

end PlugGraph
