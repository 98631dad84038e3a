import Mathlib.Order.Interval.Set.UnorderedInterval
import Mathlib.Tactic.NormNum
import Mathlib.Tactic.Ring
import PlugGraph.Proofs.Choice
import PlugGraph.Proofs.Exact

/-!
# Remapping a range

A value is mapped from one range onto another by the part of the way that it has gone in the first,
clamped to the unit interval. Over exact scalars the image never leaves the second range, the ends
of the first go to those of the second, and a greater value goes no less far in the direction that
both ranges give together, whichever way either of them runs (`Formula.RangeMap.image_monotone`). A
range that is too narrow to divide by is sent to the lower end.
-/

namespace PlugGraph

namespace Scalar

section Exact

variable {α : Type} [ExactScalar α]

theorem clampUnit_eq (t : α) : clampUnit t = max 0 (min 1 t) := by
  unfold clampUnit clamp
  split
  · next below =>
    rw [max_eq_left]
    exact (min_le_right 1 t).trans below.le
  · next nonneg =>
    split
    · next above => rw [min_eq_left above.le, max_eq_right zero_le_one]
    · next inside => rw [min_eq_right (not_lt.mp inside), max_eq_right (not_lt.mp nonneg)]

theorem clampUnit_nonneg (t : α) : 0 ≤ clampUnit t := by
  rw [clampUnit_eq]
  exact le_max_left _ _

theorem clampUnit_le_one (t : α) : clampUnit t ≤ 1 := by
  rw [clampUnit_eq]
  exact max_le zero_le_one (min_le_left _ _)

theorem clampUnit_mono {s t : α} (le : s ≤ t) : clampUnit s ≤ clampUnit t := by
  rw [clampUnit_eq, clampUnit_eq]
  exact max_le_max_left 0 (min_le_min_left 1 le)

theorem clampUnit_of_mem {t : α} (inside : t ∈ Set.Icc 0 1) : clampUnit t = t := by
  rw [clampUnit_eq, min_eq_right inside.2, max_eq_right inside.1]

theorem lerp_eq (a b t : α) : lerp a b t = a + (b - a) * clampUnit t := by
  unfold lerp
  ring

theorem lerp_zero (a b : α) : lerp a b 0 = a := by
  simp [lerp_eq, clampUnit_eq]

theorem lerp_one (a b : α) : lerp a b 1 = b := by
  simp [lerp_eq, clampUnit_eq]

/-- Interpolation stays between the ends. -/
theorem lerp_mem_uIcc (a b t : α) : lerp a b t ∈ Set.uIcc a b := by
  have start := clampUnit_nonneg t
  have stop := clampUnit_le_one t
  rw [lerp_eq]
  rcases le_total a b with up | down
  · rw [Set.uIcc_of_le up]
    constructor
    · exact le_add_of_nonneg_right (mul_nonneg (sub_nonneg.mpr up) start)
    · exact le_sub_iff_add_le'.mp (mul_le_of_le_one_right (sub_nonneg.mpr up) stop)
  · rw [Set.uIcc_of_ge down]
    constructor
    · exact sub_le_iff_le_add'.mp (le_mul_of_le_one_right (sub_nonpos.mpr down) stop)
    · exact add_le_of_nonpos_right (mul_nonpos_of_nonpos_of_nonneg (sub_nonpos.mpr down) start)

/-- Within a range, a value has gone some part of the way. -/
theorem div_mem_unit {start stop value : α} (inside : value ∈ Set.uIcc start stop) :
    (value - start) / (stop - start) ∈ Set.Icc 0 1 := by
  rcases le_total start stop with up | down
  · rw [Set.uIcc_of_le up] at inside
    have gone : 0 ≤ value - start := sub_nonneg.mpr inside.1
    have notPast : value - start ≤ stop - start := sub_le_sub_right inside.2 start
    exact ⟨div_nonneg gone (gone.trans notPast), div_le_one_of_le₀ notPast (gone.trans notPast)⟩
  · rw [Set.uIcc_of_ge down] at inside
    have gone : value - start ≤ 0 := sub_nonpos.mpr inside.2
    have notPast : stop - start ≤ value - start := sub_le_sub_right inside.1 start
    exact ⟨div_nonneg_of_nonpos gone (notPast.trans gone),
      div_le_one_of_ge notPast (notPast.trans gone)⟩

/-- Within a range, interpolation follows the line through the ends. -/
theorem lerp_sub_mul {start stop newMin newMax value : α} (nonzero : stop - start ≠ 0)
    (inside : value ∈ Set.uIcc start stop) :
    (lerp newMin newMax ((value - start) / (stop - start)) - newMin) * (stop - start) =
      (newMax - newMin) * (value - start) := by
  rw [lerp_eq, clampUnit_of_mem (div_mem_unit inside), add_sub_cancel_left, mul_assoc,
    div_mul_cancel₀ _ nonzero]

/-- A greater value has gone farther in the direction of the range. -/
theorem mul_clampUnit_sub_nonneg (start span : α) {value value' : α} (le : value ≤ value') :
    0 ≤ span * (clampUnit ((value' - start) / span) - clampUnit ((value - start) / span)) := by
  have less : value - start ≤ value' - start := sub_le_sub_right le start
  rcases le_total 0 span with up | down
  · have ahead := clampUnit_mono (div_le_div_of_nonneg_right less up)
    exact mul_nonneg up (sub_nonneg.mpr ahead)
  · have behind := clampUnit_mono (div_le_div_of_nonpos_of_le down less)
    exact mul_nonneg_of_nonpos_of_nonpos down (sub_nonpos.mpr behind)

section Slope

variable {start span newMin newMax value value' : α}

/-- The difference of two images, in terms of the directions of both ranges. -/
theorem lerp_sub_mul_self :
    (lerp newMin newMax ((value' - start) / span) - lerp newMin newMax ((value - start) / span)) *
        (span * span) =
      span * (newMax - newMin) *
        (span * (clampUnit ((value' - start) / span) - clampUnit ((value - start) / span))) := by
  rw [lerp_eq, lerp_eq]
  ring

/-- Between ranges that run the same way, a greater value has no smaller image. -/
theorem lerp_le_lerp (nonzero : span ≠ 0) (same : 0 ≤ span * (newMax - newMin))
    (le : value ≤ value') :
    lerp newMin newMax ((value - start) / span) ≤ lerp newMin newMax ((value' - start) / span) := by
  have gain := mul_nonneg same (mul_clampUnit_sub_nonneg start span le)
  rw [← lerp_sub_mul_self] at gain
  exact sub_nonneg.mp (nonneg_of_mul_nonneg_left gain (mul_self_pos.mpr nonzero))

/-- Between ranges that run opposite ways, a greater value has no greater image. -/
theorem lerp_ge_lerp (nonzero : span ≠ 0) (opposite : span * (newMax - newMin) ≤ 0)
    (le : value ≤ value') :
    lerp newMin newMax ((value' - start) / span) ≤ lerp newMin newMax ((value - start) / span) := by
  have loss := mul_nonpos_of_nonpos_of_nonneg opposite (mul_clampUnit_sub_nonneg start span le)
  rw [← lerp_sub_mul_self] at loss
  exact sub_nonpos.mp (nonpos_of_mul_nonpos_left loss (mul_self_pos.mpr nonzero))

end Slope

end Exact

/-! ### Ranges of rationals -/

section Rational

variable {value value' oldMin oldMax newMin newMax image image' : ℚ}

theorem remap_of_narrow (narrow : |oldMax - oldMin| < 1e-8) :
    remap value oldMin oldMax newMin newMax = .ok newMin := by
  have close : Scalar.abs (oldMax - oldMin) < zeroTolerance := narrow
  unfold remap
  rw [if_pos close]
  exact congrArg Except.ok (lerp_zero newMin newMax)

theorem sub_ne_zero_of_wide (wide : 1e-8 ≤ |oldMax - oldMin|) : oldMax - oldMin ≠ 0 := by
  have positive : 0 < |oldMax - oldMin| := lt_of_lt_of_le (by norm_num) wide
  exact abs_pos.mp positive

theorem remap_of_wide (wide : 1e-8 ≤ |oldMax - oldMin|) :
    remap value oldMin oldMax newMin newMax =
      .ok (lerp newMin newMax ((value - oldMin) / (oldMax - oldMin))) := by
  have notClose : ¬ Scalar.abs (oldMax - oldMin) < zeroTolerance := not_lt.mpr wide
  unfold remap
  rw [if_neg notClose, divide?_of_ne _ (sub_ne_zero_of_wide wide)]
  rfl

/-- What a value is mapped to, when one range is mapped onto another. -/
structure IsImage (value oldMin oldMax newMin newMax image : ℚ) : Prop where
  between : image ∈ Set.uIcc newMin newMax
  atMin : 1e-8 ≤ |oldMax - oldMin| → value = oldMin → image = newMin
  atMax : 1e-8 ≤ |oldMax - oldMin| → value = oldMax → image = newMax
  /-- Within the old range, the image lies on the line through the images of the ends. -/
  straight : 1e-8 ≤ |oldMax - oldMin| → value ∈ Set.uIcc oldMin oldMax →
    (image - newMin) * (oldMax - oldMin) = (newMax - newMin) * (value - oldMin)
  narrow : |oldMax - oldMin| < 1e-8 → image = newMin

/-- Every value has an image, so no divisor is zero. -/
theorem exists_remap (value oldMin oldMax newMin newMax : ℚ) :
    ∃ image, remap value oldMin oldMax newMin newMax = .ok image ∧
      IsImage value oldMin oldMax newMin newMax image := by
  rcases lt_or_ge |oldMax - oldMin| 1e-8 with narrow | wide
  · refine ⟨newMin, remap_of_narrow narrow, ?_⟩
    exact
      { between := Set.left_mem_uIcc
        atMin := fun _ _ => rfl
        atMax := fun wide _ => absurd narrow (not_lt.mpr wide)
        straight := fun wide _ => absurd narrow (not_lt.mpr wide)
        narrow := fun _ => rfl }
  · refine ⟨_, remap_of_wide wide, ?_⟩
    have nonzero := sub_ne_zero_of_wide wide
    refine ⟨lerp_mem_uIcc _ _ _, ?_, ?_, ?_, fun narrow => absurd narrow (not_lt.mpr wide)⟩
    · rintro - rfl
      rw [sub_self, zero_div, lerp_zero]
    · rintro - rfl
      rw [div_self nonzero, lerp_one]
    · exact fun _ inside => lerp_sub_mul nonzero inside

/-- A greater value is mapped no less far in the direction of both ranges together. -/
theorem remap_mono (le : value ≤ value')
    (maps : remap value oldMin oldMax newMin newMax = .ok image)
    (maps' : remap value' oldMin oldMax newMin newMax = .ok image') :
    (0 ≤ (oldMax - oldMin) * (newMax - newMin) → image ≤ image') ∧
      ((oldMax - oldMin) * (newMax - newMin) ≤ 0 → image' ≤ image) := by
  rcases lt_or_ge |oldMax - oldMin| 1e-8 with narrow | wide
  · rw [remap_of_narrow narrow] at maps maps'
    obtain rfl := Except.ok.inj maps
    obtain rfl := Except.ok.inj maps'
    exact ⟨fun _ => le_rfl, fun _ => le_rfl⟩
  · have nonzero := sub_ne_zero_of_wide wide
    rw [remap_of_wide wide] at maps maps'
    obtain rfl := Except.ok.inj maps
    obtain rfl := Except.ok.inj maps'
    exact ⟨fun same => lerp_le_lerp nonzero same le,
      fun opposite => lerp_ge_lerp nonzero opposite le⟩

end Rational

end Scalar

namespace Formula

/-- The numbers that a formula needs to map one range onto another. -/
inductive RangeInput where
  | value
  | oldMin
  | oldMax
  | newMin
  | newMax
deriving DecidableEq

/-- The formulas that map one range onto another. -/
inductive RangeMap where
  /-- Maps the component that an attribute ends in. -/
  | setRange (attr : String)
  | remapValue

namespace RangeMap

def formula {α : Type} [Scalar α] : RangeMap → Inputs → Formula α α
  | setRange attr, inputs => Formula.setRange inputs attr
  | remapValue, inputs => Formula.remapValue inputs

def names : RangeMap → RangeInput → List String
  | setRange attr, .value => Attr.componentNames "value" "v" (axisLetter attr)
  | setRange attr, .oldMin => Attr.componentNames "oldMin" "on" (axisLetter attr)
  | setRange attr, .oldMax => Attr.componentNames "oldMax" "om" (axisLetter attr)
  | setRange attr, .newMin => Attr.componentNames "min" "n" (axisLetter attr)
  | setRange attr, .newMax => Attr.componentNames "max" "m" (axisLetter attr)
  | remapValue, .value => ["inputValue", "i", "iv"]
  | remapValue, .oldMin => ["inputMin", "imn"]
  | remapValue, .oldMax => ["inputMax", "imx"]
  | remapValue, .newMin => ["outputMin", "omn"]
  | remapValue, .newMax => ["outputMax", "omx"]

section

variable {α : Type} [Scalar α]

/-- What a node is given for a number, if `reply` is what its sources come to. -/
def given (map : RangeMap) (inputs : Inputs) (reply : String → α) (input : RangeInput) : α :=
  (inputs.value (map.names input)).result reply

/-- What the formula comes to. -/
def image (map : RangeMap) (inputs : Inputs) (reply : String → α) : Except Fault α :=
  (map.formula inputs).run.result reply

theorem image_eq (map : RangeMap) (inputs : Inputs) (reply : String → α) :
    let given := map.given inputs reply
    map.image inputs reply =
      Scalar.remap (given .value) (given .oldMin) (given .oldMax) (given .newMin)
        (given .newMax) := by
  intro given
  cases map with
  | setRange attr =>
    simp only [image, formula, Formula.setRange, result_read_bind]
    rfl
  | remapValue =>
    simp only [image, formula, Formula.remapValue, result_read_bind]
    rfl

end

/-- A value has an image between the ends of the new range: the matching end at either end of the
old one, and the lower end if the old range is too narrow. As long as the ends are kept, a greater
value has no smaller image if the ranges run the same way, and no greater one if they run opposite
ways: `direction` is positive or negative accordingly. -/
theorem image_monotone (map : RangeMap) (inputs : Inputs) (reply : String → ℚ) :
    let given := map.given inputs reply
    let direction := (given .oldMax - given .oldMin) * (given .newMax - given .newMin)
    ∃ image, map.image inputs reply = .ok image ∧
      Scalar.IsImage (given .value) (given .oldMin) (given .oldMax) (given .newMin) (given .newMax)
        image ∧
      ∀ (inputs' : Inputs) (reply' : String → ℚ) (image' : ℚ),
        (∀ input ≠ .value, map.given inputs' reply' input = given input) →
        given .value ≤ map.given inputs' reply' .value →
        map.image inputs' reply' = .ok image' →
        (0 ≤ direction → image ≤ image') ∧ (direction ≤ 0 → image' ≤ image) := by
  intro given direction
  obtain ⟨image, maps, isImage⟩ := Scalar.exists_remap (given .value) (given .oldMin)
    (given .oldMax) (given .newMin) (given .newMax)
  refine ⟨image, (map.image_eq inputs reply).trans maps, isImage, ?_⟩
  intro inputs' reply' image' kept le maps'
  rw [image_eq, kept .oldMin (by decide), kept .oldMax (by decide), kept .newMin (by decide),
    kept .newMax (by decide)] at maps'
  exact Scalar.remap_mono le maps maps'

/-- Ten to zero becomes zero to a hundred, so seven is mapped below four. -/
theorem image_monotone_inverted :
    let node : Node := ⟨"s", "setRange",
      [⟨"oldMinX", ["10"]⟩, ⟨"oldMaxX", ["0"]⟩, ⟨"maxX", ["100"]⟩]⟩
    let inputs : Inputs := ⟨.ofRecords [node] [⟨"a.tx", "s.valueX", false⟩], node⟩
    let image (value : ℚ) := (setRange "outValueX").image inputs fun _ => value
    image 10 = .ok 0 ∧
      ∃ four seven, image 4 = .ok four ∧ image 7 = .ok seven ∧
        0 ≤ seven ∧ seven ≤ four ∧ four ≤ 100 := by
  intro node inputs image
  let given (value : ℚ) := (setRange "outValueX").given inputs fun _ => value
  have numbers : ∀ value ∈ [(10 : ℚ), 4, 7], given value .value = value ∧
      given value .oldMin = 10 ∧ given value .oldMax = 0 ∧ given value .newMin = 0 ∧
      given value .newMax = 100 := by
    decide +kernel
  have isImage {value y : ℚ} (member : value ∈ [(10 : ℚ), 4, 7])
      (h : Scalar.IsImage (given value .value) (given value .oldMin) (given value .oldMax)
        (given value .newMin) (given value .newMax) y) : Scalar.IsImage value 10 0 0 100 y := by
    obtain ⟨same, oldMin, oldMax, newMin, newMax⟩ := numbers value member
    rwa [same, oldMin, oldMax, newMin, newMax] at h
  obtain ⟨ten, mapsTen, isTen, -⟩ := image_monotone (setRange "outValueX") inputs fun _ => 10
  obtain ⟨four, mapsFour, isFour, mono⟩ := image_monotone (setRange "outValueX") inputs fun _ => 4
  obtain ⟨seven, mapsSeven, isSeven, -⟩ := image_monotone (setRange "outValueX") inputs fun _ => 7
  have lower := (isImage (by decide) isTen).atMin (by norm_num) rfl
  have upper := (isImage (by decide) isFour).between
  have above := (isImage (by decide) isSeven).between
  rw [Set.uIcc_of_le (by norm_num)] at upper above
  have opposite :
      (given 4 .oldMax - given 4 .oldMin) * (given 4 .newMax - given 4 .newMin) ≤ 0 := by
    decide +kernel
  have less : seven ≤ four := by
    refine (mono inputs (fun _ => 7) seven ?_ (by decide +kernel) mapsSeven).2 opposite
    intro input other
    cases input with
    | value => exact absurd rfl other
    | oldMin | oldMax | newMin | newMax => decide +kernel
  exact ⟨lower ▸ mapsTen, four, seven, mapsFour, mapsSeven, above.1, less, upper.2⟩

end RangeMap

end Formula

end PlugGraph
