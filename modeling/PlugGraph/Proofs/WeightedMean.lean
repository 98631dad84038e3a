import Mathlib.Algebra.BigOperators.Ring.List
import Mathlib.Algebra.Order.BigOperators.Group.List
import Mathlib.Algebra.Order.Field.Basic
import Mathlib.Data.Finset.Max
import PlugGraph.Proofs.Choice
import PlugGraph.Proofs.Exact

/-!
# Normalized blends are weighted means

Exact numbers are blended without loss. A normalized blend then lies among the inputs that it
blends, does not depend on the scale of the weights, and differs from the blend that is not
normalized by the sum of the weights only (`Formula.blendWeighted_mean`). The indices are those that
either array uses, and an element that only the other array has counts with its default.
-/

namespace PlugGraph

/-! ### Weighted sums -/

section Sums

variable {ι α : Type} [Field α] [LinearOrder α] [IsStrictOrderedRing α]
variable {items : List ι} {x w : ι → α} {bound : α}

theorem mul_sum_le_weighted (nonneg : ∀ i ∈ items, 0 ≤ w i) (below : ∀ i ∈ items, bound ≤ x i) :
    bound * (items.map w).sum ≤ (items.map fun i => x i * w i).sum := by
  rw [← List.sum_map_mul_left]
  exact List.sum_le_sum fun i member =>
    mul_le_mul_of_nonneg_right (below i member) (nonneg i member)

theorem weighted_le_mul_sum (nonneg : ∀ i ∈ items, 0 ≤ w i) (above : ∀ i ∈ items, x i ≤ bound) :
    (items.map fun i => x i * w i).sum ≤ bound * (items.map w).sum := by
  rw [← List.sum_map_mul_left]
  exact List.sum_le_sum fun i member =>
    mul_le_mul_of_nonneg_right (above i member) (nonneg i member)

/-- A weighted mean lies between the smallest and the largest of its terms. -/
theorem weightedMean_between (nonneg : ∀ i ∈ items, 0 ≤ w i) (heavy : 0 < (items.map w).sum) :
    let mean := (items.map fun i => x i * w i).sum / (items.map w).sum
    ∃ low ∈ items.map x, ∃ high ∈ items.map x,
      (∀ i ∈ items, low ≤ x i ∧ x i ≤ high) ∧ low ≤ mean ∧ mean ≤ high := by
  classical
  -- Without an item the sum of the weights would be zero.
  have some : items.toFinset.Nonempty := by
    rw [List.toFinset_nonempty_iff]
    rintro rfl
    exact lt_irrefl _ heavy
  obtain ⟨i, hasLow, low⟩ := items.toFinset.exists_min_image x some
  obtain ⟨j, hasHigh, high⟩ := items.toFinset.exists_max_image x some
  simp only [List.mem_toFinset] at hasLow low hasHigh high
  refine ⟨x i, List.mem_map_of_mem hasLow, x j, List.mem_map_of_mem hasHigh,
    fun k member => ⟨low k member, high k member⟩, ?_, ?_⟩
  · exact (le_div_iff₀ heavy).mpr (mul_sum_le_weighted nonneg low)
  · exact (div_le_iff₀ heavy).mpr (weighted_le_mul_sum nonneg high)

end Sums

namespace Inputs

variable {α : Type} [Scalar α] {inputs : Inputs} {reply : String → α}

/-- What an element of an array has: the value of its source if it has one, or else the number
authored for it, or else `fallback`. -/
def supplied (inputs : Inputs) (reply : String → α) (array : String) (fallback : α) (i : Int) : α :=
  let name := Attr.element array i
  match inputs.source? name with
  | some source => if Text.isBlankText source then 0 else reply (Plug.normalize source)
  | none => ((inputs.node.literal? name).map Scalar.single).getD fallback

theorem result_element (array : String) (i : Int) (fallback : α) :
    (inputs.element array i fallback).result reply = inputs.supplied reply array fallback i := by
  simp only [element, valueOr, given, connected, supplied, literal?, List.findSome?_cons,
    List.findSome?_nil]
  cases driven : inputs.source? (Attr.element array i) with
  | none => cases inputs.node.literal? (α := α) (Attr.element array i) <;> rfl
  | some source =>
    cases blank : Text.isBlankText source <;> simp [blank, Reading.plug, Dialogue.question]
    rfl

/-- A connection to the node or an attribute of it mentions an element of an array. -/
def Uses (inputs : Inputs) (array : String) (i : Int) : Prop :=
  (∃ c ∈ inputs.graph.connections, ∃ plug, Plug.ofText? c.target = some plug ∧
      plug.node = inputs.node.name ∧ Attr.Mentions plug.attr array i) ∨
    ∃ a ∈ inputs.node.attributes, Attr.Mentions a.name array i

/-- The indices in use in an array of a declared node. -/
theorem mem_arrayIndices_iff_uses {nodes : List Node} {connections : List Connection} {node : Node}
    {array : String} (declared : node ∈ (Graph.ofRecords nodes connections).nodes)
    (noDot : Attr.withoutDot array = array) {i : Int} :
    i ∈ (Graph.ofRecords nodes connections).arrayIndices node.name array ↔
      Uses ⟨.ofRecords nodes connections, node⟩ array i := by
  rw [Graph.mem_arrayIndices_of_mem declared, noDot]
  rfl

end Inputs

/-! ### Nodes authored anew -/

theorem rel_find? {ι κ : Type} {r : ι → κ → Prop} {p : ι → Bool} {q : κ → Bool} {items : List ι}
    {items' : List κ} (related : List.Forall₂ r items items')
    (same : ∀ i k, r i k → p i = q k) : Option.Rel r (items.find? p) (items'.find? q) := by
  induction related with
  | nil => exact .none
  | @cons i k items items' first _ ih =>
    rw [List.find?_cons, List.find?_cons, ← same i k first]
    cases p i with
    | true => exact .some first
    | false => exact ih

namespace Node

/-- The number authored for each weight is multiplied by a factor, and nothing else is changed. -/
structure Reweighted (factor : ℚ) (node node' : Node) : Prop where
  name : node'.name = node.name
  attributes : List.Forall₂ (fun a a' : Attribute => a'.name = a.name ∧
    a'.value? = if Attr.arrayName? a.name = some "weight" then a.value?.map (factor * ·)
      else a.value?) node.attributes node'.attributes

/-- Nothing is changed but attributes of some names. -/
structure AgreesBut (names : List String) (node node' : Node) : Prop where
  name : node'.name = node.name
  attributes : node'.attributes.filter (·.name ∉ names) =
    node.attributes.filter (·.name ∉ names)

namespace Reweighted

variable {factor : ℚ} {node node' : Node}

/-- The first attribute of one of some names, in both nodes. -/
theorem find? (h : Reweighted factor node node') (p : String → Bool) :
    (node'.attributes.find? (p ·.name)).bind Attribute.value? =
      (node.attributes.find? (p ·.name)).bind fun a =>
        if Attr.arrayName? a.name = some "weight" then a.value?.map (factor * ·) else a.value? := by
  have related := rel_find? (p := (p ·.name)) (q := (p ·.name)) h.attributes
    fun a a' same => by rw [same.1]
  generalize node.attributes.find? (p ·.name) = found at related
  generalize node'.attributes.find? (p ·.name) = found' at related
  cases related with
  | none => rfl
  | some same => exact same.2

/-- The number of a weight is multiplied. -/
theorem literal?_weight (h : Reweighted factor node node') {key : String}
    (weight : Attr.arrayName? (Attr.withoutDot key) = some "weight") :
    node'.literal? key = (node.literal? key).map (factor * ·) := by
  refine (h.find? (· == Attr.withoutDot key)).trans ?_
  rw [Node.literal?, Node.attribute?, Option.map_bind]
  refine Option.bind_congr fun a found => ?_
  have name : a.name = Attr.withoutDot key := by simpa using List.find?_some found
  rw [name, if_pos weight]
  rfl

/-- Any other number is kept. -/
theorem literal?_of_ne (h : Reweighted factor node node') {key : String}
    (other : Attr.arrayName? (Attr.withoutDot key) ≠ some "weight") :
    node'.literal? (α := ℚ) key = node.literal? key := by
  refine (h.find? (· == Attr.withoutDot key)).trans (Option.bind_congr fun a found => ?_)
  have name : a.name = Attr.withoutDot key := by simpa using List.find?_some found
  rw [name, if_neg other]

theorem literalAny_of_ne (h : Reweighted factor node node') {keys : List String}
    (others : ∀ name ∈ keys.map Attr.withoutDot, Attr.arrayName? name ≠ some "weight")
    (fallback : ℚ) : node'.literalAny keys fallback = node.literalAny keys fallback := by
  refine congrArg (Option.getD · fallback) ?_
  refine (h.find? (keys.map Attr.withoutDot).contains).trans (Option.bind_congr fun a found => ?_)
  have name : a.name ∈ keys.map Attr.withoutDot := by simpa using List.find?_some found
  rw [if_neg (others a.name name)]

theorem mentions_iff (h : Reweighted factor node node') {array : String} {i : Int} :
    (∃ a ∈ node'.attributes, Attr.Mentions a.name array i) ↔
      ∃ a ∈ node.attributes, Attr.Mentions a.name array i := by
  have names : node'.attributes.map Attribute.name = node.attributes.map Attribute.name := by
    rw [eq_comm, ← List.forall₂_eq_eq_eq, List.forall₂_map_left_iff, List.forall₂_map_right_iff]
    exact h.attributes.imp fun a a' same => same.1.symm
  have mentioned (attributes : List Attribute) : (∃ a ∈ attributes, Attr.Mentions a.name array i) ↔
      ∃ name ∈ attributes.map Attribute.name, Attr.Mentions name array i := by simp
  rw [mentioned, names, ← mentioned]

end Reweighted

namespace AgreesBut

variable {names : List String} {node node' : Node}

/-- What is found under other names is the same. -/
theorem find? (h : AgreesBut names node node') {p : String → Bool}
    (others : ∀ name ∈ names, p name = false) :
    node'.attributes.find? (p ·.name) = node.attributes.find? (p ·.name) := by
  have apart (attributes : List Attribute) : attributes.find? (p ·.name) =
      (attributes.filter (·.name ∉ names)).find? (p ·.name) := by
    rw [List.find?_filter]
    congr 1
    funext a
    have hit (yes : p a.name = true) : a.name ∉ names :=
      fun excluded => absurd (others a.name excluded) (by simp [yes])
    rw [Bool.eq_iff_iff, decide_eq_true_iff, decide_eq_true_iff]
    exact ⟨fun yes => ⟨hit yes, yes⟩, And.right⟩
  rw [apart, h.attributes, ← apart]

theorem mentions_iff (h : AgreesBut names node node')
    (plain : ∀ name ∈ names, Attr.arrayName? name = none) {array : String} {i : Int} :
    (∃ a ∈ node'.attributes, Attr.Mentions a.name array i) ↔
      ∃ a ∈ node.attributes, Attr.Mentions a.name array i := by
  have apart (attributes : List Attribute) : (∃ a ∈ attributes, Attr.Mentions a.name array i) ↔
      ∃ a ∈ attributes.filter (·.name ∉ names), Attr.Mentions a.name array i := by
    simp only [List.mem_filter, decide_eq_true_eq]
    refine exists_congr fun a => ⟨?_, fun ⟨⟨member, _⟩, mentions⟩ => ⟨member, mentions⟩⟩
    rintro ⟨member, mentions⟩
    refine ⟨⟨member, fun excluded => ?_⟩, mentions⟩
    exact absurd mentions.1 (by simp [plain a.name excluded])
  rw [apart, h.attributes, ← apart]

end AgreesBut

end Node

namespace Formula

/-! ### Sums of a blend -/

section Blend

variable (inputs : Inputs) (reply : String → ℚ)

theorem result_weightedSum (indices : List Int) (total weights : ℚ) :
    (weightedSum inputs indices total weights).result reply =
      let input := inputs.supplied reply "input" 0
      let weight := inputs.supplied reply "weight" 1
      (total + (indices.map fun i => input i * weight i).sum,
        weights + (indices.map weight).sum) := by
  induction indices generalizing total weights with
  | nil => simp [weightedSum]
  | cons i rest ih =>
    simp only [weightedSum, Dialogue.bind_eq, Dialogue.result_bind, Inputs.result_element, ih,
      List.map_cons, List.sum_cons, add_assoc]

def weightSumNames : List String := ["weightsum", "ws"]

def normalizeNames : List String := ["normalizeWeights", "normalize"]

/-- What a blend computes from its two sums. -/
theorem result_blendWeighted (attr : String) :
    let indices := inputs.indices ["input", "weight"]
    let input := inputs.supplied reply "input" 0
    let weight := inputs.supplied reply "weight" 1
    let total := (indices.map fun i => input i * weight i).sum
    let weights := (indices.map weight).sum
    (blendWeighted inputs attr).run.result reply =
      if weightSumNames.contains (Text.lower attr) then .ok weights
      else if 0.5 ≤ inputs.node.literalAny normalizeNames (0 : ℚ) ∧
        Scalar.zeroTolerance < Scalar.abs weights then Scalar.divide? total weights
      else .ok total := by
  intro indices input weight total weights
  rw [blendWeighted, result_read_bind, result_weightedSum]
  simp only [zero_add]
  unfold weightSumNames
  split
  · rfl
  · unfold Inputs.option normalizeNames
    split <;> rfl

/-- Weights with a sum above the tolerance can be divided by. -/
theorem result_normalized {attr : String} {weights total : ℚ}
    (output : weightSumNames.contains (Text.lower attr) = false)
    (on : 0.5 ≤ inputs.node.literalAny normalizeNames (0 : ℚ)) (heavy : 1e-8 < weights)
    (isWeights : ((inputs.indices ["input", "weight"]).map
      (inputs.supplied reply "weight" 1)).sum = weights)
    (isTotal : ((inputs.indices ["input", "weight"]).map fun i =>
      inputs.supplied reply "input" 0 i * inputs.supplied reply "weight" 1 i).sum = total) :
    (blendWeighted inputs attr).run.result reply = .ok (total / weights) := by
  have positive : 0 < weights := lt_trans (by norm_num) heavy
  have magnitude : Scalar.abs weights = weights := abs_of_pos positive
  rw [result_blendWeighted, isWeights, isTotal, if_neg (Bool.eq_false_iff.mp output), magnitude,
    if_pos ⟨on, heavy⟩]
  exact Scalar.divide?_of_ne total (ne_of_gt positive)

theorem result_not_normalized {attr : String} {total : ℚ}
    (output : weightSumNames.contains (Text.lower attr) = false)
    (off : ¬ 0.5 ≤ inputs.node.literalAny normalizeNames (0 : ℚ))
    (isTotal : ((inputs.indices ["input", "weight"]).map fun i =>
      inputs.supplied reply "input" 0 i * inputs.supplied reply "weight" 1 i).sum = total) :
    (blendWeighted inputs attr).run.result reply = .ok total := by
  rw [result_blendWeighted, isTotal, if_neg (Bool.eq_false_iff.mp output),
    if_neg fun both => off both.1]

end Blend

/-! ### The same blend authored anew -/

/-- A second blend has the same indices and inputs, and its weights are multiples of the others. -/
structure Rescales (reply : String → ℚ) (factor : ℚ) (inputs inputs' : Inputs) : Prop where
  indices : inputs'.indices ["input", "weight"] = inputs.indices ["input", "weight"]
  input : ∀ i ∈ inputs.indices ["input", "weight"],
    inputs'.supplied reply "input" 0 i = inputs.supplied reply "input" 0 i
  weight : ∀ i ∈ inputs.indices ["input", "weight"],
    inputs'.supplied reply "weight" 1 i = factor * inputs.supplied reply "weight" 1 i

namespace Rescales

variable {reply : String → ℚ} {factor : ℚ} {inputs inputs' : Inputs}

theorem weights (h : Rescales reply factor inputs inputs') :
    ((inputs'.indices ["input", "weight"]).map (inputs'.supplied reply "weight" 1)).sum =
      factor *
        ((inputs.indices ["input", "weight"]).map (inputs.supplied reply "weight" 1)).sum := by
  rw [h.indices, List.map_congr_left h.weight, List.sum_map_mul_left]

theorem total (h : Rescales reply factor inputs inputs') :
    ((inputs'.indices ["input", "weight"]).map fun i =>
        inputs'.supplied reply "input" 0 i * inputs'.supplied reply "weight" 1 i).sum =
      factor * ((inputs.indices ["input", "weight"]).map fun i =>
        inputs.supplied reply "input" 0 i * inputs.supplied reply "weight" 1 i).sum := by
  rw [h.indices, ← List.sum_map_mul_left]
  refine congrArg List.sum (List.map_congr_left fun i member => ?_)
  rw [h.input i member, h.weight i member, mul_left_comm]

end Rescales

section Scenes

variable {nodes nodes' : List Node} {connections : List Connection} {node node' : Node}

theorem isArray_input : Attr.IsArray "input" := ⟨by decide, by decide, by decide⟩

theorem isArray_weight : Attr.IsArray "weight" := ⟨by decide, by decide, by decide⟩

theorem arrayName?_withoutDot_element {array : String} (isArray : Attr.IsArray array) (i : Int) :
    Attr.arrayName? (Attr.withoutDot (Attr.element array i)) = some array := by
  rw [Attr.withoutDot_element isArray.noDot]
  exact Attr.arrayName?_element isArray.named isArray.noDot isArray.noBracket i

/-- The indices of a node do not depend on the other nodes, nor on what its attributes hold. -/
theorem indices_congr (declared : node ∈ (Graph.ofRecords nodes connections).nodes)
    (declared' : node' ∈ (Graph.ofRecords nodes' connections).nodes) (name : node'.name = node.name)
    (mentions : ∀ array i, (∃ a ∈ node'.attributes, Attr.Mentions a.name array i) ↔
      ∃ a ∈ node.attributes, Attr.Mentions a.name array i) :
    Inputs.indices ⟨.ofRecords nodes' connections, node'⟩ ["input", "weight"] =
      Inputs.indices ⟨.ofRecords nodes connections, node⟩ ["input", "weight"] := by
  have same (array : String) (noDot : Attr.withoutDot array = array) :
      (Graph.ofRecords nodes' connections).arrayIndices node'.name array =
        (Graph.ofRecords nodes connections).arrayIndices node.name array := by
    refine Std.ExtTreeSet.ext_mem fun i => ?_
    rw [Inputs.mem_arrayIndices_iff_uses declared' noDot,
      Inputs.mem_arrayIndices_iff_uses declared noDot, Inputs.Uses, Inputs.Uses, mentions, name]
    rfl
  simp only [Inputs.indices, List.foldl_cons, List.foldl_nil, same "input" (by decide),
    same "weight" (by decide)]

/-- Weights that are all authored are multiplied in a node that is reweighted. -/
theorem rescales_of_reweighted (reply : String → ℚ) {factor : ℚ}
    (declared : node ∈ (Graph.ofRecords nodes connections).nodes)
    (declared' : node' ∈ (Graph.ofRecords nodes' connections).nodes)
    (h : node.Reweighted factor node')
    (authored : ∀ i ∈ Inputs.indices ⟨.ofRecords nodes connections, node⟩ ["input", "weight"],
      Inputs.source? ⟨.ofRecords nodes connections, node⟩ (Attr.element "weight" i) = none ∧
        (node.literal? (α := ℚ) (Attr.element "weight" i)).isSome = true) :
    Rescales reply factor ⟨.ofRecords nodes connections, node⟩
      ⟨.ofRecords nodes' connections, node'⟩ where
  indices := indices_congr declared declared' h.name fun _ _ => h.mentions_iff
  input i _ := by
    have kept : node'.literal? (α := ℚ) (Attr.element "input" i) =
        node.literal? (Attr.element "input" i) :=
      h.literal?_of_ne (by simp [arrayName?_withoutDot_element isArray_input])
    simp only [Inputs.supplied, Inputs.source?, Inputs.plug, h.name, kept]
    rfl
  weight i member := by
    obtain ⟨free, some⟩ := authored i member
    obtain ⟨number, written⟩ := Option.isSome_iff_exists.mp some
    have scaled := h.literal?_weight (arrayName?_withoutDot_element isArray_weight i)
    -- Both scenes have the same connections, so the weight is not connected here either.
    have free' : Inputs.source? ⟨.ofRecords nodes' connections, node'⟩ (Attr.element "weight" i) =
        none := by
      rw [← free]
      simp only [Inputs.source?, Inputs.plug, h.name]
      rfl
    simp only [Inputs.supplied, free, free', scaled, written, Option.map_some, Option.getD_some]
    rfl

/-- Settings are no elements. -/
theorem rescales_of_agreesBut (reply : String → ℚ)
    (declared : node ∈ (Graph.ofRecords nodes connections).nodes)
    (declared' : node' ∈ (Graph.ofRecords nodes' connections).nodes)
    (h : node.AgreesBut normalizeNames node') :
    Rescales reply 1 ⟨.ofRecords nodes connections, node⟩
      ⟨.ofRecords nodes' connections, node'⟩ := by
  have plain : ∀ name ∈ normalizeNames, Attr.arrayName? name = none := by decide
  have kept {array : String} (isArray : Attr.IsArray array) (fallback : ℚ) (i : Int) :
      Inputs.supplied ⟨.ofRecords nodes' connections, node'⟩ reply array fallback i =
        Inputs.supplied ⟨.ofRecords nodes connections, node⟩ reply array fallback i := by
    have same : node'.literal? (α := ℚ) (Attr.element array i) =
        node.literal? (Attr.element array i) := by
      refine congrArg (Option.bind · Attribute.value?) (h.find?
        (p := (· == Attr.withoutDot (Attr.element array i))) fun name setting => ?_)
      rw [beq_eq_false_iff_ne]
      rintro rfl
      exact absurd (plain _ setting) (by simp [arrayName?_withoutDot_element isArray])
    simp only [Inputs.supplied, Inputs.source?, Inputs.plug, h.name, same]
    rfl
  exact
    { indices := indices_congr declared declared' h.name fun _ _ => h.mentions_iff plain
      input := fun i _ => kept isArray_input 0 i
      weight := fun i _ => (kept isArray_weight 1 i).trans (one_mul _).symm }

end Scenes

/-- A normalized blend with weights that are not negative is a mean of its inputs. It does not
change when all weights are written down and multiplied by one factor, and the sum of the weights
times the mean is what the blend gives when it is not normalized. -/
theorem blendWeighted_mean (nodes : List Node) (connections : List Connection) (node : Node)
    (reply : String → ℚ) (attr sumAttr : String) :
    let inputs : Inputs := ⟨.ofRecords nodes connections, node⟩
    let indices := inputs.indices ["input", "weight"]
    let input := inputs.supplied reply "input" 0
    let weight := inputs.supplied reply "weight" 1
    let weightSum := (indices.map weight).sum
    let normalizes (node : Node) : Prop := 0.5 ≤ node.literalAny normalizeNames (0 : ℚ)
    let result (inputs : Inputs) (attr : String) := (blendWeighted inputs attr).run.result reply
    node ∈ inputs.graph.nodes →
    weightSumNames.contains (Text.lower attr) = false →
    weightSumNames.contains (Text.lower sumAttr) = true →
    (∀ i ∈ indices, 0 ≤ weight i) → 1e-8 < weightSum → normalizes node →
    (indices.Pairwise (· < ·) ∧
      ∀ i, i ∈ indices ↔ inputs.Uses "input" i ∨ inputs.Uses "weight" i) ∧
    ∃ mean, result inputs attr = .ok mean ∧ result inputs sumAttr = .ok weightSum ∧
      (∃ low ∈ indices.map input, ∃ high ∈ indices.map input,
        (∀ i ∈ indices, low ≤ input i ∧ input i ≤ high) ∧ low ≤ mean ∧ mean ≤ high) ∧
      (∀ nodes' node' factor, node' ∈ (Graph.ofRecords nodes' connections).nodes →
        node.Reweighted factor node' →
        (∀ i ∈ indices, inputs.source? (Attr.element "weight" i) = none ∧
          (node.literal? (α := ℚ) (Attr.element "weight" i)).isSome = true) →
        0 < factor → 1e-8 < factor * weightSum →
        result ⟨.ofRecords nodes' connections, node'⟩ attr = .ok mean) ∧
      ∀ nodes' node', node' ∈ (Graph.ofRecords nodes' connections).nodes →
        node.AgreesBut normalizeNames node' → ¬ normalizes node' →
        result ⟨.ofRecords nodes' connections, node'⟩ attr = .ok (mean * weightSum) := by
  intro inputs indices input weight weightSum normalizes result declared output sum nonneg heavy on
  have positive : 0 < weightSum := lt_trans (by norm_num) heavy
  refine ⟨⟨inputs.indices_pairwise_lt _, fun i => ?_⟩,
    (indices.map fun i => input i * weight i).sum / weightSum,
    result_normalized inputs reply output on heavy rfl rfl,
    (result_blendWeighted inputs reply sumAttr).trans (if_pos sum),
    weightedMean_between nonneg positive, ?_, ?_⟩
  · rw [Inputs.mem_indices, List.exists_mem_cons_iff, List.exists_mem_cons_iff]
    simp only [List.not_mem_nil, false_and, exists_const, or_false]
    exact or_congr (Inputs.mem_arrayIndices_iff_uses declared (by decide))
      (Inputs.mem_arrayIndices_iff_uses declared (by decide))
  · intro nodes' node' factor declared' reweighted authored factorPos heavy'
    have rescales := rescales_of_reweighted reply declared declared' reweighted authored
    have on' : 0.5 ≤ node'.literalAny normalizeNames (0 : ℚ) := by
      rw [reweighted.literalAny_of_ne (by decide)]
      exact on
    have same := result_normalized ⟨.ofRecords nodes' connections, node'⟩ reply output on' heavy'
      rescales.weights rescales.total
    rwa [mul_div_mul_left _ _ (ne_of_gt factorPos)] at same
  · intro nodes' node' declared' agrees off
    have rescales := rescales_of_agreesBut reply declared declared' agrees
    rw [div_mul_cancel₀ _ (ne_of_gt positive)]
    exact result_not_normalized ⟨.ofRecords nodes' connections, node'⟩ reply output off
      (rescales.total.trans (one_mul _))

/-- An authored input, a connected one and none at all, with a weight for each of them. -/
theorem blendWeighted_mean_three :
    let authored (first second third normalize : String) : Node := ⟨"b", "blendWeighted",
      [⟨"input[0]", ["3"]⟩, ⟨"weight[0]", [first]⟩, ⟨"weight[2]", [second]⟩,
        ⟨"weight[5]", [third]⟩, ⟨"normalizeWeights", [normalize]⟩]⟩
    let result (node : Node) :=
      (blendWeighted ⟨.ofRecords [node] [⟨"a.tx", "b.input[2]", false⟩], node⟩ "output").run.result
        fun _ => (2 : ℚ)
    ∃ mean, result (authored "1" "0.5" "2" "1") = .ok mean ∧ 0 ≤ mean ∧ mean ≤ 3 ∧
      result (authored "2" "1" "4" "1") = .ok mean ∧
      result (authored "1" "0.5" "2" "0") = .ok (mean * 3.5) := by
  intro authored result
  let node := authored "1" "0.5" "2" "1"
  let inputs : Inputs := ⟨.ofRecords [node] [⟨"a.tx", "b.input[2]", false⟩], node⟩
  have given : (inputs.indices ["input", "weight"]).map
      (inputs.supplied (fun _ => (2 : ℚ)) "input" 0) = [3, 2, 0] := by decide +kernel
  have weightSum : ((inputs.indices ["input", "weight"]).map
      (inputs.supplied (fun _ => (2 : ℚ)) "weight" 1)).sum = 3.5 := by decide +kernel
  have heavier : node.Reweighted 2 (authored "2" "1" "4" "1") :=
    ⟨rfl, .cons (by decide +kernel) <| .cons (by decide +kernel) <| .cons (by decide +kernel) <|
      .cons (by decide +kernel) <| .cons (by decide +kernel) .nil⟩
  have plain : node.AgreesBut normalizeNames (authored "1" "0.5" "2" "0") :=
    ⟨rfl, by decide +kernel⟩
  obtain ⟨-, mean, run, -, ⟨low, hasLow, high, hasHigh, -, above, below⟩, scaled, off⟩ :=
    blendWeighted_mean [node] [⟨"a.tx", "b.input[2]", false⟩] node (fun _ => 2) "output"
      "weightSum" (by decide +kernel) (by decide +kernel) (by decide +kernel)
      (by decide +kernel) (by decide +kernel) (by decide +kernel)
  have nonneg : ∀ x ∈ [(3 : ℚ), 2, 0], 0 ≤ x ∧ x ≤ 3 := by decide +kernel
  refine ⟨mean, run, ?_, ?_, ?_, ?_⟩
  · exact (nonneg low (given ▸ hasLow)).1.trans above
  · exact below.trans (nonneg high (given ▸ hasHigh)).2
  · exact scaled [authored "2" "1" "4" "1"] _ 2 (by decide +kernel) heavier (by decide +kernel)
      (by decide +kernel) (by decide +kernel)
  · rw [← weightSum]
    exact off [authored "1" "0.5" "2" "0"] _ (by decide +kernel) plain (by decide +kernel)

end Formula

end PlugGraph
