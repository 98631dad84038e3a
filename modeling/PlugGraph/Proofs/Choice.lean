import PlugGraph.Eval.Formula
import PlugGraph.Number.Double
import PlugGraph.Proofs.Elements
import PlugGraph.Proofs.Records

/-!
# The element that a choice picks

Where the elements of an array are written under the names that their indices give them, those that
exist are those whose indices are in use: `Inputs.Plain.hasElement_iff`. A choice picks the element
at the selected index. If there is none, it takes the selector for a position among the indices in
use, and positions are indices only where those begin at zero and have no gaps.
-/

namespace PlugGraph

namespace Attr

/-- The name of an array, which stands in front of the bracket in those of its elements. -/
structure IsArray (array : String) : Prop where
  named : array ≠ ""
  noDot : array.toList.head? ≠ some '.'
  noBracket : '[' ∉ array.toList

/-- The name that an index gives to an element of an array, from which that index is read. -/
def IsElement (array name : String) : Prop :=
  ∃ i : Nat, name = element array i ∧ index? name = some ↑i

namespace IsArray

variable {array : String} {i : Int}

theorem withoutDot (h : IsArray array) : Attr.withoutDot array = array :=
  withoutDot_eq_self h.noDot

/-- The index that is read from the name of an element is that of the element. -/
theorem eq_of_isElement (h : IsArray array) (element : IsElement array (element array i)) :
    0 ≤ i ∧ Attr.Mentions (Attr.element array i) array i := by
  obtain ⟨n, -, counted⟩ := element
  have same : i = n := by
    have read := counted
    rw [index?_element h.noBracket, Option.ite_none_right_eq_some] at read
    exact Option.some.inj read.2
  exact ⟨by omega, arrayName?_element h.named h.noDot h.noBracket i, same ▸ counted⟩

end IsArray

/-- An element is known by the index in its name. -/
theorem IsElement.eq_element {array name : String} {i : Int} (h : IsElement array name)
    (mentions : Mentions name array i) : name = element array i := by
  obtain ⟨n, rfl, counted⟩ := h
  rw [Option.some.inj (counted.symm.trans mentions.2)]

end Attr

namespace Plug

/-- A normalized text is that of the plug it splits into. -/
theorem eq_text_of_ofText? {text : String} {plug : Plug} (fixed : normalize text = text)
    (split : ofText? text = some plug) : text = plug.text := by
  have chars := normalizeChars_of_normalize fixed
  simp only [ofText?, chars, Option.ite_none_left_eq_some, Option.some.injEq, Bool.or_eq_true,
    List.isEmpty_iff, not_or] at split
  obtain ⟨⟨-, notEmpty⟩, rfl⟩ := split
  obtain ⟨c, rest, tail⟩ := List.exists_cons_of_ne_nil fun none =>
    notEmpty (congrArg (List.drop 1) none)
  have dot : c = '.' := by
    have stops := List.head?_dropWhile_not (· != '.') text.toList
    simpa [tail] using stops
  have whole := text.toList.takeWhile_append_dropWhile (p := (· != '.'))
  rw [tail, dot] at whole
  rw [Plug.text, join, tail, ← String.toList_inj]
  simpa using whole.symm

end Plug

section Positions

variable {indices : List Int}

theorem getElem_le_getElem (ascending : indices.Pairwise (· < ·)) {j k : Nat}
    (inside : k < indices.length) (le : j ≤ k) : indices[j] ≤ indices[k] := by
  rcases Nat.lt_or_eq_of_le le with before | rfl
  · exact Int.le_of_lt <|
      List.pairwise_iff_getElem.mp ascending j k (before.trans inside) inside before
  · exact Int.le_refl _

/-- In a strictly ascending list of indices, none is below its position. -/
theorem le_getElem (ascending : indices.Pairwise (· < ·)) (nonneg : ∀ i ∈ indices, 0 ≤ i) {k : Nat}
    (inside : k < indices.length) : k ≤ indices[k] := by
  induction k with
  | zero => exact nonneg _ (List.getElem_mem inside)
  | succ k ih =>
    have before : k < indices.length := Nat.lt_of_succ_lt inside
    have step : indices[k] < indices[k + 1] :=
      List.pairwise_iff_getElem.mp ascending k (k + 1) before inside k.lt_succ_self
    have := ih before
    omega

/-- What stands at a position of a strictly ascending list of indices, or at the last one if the
list is too short: the highest index if all are below the position, and the lowest only at the first
position. -/
theorem exists_getElem?_min (ascending : indices.Pairwise (· < ·)) (nonneg : ∀ i ∈ indices, 0 ≤ i)
    (notEmpty : indices ≠ []) (p : Nat) :
    ∃ chosen ∈ indices, indices[min p (indices.length - 1)]? = some chosen ∧
      ((∀ i ∈ indices, i < p) → ∀ i ∈ indices, i ≤ chosen) ∧
      ((∀ i ∈ indices, chosen ≤ i) ↔ p = 0 ∨ ∀ i ∈ indices, i = chosen) := by
  have long : 0 < indices.length := List.length_pos_of_ne_nil notEmpty
  have inside : min p (indices.length - 1) < indices.length := by omega
  refine ⟨_, List.getElem_mem inside, List.getElem?_eq_getElem inside, ?_, ?_, ?_⟩
  · intro below i member
    obtain ⟨k, within, rfl⟩ := List.getElem_of_mem member
    have last : indices.length - 1 < indices.length := by omega
    have high := le_getElem ascending nonneg last
    have under := below _ (List.getElem_mem last)
    exact getElem_le_getElem ascending inside (by omega)
  · intro lowest
    rcases Nat.eq_zero_or_pos (min p (indices.length - 1)) with first | later
    · refine or_iff_not_imp_left.mpr fun later i member => ?_
      obtain ⟨k, within, rfl⟩ := List.getElem_of_mem member
      obtain rfl : k = min p (indices.length - 1) := by omega
      rfl
    · have low := lowest _ (List.getElem_mem long)
      have below := List.pairwise_iff_getElem.mp ascending 0 _ long inside later
      omega
  · rintro (rfl | only) i member
    · obtain ⟨k, within, rfl⟩ := List.getElem_of_mem member
      exact getElem_le_getElem ascending within (by omega)
    · exact Int.le_of_eq (only i member).symm

end Positions

namespace Inputs

variable {α : Type} [Scalar α] {inputs : Inputs} {array : String}

theorem mem_indices {arrays : List String} {i : Int} :
    i ∈ inputs.indices arrays ↔
      ∃ array ∈ arrays, i ∈ inputs.graph.arrayIndices inputs.node.name array := by
  have found (used : Std.ExtTreeSet Int) :
      i ∈ arrays.foldl (fun found array =>
        found ∪ inputs.graph.arrayIndices inputs.node.name array) used ↔
      i ∈ used ∨ ∃ array ∈ arrays, i ∈ inputs.graph.arrayIndices inputs.node.name array := by
    induction arrays generalizing used with
    | nil => simp
    | cons array rest ih =>
      rw [List.foldl_cons, ih, Std.ExtTreeSet.mem_union_iff, or_assoc]
      simp only [List.mem_cons, exists_eq_or_imp]
  rw [indices, Std.ExtTreeSet.mem_toList, found]
  simp

theorem indices_pairwise_lt (inputs : Inputs) (arrays : List String) :
    (inputs.indices arrays).Pairwise (· < ·) :=
  Std.ExtTreeSet.ordered_toList.imp Std.compare_eq_lt.mp

/-- The elements of an array of a node are authored as numbers or connected, each under the name
that its index gives to it. -/
structure Plain (α : Type) [Scalar α] (inputs : Inputs) (array : String) : Prop where
  connected : ∀ c ∈ inputs.graph.connections, ∀ plug, Plug.ofText? c.target = some plug →
    plug.node = inputs.node.name → Attr.arrayName? plug.attr = some array →
    Plug.normalize c.target = c.target ∧ Attr.IsElement array plug.attr
  authored : ∀ a ∈ inputs.node.attributes, Attr.arrayName? a.name = some array →
    Attr.IsElement array a.name ∧ (a.value? (α := α)).isSome = true

namespace Plain

variable {nodes : List Node} {connections : List Connection} {node : Node}

/-- A connection drives an element if it mentions the element in its target. -/
theorem isSome_source?_iff (h : Plain α ⟨.ofRecords nodes connections, node⟩ array)
    (isArray : Attr.IsArray array) (isNode : Plug.IsNode node.name) {i : Int} :
    (source? ⟨.ofRecords nodes connections, node⟩ (Attr.element array i)).isSome = true ↔
      ∃ c ∈ (Graph.ofRecords nodes connections).connections, ∃ target,
        Plug.ofText? c.target = some target ∧ target.node = node.name ∧
          Attr.Mentions target.attr array i := by
  obtain ⟨text, splits⟩ := Plug.ofText?_named isNode (Attr.isPlain_element array i)
  have plain := Attr.withoutDot_element isArray.noDot i
  constructor
  · intro driven
    obtain ⟨source, driven⟩ := Option.isSome_iff_exists.mp driven
    obtain ⟨c, kept, leads, -⟩ := Graph.exists_connection_of_incoming? driven
    have split : Plug.ofText? c.target = some ⟨node.name, Attr.element array i⟩ := by
      rw [leads, Inputs.plug, text, splits, plain]
    have named := Attr.arrayName?_element isArray.named isArray.noDot isArray.noBracket i
    have element := (h.connected c kept _ split rfl named).2
    exact ⟨c, kept, _, split, rfl, (isArray.eq_of_isElement element).2⟩
  · rintro ⟨c, kept, target, split, same, mentions⟩
    obtain ⟨fixed, element⟩ := h.connected c kept target split same mentions.1
    have text : c.target = Inputs.plug ⟨.ofRecords nodes connections, node⟩
        (Attr.element array i) := by
      rw [Plug.eq_text_of_ofText? fixed split, Plug.text, element.eq_element mentions, same,
        Inputs.plug, Plug.named, plain]
    rw [source?, ← text]
    exact Graph.isSome_incoming?_of_mem kept fixed.symm

/-- A number is authored for an element if an attribute mentions the element in its name. -/
theorem isSome_literal?_iff {graph : Graph} (h : Plain α ⟨graph, node⟩ array)
    (isArray : Attr.IsArray array) {i : Int} :
    (node.literal? (α := α) (Attr.element array i)).isSome = true ↔
      ∃ a ∈ node.attributes, Attr.Mentions a.name array i := by
  have plain := Attr.withoutDot_element isArray.noDot i
  constructor
  · intro authored
    obtain ⟨value, read⟩ := Option.isSome_iff_exists.mp authored
    obtain ⟨a, found, -⟩ := Option.bind_eq_some_iff.mp read
    have name : a.name = Attr.element array i := by
      simpa [plain] using List.find?_some found
    have named := Attr.arrayName?_element isArray.named isArray.noDot isArray.noBracket i
    have member := List.mem_of_find?_eq_some found
    have element := (h.authored a member (name ▸ named)).1
    exact ⟨a, member, name ▸ (isArray.eq_of_isElement (name ▸ element)).2⟩
  · rintro ⟨a, member, mentions⟩
    have name := (h.authored a member mentions.1).1.eq_element mentions
    -- The attribute that counts is the first one of this name.
    obtain ⟨first, found⟩ : ∃ first, node.attribute? (Attr.element array i) = some first := by
      refine Option.isSome_iff_exists.mp (List.find?_isSome.mpr ⟨a, member, ?_⟩)
      rw [plain, name, beq_self_eq_true]
    have same : first.name = a.name := by
      simpa [plain, name] using List.find?_some found
    rw [Node.literal?, found, Option.bind_some]
    exact (h.authored first (List.mem_of_find?_eq_some found) (same ▸ mentions.1)).2

/-- The elements that exist are those whose indices are in use. -/
theorem hasElement_iff (h : Plain α ⟨.ofRecords nodes connections, node⟩ array)
    (isArray : Attr.IsArray array) (isNode : Plug.IsNode node.name)
    (declared : node ∈ (Graph.ofRecords nodes connections).nodes) {i : Int} :
    hasElement α ⟨.ofRecords nodes connections, node⟩ array i = true ↔
      i ∈ indices ⟨.ofRecords nodes connections, node⟩ [array] := by
  simp only [mem_indices, List.mem_singleton, exists_eq_left,
    Graph.mem_arrayIndices_of_mem declared, isArray.withoutDot, hasElement, Bool.or_eq_true]
  exact or_congr (h.isSome_source?_iff isArray isNode) (h.isSome_literal?_iff isArray)

theorem nonneg_of_hasElement (h : Plain α ⟨.ofRecords nodes connections, node⟩ array)
    (isArray : Attr.IsArray array) (isNode : Plug.IsNode node.name) {i : Int}
    (present : hasElement α ⟨.ofRecords nodes connections, node⟩ array i = true) : 0 ≤ i := by
  rcases Bool.or_eq_true_iff.mp present with driven | authored
  · obtain ⟨c, kept, target, split, same, mentions⟩ :=
      (h.isSome_source?_iff isArray isNode).mp driven
    have element := (h.connected c kept target split same mentions.1).2
    exact (isArray.eq_of_isElement (element.eq_element mentions ▸ element)).1
  · obtain ⟨a, member, mentions⟩ := (h.isSome_literal?_iff isArray).mp authored
    have element := (h.authored a member mentions.1).1
    exact (isArray.eq_of_isElement (element.eq_element mentions ▸ element)).1

end Plain

end Inputs

namespace Formula

variable {α : Type} {reply : String → α}

theorem result_read {ω : Type} (reading : Reading α ω) :
    (read reading).run.result reply = .ok (reading.result reply) :=
  Dialogue.result_bind reply reading _

theorem result_read_bind {ω υ : Type} (reading : Reading α ω) (next : ω → Formula α υ) :
    (read reading >>= next).run.result reply = (next (reading.result reply)).run.result reply := by
  refine (Dialogue.result_bind reply _ _).trans ?_
  rw [show Dialogue.result reply (read reading) = _ from result_read reading]
  rfl

theorem run_read_bind {ω υ : Type} (reading : Reading α ω) (next : ω → Formula α υ) :
    (read reading >>= next).run = reading.bind fun result => (next result).run :=
  Dialogue.bind_assoc reading _ _

theorem ok_bind {ω υ : Type} (result : ω) (next : ω → Formula α υ) :
    (liftM (Except.ok result : Except Fault ω) >>= next : Formula α υ) = next result := rfl

variable [Scalar α]

/-- Where the selector rounds to an index, a choice is what it makes of that index. -/
theorem result_choice_of_selected {inputs : Inputs} {index : Int}
    (selected : max 0 <$> Scalar.round?
      ((inputs.value ["selector", "sel", "index"]).result reply) = .ok index) :
    (choice inputs).run.result reply =
      (if inputs.hasElement α "input" index then read (inputs.element "input" index 0)
        else
          let indices := inputs.indices ["input"]
          match indices[min index.toNat (indices.length - 1)]? with
          | some chosen => read (inputs.element "input" chosen 0)
          | none => return 0 : Formula α α).run.result reply := by
  rw [choice, result_read_bind]
  generalize Scalar.round? (α := α) _ = rounded at selected ⊢
  cases rounded with
  | error => cases selected
  | ok nearest =>
    obtain rfl : max 0 nearest = index := Except.ok.inj selected
    rfl

/-- The value is that of the element that is picked. -/
theorem result_choice {inputs : Inputs} {index chosen : Int}
    (selected : max 0 <$> Scalar.round?
      ((inputs.value ["selector", "sel", "index"]).result reply) = .ok index)
    (picked : let indices := inputs.indices ["input"]
      inputs.hasElement α "input" index = true ∧ chosen = index ∨
        inputs.hasElement α "input" index = false ∧
          indices[min index.toNat (indices.length - 1)]? = some chosen) :
    (choice inputs).run.result reply = .ok ((inputs.element "input" chosen 0).result reply) := by
  rw [result_choice_of_selected selected]
  rcases picked with ⟨present, rfl⟩ | ⟨absent, found⟩
  · simp only [present, if_true]
    rw [result_read]
  · simp only [absent, Bool.false_eq_true, if_false, found]
    rw [result_read]

/-- The value is zero if there is nothing to pick. -/
theorem result_choice_of_unused {inputs : Inputs} {index : Int}
    (selected : max 0 <$> Scalar.round?
      ((inputs.value ["selector", "sel", "index"]).result reply) = .ok index)
    (absent : inputs.hasElement α "input" index = false) (unused : inputs.indices ["input"] = []) :
    (choice inputs).run.result reply = .ok 0 := by
  rw [result_choice_of_selected selected]
  simp only [absent, Bool.false_eq_true, if_false, unused]
  rfl

/-- The element at the selected index is chosen if it exists, and the one of the highest index if
all are below. In a gap and below all of them the selector counts as a position, so the element of
the lowest index is chosen only if the selector is zero or there is no other element. -/
theorem choice_picks (nodes : List Node) (connections : List Connection) (node : Node)
    (reply : String → α) :
    let inputs : Inputs := ⟨.ofRecords nodes connections, node⟩
    let selector : α := (inputs.value ["selector", "sel", "index"]).result reply
    let s := max 0 (Scalar.round selector)
    let present (i : Int) : Prop := inputs.hasElement α "input" i = true
    node ∈ inputs.graph.nodes → Plug.IsNode node.name → inputs.Plain α "input" →
    (∃ i, present i) → Scalar.isFinite selector = true →
    ∃ chosen, present chosen ∧
      (choice inputs).run.result reply = .ok ((inputs.element "input" chosen 0).result reply) ∧
      (present s → chosen = s) ∧
      ((∀ i, present i → i < s) → ∀ i, present i → i ≤ chosen) ∧
      (¬ present s → ((∀ i, present i → chosen ≤ i) ↔ s = 0 ∨ ∀ i, present i → i = chosen)) := by
  intro inputs selector s present declared isNode plain some finite
  have isArray : Attr.IsArray "input" := ⟨by decide, by decide, by decide⟩
  have listed {i : Int} : present i ↔ i ∈ inputs.indices ["input"] :=
    plain.hasElement_iff isArray isNode declared
  have ascending := inputs.indices_pairwise_lt ["input"]
  have nonneg {i : Int} (h : present i) : 0 ≤ i := plain.nonneg_of_hasElement isArray isNode h
  have selected : max 0 <$> Scalar.round? selector = .ok s := by
    rw [Scalar.round?, Scalar.toInteger, Option.isNone_iff_eq_none.mp finite]
    rfl
  obtain ⟨i, existing⟩ := some
  obtain ⟨chosen, member, found, highest, lowest⟩ := exists_getElem?_min ascending
    (fun i member => nonneg (listed.mpr member)) (List.ne_nil_of_mem (listed.mp existing)) s.toNat
  simp only [← listed] at member highest lowest
  have position : (s.toNat : Int) = s := Int.toNat_of_nonneg (Int.le_max_left 0 _)
  by_cases there : present s
  · refine ⟨s, there, result_choice selected (.inl ⟨there, rfl⟩), fun _ => rfl, ?_, ?_⟩
    · exact fun below => absurd (below s there) (Int.lt_irrefl s)
    · exact fun absent => absurd there absent
  · refine ⟨chosen, member, result_choice selected (.inr ⟨Bool.eq_false_iff.mpr there, found⟩),
      fun present => absurd present there, ?_, fun _ => ?_⟩
    · rwa [position] at highest
    · rw [lowest, ← Int.ofNat_eq_zero, position]

/-- Two authored elements and a connected one, with gaps between them. -/
theorem choice_picks_sparse :
    let node : Node := ⟨"c", "choice",
      [⟨"input[2]", ["20"]⟩, ⟨"input[4]", ["40"]⟩, ⟨"selector", ["4.25"]⟩]⟩
    let inputs : Inputs := ⟨.ofRecords [node] [⟨"a.x", "c.input[6]", false⟩], node⟩
    let reply : String → Float := fun _ => 60
    (choice inputs).run.result reply = .ok ((inputs.element "input" 4 0).result reply) := by
  intro node inputs reply
  have isNode : Plug.IsNode "c" := ⟨⟨'c', by decide, by decide⟩, by decide⟩
  have kept : inputs.graph.connections = [⟨"a.x", "c.input[6]", false⟩] := by decide +kernel
  have element (i : Nat) (named : Attr.index? (Attr.element "input" i) = some ↑i) :
      Attr.IsElement "input" (Attr.element "input" i) := ⟨i, rfl, named⟩
  have plain : inputs.Plain Float "input" :=
    { connected := by
        rw [kept]
        rintro c member target split - -
        obtain rfl := List.mem_singleton.mp member
        obtain rfl : (⟨"c", "input[6]"⟩ : Plug) = target :=
          Option.some.inj ((by decide +kernel : some _ = Plug.ofText? "c.input[6]").trans split)
        exact ⟨by decide +kernel, element 6 (by decide +kernel)⟩
      authored := by
        simp only [inputs, node, List.forall_mem_cons]
        exact ⟨fun _ => ⟨element 2 (by decide +kernel), by decide +kernel⟩,
          fun _ => ⟨element 4 (by decide +kernel), by decide +kernel⟩,
          fun named => absurd named (by decide +kernel), List.forall_mem_nil _⟩ }
  obtain ⟨chosen, -, run, exactly, -⟩ := choice_picks [node] [⟨"a.x", "c.input[6]", false⟩] node
    reply (by decide +kernel) isNode plain ⟨2, by decide +kernel⟩ (by decide +kernel)
  obtain rfl : chosen = 4 := (exactly (by decide +kernel)).trans (by decide +kernel)
  exact run

/-- Of the indices 5 to 7, the selector 1 picks the second one. -/
theorem choice_ne_lowest :
    let node : Node := ⟨"c", "choice", [⟨"input[5]", ["50"]⟩, ⟨"input[6]", ["60"]⟩,
      ⟨"input[7]", ["70"]⟩, ⟨"selector", ["1"]⟩]⟩
    let inputs : Inputs := ⟨.ofRecords [node] [], node⟩
    let reply : String → Float := fun _ => 0
    let selector : Float := (inputs.value ["selector", "sel", "index"]).result reply
    max 0 (Scalar.round selector) = 1 ∧ inputs.indices ["input"] = [5, 6, 7] ∧
      (choice inputs).run.result reply ≠ .ok ((inputs.element "input" 5 0).result reply) := by
  intro node inputs reply selector
  refine ⟨by decide +kernel, by decide +kernel, fun same => ?_⟩
  exact absurd (congrArg (fun value => value.toOption.map (· == 50)) same) (by decide +kernel)

end Formula

end PlugGraph
