import PlugGraph.Proofs.Choice

/-!
# Indices in use and the elements behind them

The indices in use in an array are those that the names of attributes mention, declared ones and
driven ones. The name of an element mentions its index, so no element is lost whose numeral can be
read: `Graph.elements_listed`. Other names mention indices as well: a range its first one, the child
of an element that of the element. A look-up asks for the name of the element, so an index in use
can be read where it comes from the name of an element: `Graph.readable_of_mem_arrayIndices`.
-/

namespace PlugGraph

namespace Attr

theorem withoutDot_element_eq (array : String) (i : Int) :
    withoutDot (element array i) = element (withoutDot array) i := by
  rw [← String.toList_inj, toList_element, withoutDot, withoutDot, String.toList_ofList,
    String.toList_ofList, toList_element]
  cases array.toList with
  | nil => rfl
  | cons c rest =>
    by_cases dot : c = '.'
    · subst dot
      rfl
    · simp [dropDot, dot]

/-- The name of an element mentions its index, unless its numeral is too long. -/
theorem mentions_element {array : String} (isArray : IsArray array) {i : Int}
    (short : (Nat.toDigits 10 i.natAbs).length ≤ Numeral.integerDigitLimit) :
    Mentions (element array i) array i := by
  constructor
  · exact arrayName?_element isArray.named isArray.noDot isArray.noBracket i
  · rw [index?_element isArray.noBracket, if_pos short]

/-- An index whose numeral is too long is not mentioned by the name of its element. -/
theorem not_mentions_element {array array' : String} (noBracket : '[' ∉ array.toList) {i i' : Int}
    (long : Numeral.integerDigitLimit < (Nat.toDigits 10 i.natAbs).length) :
    ¬ Mentions (element array i) array' i' := by
  rintro ⟨-, read⟩
  rw [index?_element noBracket, if_neg (Nat.not_le.mpr long)] at read
  cases read

end Attr

namespace Graph

theorem arrayIndices_pairwise_lt (graph : Graph) (name array : String) :
    (graph.arrayIndices name array).toList.Pairwise (· < ·) :=
  Std.ExtTreeSet.ordered_toList.imp Std.compare_eq_lt.mp

/-- The names of a node and of an array of it, as the text of a plug joins them. -/
structure IsArrayOf (name array : String) : Prop where
  named : name ≠ ""
  noDot : '.' ∉ name.toList
  isArray : Attr.IsArray array
  fixed : Plug.normalize (Plug.join name array) = Plug.join name array

/-- The element of an array that an index names is connected, or declared by the first record of
the node's name. -/
def ElementGiven (nodes : List Node) (connections : List Connection) (name array : String)
    (i : Int) : Prop :=
  (∃ c ∈ (ofRecords nodes connections).connections,
    c.target = Plug.join name (Attr.element array i)) ∨
  ∃ node, nodes.find? (·.name == name) = some node ∧
    ∃ a ∈ node.attributes, a.name = Attr.element array i

variable {nodes : List Node} {connections : List Connection} {name array : String} {i : Int}

/-- No element is lost whose index can be read. -/
theorem mem_arrayIndices_of_elementGiven (h : IsArrayOf name array)
    (short : (Nat.toDigits 10 i.natAbs).length ≤ Numeral.integerDigitLimit)
    (given : ElementGiven nodes connections name array i) :
    i ∈ (ofRecords nodes connections).arrayIndices name array := by
  have mentions : Attr.Mentions (Attr.element array i) (Attr.withoutDot array) i := by
    rw [h.isArray.withoutDot]
    exact Attr.mentions_element h.isArray short
  rw [mem_arrayIndices]
  rcases given with ⟨c, kept, leads⟩ | ⟨node, first, a, member, named⟩
  · left
    have isNode : Plug.IsNode name := Plug.isNode_of_join h.fixed h.named h.noDot
    have plain : Attr.withoutDot (Attr.element array i) = Attr.element array i :=
      Attr.withoutDot_element h.isArray.noDot i
    have splits : Plug.ofText? c.target = some ⟨name, Attr.element array i⟩ := by
      have parts := (Plug.ofText?_named isNode (Attr.isPlain_element array i)).2
      rwa [Plug.named, plain, ← leads] at parts
    exact ⟨c, kept, _, splits, rfl, mentions⟩
  · right
    have counts : node ∈ keepFirst ∅ nodes := mem_keepFirst_of_find? h.named (by simp) first
    have same : node.name = name := by simpa using List.find?_some first
    exact ⟨node, counts, same, a, member, named ▸ mentions⟩

/-- No element is lost whose index can be read, and indices are listed in strictly ascending
order, those of several arrays as one list. -/
theorem elements_listed (nodes : List Node) (connections : List Connection) :
    let graph := ofRecords nodes connections
    (∀ name array i, IsArrayOf name array →
      (Nat.toDigits 10 i.natAbs).length ≤ Numeral.integerDigitLimit →
      ElementGiven nodes connections name array i → i ∈ graph.arrayIndices name array) ∧
    (∀ name array, (graph.arrayIndices name array).toList.Pairwise (· < ·)) ∧
    ∀ node arrays,
      let indices := Inputs.indices ⟨graph, node⟩ arrays
      indices.Pairwise (· < ·) ∧
        ∀ i, i ∈ indices ↔ ∃ array ∈ arrays, i ∈ graph.arrayIndices node.name array := by
  intro graph
  refine ⟨?_, ?_, ?_⟩
  · intro name array i isArray short given
    exact mem_arrayIndices_of_elementGiven isArray short given
  · exact graph.arrayIndices_pairwise_lt
  · intro node arrays
    exact ⟨Inputs.indices_pairwise_lt _ arrays, fun i => Inputs.mem_indices⟩

/-- A connected element, and a declared one with a negative index. -/
theorem elements_listed_two :
    let node : Node := ⟨"n", "blendWeighted", [⟨".input[-3]", ["1"]⟩]⟩
    let connections : List Connection := [⟨"a.x", " n.input[12] ", false⟩]
    let graph := ofRecords [node] connections
    12 ∈ graph.arrayIndices "n" "input" ∧ -3 ∈ graph.arrayIndices "n" "input" := by
  intro node connections graph
  have isArray : IsArrayOf "n" "input" :=
    ⟨by decide, by decide, ⟨by decide, by decide, by decide⟩, by decide⟩
  obtain ⟨listed, -, -⟩ := elements_listed [node] connections
  constructor
  · have driven : ElementGiven [node] connections "n" "input" 12 :=
      .inl ⟨⟨"a.x", "n.input[12]", false⟩, by decide, by decide⟩
    exact listed "n" "input" 12 isArray (by decide) driven
  · have declared : ElementGiven [node] connections "n" "input" (-3) :=
      .inr ⟨node, rfl, _, List.mem_cons_self, by decide⟩
    exact listed "n" "input" (-3) isArray (by decide) declared

/-- An element whose index cannot be read is lost. -/
theorem not_mem_arrayIndices_of_long {n : Nat}
    (long : Numeral.integerDigitLimit < (Nat.toDigits 10 n).length) :
    let node : Node := ⟨"n", "blendWeighted", [⟨Attr.element "input" n, ["1"]⟩]⟩
    ElementGiven [node] [] "n" "input" n ∧
      (n : Int) ∉ (ofRecords [node] []).arrayIndices "n" "input" := by
  intro node
  have name : (Attribute.mk (Attr.element "input" n) ["1"]).name = Attr.element "input" n :=
    Attr.withoutDot_element (by decide) n
  constructor
  · exact .inr ⟨node, rfl, _, List.mem_cons_self, name⟩
  · rw [mem_arrayIndices]
    rintro (⟨c, kept, -⟩ | ⟨other, counts, -, a, member, mentions⟩)
    · cases kept
    · obtain rfl : other = node := by simpa [keepFirst, node] using counts
      obtain rfl := List.mem_singleton.mp member
      rw [name] at mentions
      rw [← Int.natAbs_natCast n] at long
      exact Attr.not_mentions_element (by decide) long mentions

/-- The smallest index that cannot be read. -/
theorem not_mem_arrayIndices_of_4301_digits :
    let n := Nat.pow 10 Numeral.integerDigitLimit
    let node : Node := ⟨"n", "blendWeighted", [⟨Attr.element "input" n, ["1"]⟩]⟩
    IsArrayOf "n" "input" ∧ ElementGiven [node] [] "n" "input" n ∧
      (n : Int) ∉ (ofRecords [node] []).arrayIndices "n" "input" := by
  have isArray : IsArrayOf "n" "input" :=
    ⟨by decide, by decide, ⟨by decide, by decide, by decide⟩, by decide⟩
  exact ⟨isArray, not_mem_arrayIndices_of_long (Numeral.lt_length_toDigits_pow (by decide))⟩

end Graph

namespace Attr

/-- The name is that of an element of an array, its index written as a plain numeral, with one of
the given endings behind it. -/
def IsSpelled (array : String) (endings : List String) (name : String) : Prop :=
  ∃ i : Int, ∃ ending ∈ endings, name = element array i ++ ending

/-- The index that such a name mentions is the one in it. -/
theorem IsSpelled.eq_element_append {array name : String} {endings : List String} {i : Int}
    (spelled : IsSpelled array endings name) (mentions : Mentions name array i) :
    ∃ ending ∈ endings, name = element array i ++ ending := by
  obtain ⟨k, ending, known, rfl⟩ := spelled
  obtain ⟨named, counted⟩ := mentions
  have noBracket := noBracket_of_arrayName? named
  rw [index?_element_append noBracket, Option.ite_none_right_eq_some] at counted
  obtain rfl : k = i := Option.some.inj counted.2
  exact ⟨ending, known, rfl⟩

/-- What stands behind the elements of an array of triples in the names of their components. -/
def childEndings (array : String) : List String :=
  [Axis.x, .y, .z].map fun axis => ("." ++ array).push axis.letter.toLower

end Attr

namespace Inputs

/-- There is something to read under a name: a connection drives the attribute, or the node declares
it. -/
def Readable (inputs : Inputs) (attr : String) : Prop :=
  (inputs.source? attr).isSome = true ∨ (inputs.node.attribute? attr).isSome = true

theorem readable_of_hasElement {α : Type} [Scalar α] {inputs : Inputs} {array : String} {i : Int}
    (present : inputs.hasElement α array i = true) : inputs.Readable (Attr.element array i) := by
  refine (Bool.or_eq_true_iff.mp present).imp_right fun authored => ?_
  obtain ⟨value, read⟩ := Option.isSome_iff_exists.mp authored
  obtain ⟨a, found, -⟩ := Option.bind_eq_some_iff.mp read
  exact Option.isSome_iff_exists.mpr ⟨a, found⟩

/-- The attributes of a node that it declares, and those that stand behind its name in the target of
a connection. -/
inductive Key (inputs : Inputs) : String → Prop
  | declared {a : Attribute} (member : a ∈ inputs.node.attributes) : Key inputs a.name
  | driven {c : Connection} {plug : Plug} (kept : c ∈ inputs.graph.connections)
      (fixed : Plug.normalize c.target = c.target) (split : Plug.ofText? c.target = some plug)
      (same : plug.node = inputs.node.name) : Key inputs plug.attr

/-- Wherever a node has something of an array, it stands under the name of an element with one of
the given endings. -/
structure SpelledOut (inputs : Inputs) (array : String) (endings : List String) : Prop where
  fixed : ∀ c ∈ inputs.graph.connections, ∀ plug, Plug.ofText? c.target = some plug →
    plug.node = inputs.node.name → Attr.arrayName? plug.attr = some array →
    Plug.normalize c.target = c.target
  spelled : ∀ key, inputs.Key key → Attr.arrayName? key = some array →
    Attr.IsSpelled array endings key

section Records

variable {nodes : List Node} {connections : List Connection} {node : Node} {array : String}
  {endings : List String} {i : Int}

/-- What a node has can be read under its name. -/
theorem Key.readable {attr : String}
    (h : Key ⟨.ofRecords nodes connections, node⟩ (Attr.withoutDot attr)) :
    Readable ⟨.ofRecords nodes connections, node⟩ attr := by
  generalize plain : Attr.withoutDot attr = key at h
  cases h with
  | @declared a member =>
    right
    rw [Node.attribute?, List.find?_isSome]
    exact ⟨a, member, by rw [plain, beq_self_eq_true]⟩
  | @driven c plug kept fixed split same =>
    left
    have text : Plug.named node.name attr = c.target := by
      rw [Plug.eq_text_of_ofText? fixed split, Plug.named, plain, Plug.text, same]
    rw [source?, Inputs.plug, text]
    exact Graph.isSome_incoming?_of_mem kept fixed.symm

theorem Key.mem_arrayIndices {key : String} (h : Key ⟨.ofRecords nodes connections, node⟩ key)
    (declared : node ∈ (Graph.ofRecords nodes connections).nodes)
    (mentions : Attr.Mentions key (Attr.withoutDot array) i) :
    i ∈ (Graph.ofRecords nodes connections).arrayIndices node.name array := by
  rw [Graph.mem_arrayIndices_of_mem declared]
  cases h with
  | declared member => exact .inr ⟨_, member, mentions⟩
  | driven kept fixed split same => exact .inl ⟨_, kept, _, split, same, mentions⟩

/-- An index in use stands in a key of the node if the array is spelled out. -/
theorem SpelledOut.exists_key
    (h : SpelledOut ⟨.ofRecords nodes connections, node⟩ (Attr.withoutDot array) endings)
    (declared : node ∈ (Graph.ofRecords nodes connections).nodes)
    (used : i ∈ (Graph.ofRecords nodes connections).arrayIndices node.name array) :
    ∃ ending ∈ endings, Key ⟨.ofRecords nodes connections, node⟩
      (Attr.element (Attr.withoutDot array) i ++ ending) := by
  obtain ⟨key, isKey, mentions⟩ : ∃ key, Key ⟨.ofRecords nodes connections, node⟩ key ∧
      Attr.Mentions key (Attr.withoutDot array) i := by
    rcases (Graph.mem_arrayIndices_of_mem declared).mp used with
      ⟨c, kept, plug, split, same, mentions⟩ | ⟨a, member, mentions⟩
    · exact ⟨_, .driven kept (h.fixed c kept plug split same mentions.1) split same, mentions⟩
    · exact ⟨_, .declared member, mentions⟩
  obtain ⟨ending, known, rfl⟩ := (h.spelled key isKey mentions.1).eq_element_append mentions
  exact ⟨ending, known, isKey⟩

/-- An index in use in one of several arrays can be read if all of them are spelled out. -/
theorem exists_readable_of_mem_indices (arrays : List String) (endings : String → List String)
    (declared : node ∈ (Graph.ofRecords nodes connections).nodes)
    (noDot : ∀ array ∈ arrays, array.toList.head? ≠ some '.')
    (spelled : ∀ array ∈ arrays,
      SpelledOut ⟨.ofRecords nodes connections, node⟩ array (endings array))
    (counted : i ∈ indices ⟨.ofRecords nodes connections, node⟩ arrays) :
    ∃ array ∈ arrays, ∃ ending ∈ endings array,
      Readable ⟨.ofRecords nodes connections, node⟩ (Attr.element array i ++ ending) := by
  obtain ⟨array, member, used⟩ := mem_indices.mp counted
  have plain : Attr.withoutDot array = array := Attr.withoutDot_eq_self (noDot array member)
  have spelled := spelled array member
  rw [← plain] at spelled
  obtain ⟨ending, known, isKey⟩ := spelled.exists_key declared used
  rw [plain] at known isKey
  refine ⟨array, member, ending, known, Key.readable ?_⟩
  rwa [Attr.withoutDot_eq_self (Attr.head?_element_append_ne (noDot array member) i ending)]

/-- What stands under the name of an element without anything behind it is the element. -/
theorem Key.readable_element {ending : String}
    (h : Key ⟨.ofRecords nodes connections, node⟩
      (Attr.element (Attr.withoutDot array) i ++ ending))
    (known : ending ∈ [""]) :
    Readable ⟨.ofRecords nodes connections, node⟩ (Attr.element array i) := by
  obtain rfl := List.mem_singleton.mp known
  rw [String.append_empty, ← Attr.withoutDot_element_eq] at h
  exact h.readable

/-- An index in use in one of several arrays is that of an element of one of them. -/
theorem exists_readable_element_of_mem_indices (arrays : List String)
    (declared : node ∈ (Graph.ofRecords nodes connections).nodes)
    (noDot : ∀ array ∈ arrays, array.toList.head? ≠ some '.')
    (spelled : ∀ array ∈ arrays, SpelledOut ⟨.ofRecords nodes connections, node⟩ array [""])
    (counted : i ∈ indices ⟨.ofRecords nodes connections, node⟩ arrays) :
    ∃ array ∈ arrays, Readable ⟨.ofRecords nodes connections, node⟩ (Attr.element array i) := by
  obtain ⟨array, member, ending, known, readable⟩ :=
    exists_readable_of_mem_indices arrays (fun _ => [""]) declared noDot spelled counted
  obtain rfl := List.mem_singleton.mp known
  rw [String.append_empty] at readable
  exact ⟨array, member, readable⟩

/-- An index in use in the triples that `plusMinusAverage` combines is that of a component. -/
theorem exists_readable_triple_of_mem_indices
    (declared : node ∈ (Graph.ofRecords nodes connections).nodes)
    (spelled : ∀ array ∈ ["input3D", "i3"],
      SpelledOut ⟨.ofRecords nodes connections, node⟩ array (Attr.childEndings array))
    (counted : i ∈ indices ⟨.ofRecords nodes connections, node⟩ ["input3D", "i3"]) :
    ∃ axis, ∃ name ∈ Formula.tripleNames axis i,
      Readable ⟨.ofRecords nodes connections, node⟩ name := by
  obtain ⟨array, member, ending, known, readable⟩ :=
    exists_readable_of_mem_indices _ Attr.childEndings declared (by simp) spelled counted
  obtain ⟨axis, -, rfl⟩ := List.mem_map.mp known
  refine ⟨axis, _, ?_, readable⟩
  rcases List.mem_pair.mp member with rfl | rfl
  · simp [Formula.tripleNames, ← String.toList_inj]
  · simp [Formula.tripleNames, ← String.toList_inj]

end Records

end Inputs

namespace Formula

variable {α : Type} [Scalar α] {reply : String → α}

/-- A choice takes an element that exists or whose index is in use; only if no index is in use it
may be zero. -/
theorem exists_of_choice {inputs : Inputs} {index : Int}
    (selected : max 0 <$> Scalar.round?
      ((inputs.value ["selector", "sel", "index"]).result reply) = .ok index) :
    (inputs.indices ["input"] = [] ∧ (choice inputs).run.result reply = .ok 0) ∨
      ∃ chosen, (inputs.hasElement α "input" chosen = true ∨ chosen ∈ inputs.indices ["input"]) ∧
        (choice inputs).run.result reply =
          .ok ((inputs.element "input" chosen 0).result reply) := by
  cases present : inputs.hasElement α "input" index with
  | true => exact .inr ⟨index, .inl present, result_choice selected (.inl ⟨present, rfl⟩)⟩
  | false =>
    cases found : (inputs.indices ["input"])[min index.toNat
        ((inputs.indices ["input"]).length - 1)]? with
    | none =>
      have unused : inputs.indices ["input"] = [] := by
        have short := List.getElem?_eq_none_iff.mp found
        exact List.eq_nil_of_length_eq_zero (by omega)
      exact .inl ⟨unused, result_choice_of_unused selected present unused⟩
    | some chosen =>
      have member := List.mem_of_getElem? found
      exact .inr ⟨chosen, .inr member, result_choice selected (.inr ⟨present, found⟩)⟩

end Formula

namespace Graph

/-- Indices in use can be read where they come from the names of elements, and the formulas that go
through them do not come upon others: a choice picks an element that can be read, and for whatever a
weighted sum or `plusMinusAverage` counts there is something to read. -/
theorem readable_of_mem_arrayIndices (α : Type) [Scalar α] (nodes : List Node)
    (connections : List Connection) (node : Node) :
    let graph := ofRecords nodes connections
    let inputs : Inputs := ⟨graph, node⟩
    node ∈ graph.nodes →
    (∀ array key i, inputs.Key key → Attr.Mentions key (Attr.withoutDot array) i →
      Attr.IsSpelled (Attr.withoutDot array) [""] key →
      i ∈ graph.arrayIndices node.name array ∧ inputs.Readable (Attr.element array i)) ∧
    (∀ array, inputs.SpelledOut (Attr.withoutDot array) [""] →
      ∀ i ∈ graph.arrayIndices node.name array, inputs.Readable (Attr.element array i)) ∧
    (inputs.SpelledOut "input" [""] → ∀ (reply : String → α) index,
      max 0 <$> Scalar.round?
        ((inputs.value ["selector", "sel", "index"]).result reply) = .ok index →
      (inputs.indices ["input"] = [] ∧ (Formula.choice inputs).run.result reply = .ok 0) ∨
        ∃ chosen, inputs.Readable (Attr.element "input" chosen) ∧
          (Formula.choice inputs).run.result reply =
            .ok ((inputs.element "input" chosen 0).result reply)) ∧
    (inputs.SpelledOut "input" [""] → inputs.SpelledOut "weight" [""] →
      ∀ i ∈ inputs.indices ["input", "weight"],
        inputs.Readable (Attr.element "input" i) ∨ inputs.Readable (Attr.element "weight" i)) ∧
    (inputs.SpelledOut "input1D" [""] → inputs.SpelledOut "i1" [""] →
      ∀ i ∈ inputs.indices ["input1D", "i1"], ∃ name ∈ Formula.scalarNames i,
        inputs.Readable name) ∧
    (inputs.SpelledOut "input3D" (Attr.childEndings "input3D") →
      inputs.SpelledOut "i3" (Attr.childEndings "i3") →
      ∀ i ∈ inputs.indices ["input3D", "i3"], ∃ axis, ∃ name ∈ Formula.tripleNames axis i,
        inputs.Readable name) := by
  intro graph inputs declared
  have both {array array' : String} {p : String → Prop} (first : p array) (second : p array') :
      ∀ name ∈ [array, array'], p name :=
    List.forall_mem_cons.mpr ⟨first, List.forall_mem_singleton.mpr second⟩
  refine ⟨?_, ?_, ?_, ?_, ?_, ?_⟩
  · intro array key i isKey mentions spelled
    refine ⟨isKey.mem_arrayIndices declared mentions, ?_⟩
    obtain ⟨ending, known, rfl⟩ := spelled.eq_element_append mentions
    exact isKey.readable_element known
  · intro array spelled i used
    obtain ⟨ending, known, isKey⟩ := spelled.exists_key declared used
    exact isKey.readable_element known
  · intro spelled reply index selected
    refine (Formula.exists_of_choice selected).imp_right ?_
    rintro ⟨chosen, present | counted, run⟩
    · exact ⟨chosen, Inputs.readable_of_hasElement present, run⟩
    · obtain ⟨array, member, readable⟩ := Inputs.exists_readable_element_of_mem_indices ["input"]
        declared (by simp) (by simpa) counted
      obtain rfl := List.mem_singleton.mp member
      exact ⟨chosen, readable, run⟩
  · intro spelled spelled' i counted
    have found := Inputs.exists_readable_element_of_mem_indices ["input", "weight"] declared
      (by simp) (both spelled spelled') counted
    simpa using found
  · intro spelled spelled' i counted
    have found := Inputs.exists_readable_element_of_mem_indices ["input1D", "i1"] declared
      (by simp) (both spelled spelled') counted
    simpa [Formula.scalarNames] using found
  · intro spelled spelled' i counted
    exact Inputs.exists_readable_triple_of_mem_indices declared (both spelled spelled') counted

/-- A weighted sum over a declared weight and a connected one. -/
theorem readable_of_mem_arrayIndices_two :
    let node : Node := ⟨"bw", "blendWeighted", [⟨"weight[0]", ["1"]⟩]⟩
    let inputs : Inputs := ⟨ofRecords [node] [⟨"a.x", "bw.weight[2]", false⟩], node⟩
    inputs.indices ["input", "weight"] = [0, 2] ∧
      (∀ i ∈ inputs.graph.arrayIndices "bw" "weight",
        inputs.Readable (Attr.element "weight" i)) ∧
      ∀ i ∈ inputs.indices ["input", "weight"],
        inputs.Readable (Attr.element "input" i) ∨ inputs.Readable (Attr.element "weight" i) := by
  intro node inputs
  have keys {key : String} (h : inputs.Key key) : key = "weight[0]" ∨ key = "weight[2]" := by
    cases h with
    | declared member =>
      obtain rfl := List.mem_singleton.mp member
      exact .inl (by decide)
    | @driven c plug kept fixed split same =>
      obtain rfl : c = ⟨"a.x", "bw.weight[2]", false⟩ := List.mem_singleton.mp kept
      obtain rfl : (⟨"bw", "weight[2]"⟩ : Plug) = plug := Option.some.inj split
      exact .inr rfl
  have fixed : ∀ c ∈ inputs.graph.connections, Plug.normalize c.target = c.target := by
    intro c kept
    obtain rfl := List.mem_singleton.mp kept
    decide
  have weights : inputs.SpelledOut "weight" [""] :=
    { fixed := fun c kept _ _ _ _ => fixed c kept
      spelled := by
        intro key h _
        rcases keys h with rfl | rfl
        · exact ⟨0, "", by simp, by decide⟩
        · exact ⟨2, "", by simp, by decide⟩ }
  have noInputs : inputs.SpelledOut "input" [""] :=
    { fixed := fun c kept _ _ _ _ => fixed c kept
      spelled := by
        intro key h named
        rcases keys h with rfl | rfl
        · exact absurd named (by decide)
        · exact absurd named (by decide) }
  obtain ⟨-, readable, -, summed, -⟩ := readable_of_mem_arrayIndices Float [node]
    [⟨"a.x", "bw.weight[2]", false⟩] node (by decide +kernel)
  exact ⟨by decide +kernel, readable "weight" weights, summed noInputs weights⟩

/-- A range mentions its first index, whose element is neither connected nor declared. -/
theorem range_not_readable :
    let node : Node := ⟨"bw", "blendWeighted", [⟨"weight[0:1]", ["1", "1"]⟩]⟩
    let graph := ofRecords [node] []
    node ∈ graph.nodes ∧ 0 ∈ graph.arrayIndices node.name "weight" ∧
      graph.incoming? (Plug.named node.name (Attr.element "weight" 0)) = none ∧
      node.attribute? (Attr.element "weight" 0) = none := by
  decide +kernel

end Graph

end PlugGraph
