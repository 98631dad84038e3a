import Mathlib.Data.List.Basic
import PlugGraph.Scene.Graph

/-!
# Graphs built from records

The tables of a graph are folds over its records. Looking something up in them leads back to a
record: the source of a plug to a connection that is kept, a node to a node of the list under its
own name, and an index of an array to a plug that is driven or to an attribute of a node.
-/

namespace PlugGraph

def Attr.Mentions (name array : String) (index : Int) : Prop :=
  arrayName? name = some array ∧ index? name = some index

namespace ArrayIndices

/-- The indices in use in an array of a node. -/
def used (indices : ArrayIndices) (node array : String) : Std.ExtTreeSet Int :=
  (indices.getD node ∅).getD array ∅

/-- Adding an attribute name puts the element that it mentions in use and takes none away. -/
theorem mem_used_add {indices : ArrayIndices} {name attr node array : String} {i : Int} :
    i ∈ (indices.add name attr).used node array ↔
      i ∈ indices.used node array ∨ name = node ∧ Attr.Mentions attr array i := by
  unfold add Attr.Mentions
  split
  · next mentioned index named counted =>
    simp only [used, Std.ExtTreeMap.getD_insert, named, counted, Option.some.injEq]
    by_cases node : name = node
    · subst node
      simp only [Std.compare_self, if_true, Std.ExtTreeMap.getD_insert]
      by_cases array : mentioned = array
      · subst array
        simp [Std.ExtTreeSet.mem_insert, or_comm]
      · simp [array]
    · simp [node]
  · next absent =>
    constructor
    · exact .inl
    · rintro (before | ⟨-, named, counted⟩)
      · exact before
      · exact absurd counted (absent _ _ named)

end ArrayIndices

namespace Graph

/-- The index holds the sources of a plug under it, the most recent first. -/
theorem getD_foldl_addSource (connections : List Connection)
    (sources : Std.ExtTreeMap String (List String)) (target : String) :
    (connections.foldl addSource sources).getD target [] =
      ((connections.filter (·.target = target)).map (·.source)).reverse ++
        sources.getD target [] := by
  induction connections generalizing sources with
  | nil => rfl
  | cons c rest ih =>
    rw [List.foldl_cons, ih, addSource, Std.ExtTreeMap.getD_insert]
    by_cases same : c.target = target <;> simp [same]

/-- The index has an entry for each plug that a connection leads to, and for no other. -/
theorem mem_foldl_addSource {connections : List Connection}
    {sources : Std.ExtTreeMap String (List String)} {target : String} :
    target ∈ connections.foldl addSource sources ↔
      target ∈ sources ∨ ∃ c ∈ connections, c.target = target := by
  induction connections generalizing sources with
  | nil => simp
  | cons c rest ih =>
    rw [List.foldl_cons, ih, addSource, Std.ExtTreeMap.mem_insert, Std.compare_eq_iff_eq]
    rw [or_assoc, or_left_comm]
    simp only [List.mem_cons, exists_eq_or_imp]

/-- What is found in a table filled from a list comes from an item of that key. -/
theorem exists_of_foldl_insert {ι β : Type} {key : ι → String} {value : ι → β} {items : List ι}
    {table : Std.ExtTreeMap String β} {k : String} {v : β}
    (h : (items.foldl (fun table item => table.insert (key item) (value item)) table)[k]? =
      some v) :
    table[k]? = some v ∨ ∃ item ∈ items, key item = k ∧ value item = v := by
  induction items generalizing table with
  | nil => exact .inl h
  | cons item rest ih =>
    rcases ih h with found | ⟨item, member, found⟩
    · rw [Std.ExtTreeMap.getElem?_insert] at found
      split at found
      · next same =>
        cases found
        exact .inr ⟨item, List.mem_cons_self, Std.compare_eq_iff_eq.mp same, rfl⟩
      · exact .inl found
    · exact .inr ⟨item, List.mem_cons_of_mem _ member, found⟩

/-- A table filled from a list keeps what it has under other keys. -/
theorem getElem?_foldl_insert_of_ne {ι β : Type} {key : ι → String} {value : ι → β}
    {items : List ι} {k : String} (other : ∀ item ∈ items, key item ≠ k)
    (table : Std.ExtTreeMap String β) :
    (items.foldl (fun table item => table.insert (key item) (value item)) table)[k]? =
      table[k]? := by
  induction items generalizing table with
  | nil => rfl
  | cons item rest ih =>
    obtain ⟨first, others⟩ := List.forall_mem_cons.mp other
    rw [List.foldl_cons, ih others, Std.ExtTreeMap.getElem?_insert, if_neg (by simpa using first)]

/-- A table filled from items of distinct keys holds each of them. -/
theorem getElem?_foldl_insert_of_mem {ι β : Type} {key : ι → String} {value : ι → β}
    {items : List ι} (distinct : (items.map key).Nodup) {item : ι} (member : item ∈ items)
    (table : Std.ExtTreeMap String β) :
    (items.foldl (fun table item => table.insert (key item) (value item)) table)[key item]? =
      some (value item) := by
  induction items generalizing table with
  | nil => cases member
  | cons first rest ih =>
    obtain ⟨new, distinct⟩ := List.nodup_cons.mp distinct
    rw [List.foldl_cons]
    rcases List.mem_cons.mp member with rfl | member
    · have other : ∀ later ∈ rest, key later ≠ key item := fun later member same =>
        new (same ▸ List.mem_map_of_mem member)
      rw [getElem?_foldl_insert_of_ne other, Std.ExtTreeMap.getElem?_insert_self]
    · exact ih distinct member _

/-- The nodes that count have names, and no two of them the same one. -/
theorem nodup_keepFirst (seen : Std.ExtTreeMap String Node) (nodes : List Node) :
    ((keepFirst seen nodes).map (·.name)).Nodup ∧
      ∀ node ∈ keepFirst seen nodes, node.name ≠ "" ∧ node.name ∉ seen := by
  induction nodes generalizing seen with
  | nil => simp [keepFirst]
  | cons node rest ih =>
    rw [keepFirst]
    split
    · exact ih seen
    · next counts =>
      obtain ⟨distinct, fresh⟩ := ih (seen.insert node.name node)
      obtain ⟨named, new⟩ : node.name ≠ "" ∧ node.name ∉ seen := by simpa using counts
      refine ⟨?_, List.forall_mem_cons.mpr ⟨⟨named, new⟩, fun other member => ?_⟩⟩
      · refine List.nodup_cons.mpr ⟨fun member => ?_, distinct⟩
        obtain ⟨other, listed, same⟩ := List.mem_map.mp member
        exact (fresh other listed).2 (by simp [same])
      · obtain ⟨named, unseen⟩ := fresh other member
        exact ⟨named, fun old => unseen (by simp [old])⟩

/-- The first record of a name is the one that counts. -/
theorem mem_keepFirst_of_find? {seen : Std.ExtTreeMap String Node} {nodes : List Node}
    {name : String} {node : Node} (named : name ≠ "") (new : name ∉ seen)
    (first : nodes.find? (·.name == name) = some node) : node ∈ keepFirst seen nodes := by
  induction nodes generalizing seen with
  | nil => cases first
  | cons other rest ih =>
    rw [keepFirst]
    by_cases same : other.name = name
    · rw [List.find?_cons_of_pos (by simpa using same)] at first
      obtain rfl := Option.some.inj first
      rw [if_neg (by simp [same, named, new])]
      exact List.mem_cons_self
    · rw [List.find?_cons_of_neg (by simpa using same)] at first
      split
      · exact ih new first
      · apply List.mem_cons_of_mem
        apply ih _ first
        simp [same, new]

variable {nodes : List Node} {connections : List Connection}

theorem node?_of_mem_keepFirst {node : Node} (member : node ∈ keepFirst ∅ nodes) :
    (ofRecords nodes connections).node? node.name = some node :=
  getElem?_foldl_insert_of_mem (nodup_keepFirst ∅ nodes).1 member ∅

/-- Two records that count are the same if their names are. -/
theorem eq_of_mem_keepFirst {node other : Node} (member : node ∈ keepFirst ∅ nodes)
    (counts : other ∈ keepFirst ∅ nodes) (same : other.name = node.name) : other = node := by
  have found : (ofRecords nodes []).node? other.name = some other := node?_of_mem_keepFirst counts
  rw [same, node?_of_mem_keepFirst member] at found
  exact (Option.some.inj found).symm

/-- The nodes of a graph are the records that count. -/
theorem nodes_ofRecords :
    (ofRecords nodes connections).nodes = keepFirst ∅ nodes := by
  have found : (keepFirst ∅ nodes).filterMap
      ((ofRecords nodes connections).node? ∘ Node.name) = keepFirst ∅ nodes :=
    (List.filterMap_congr fun _ => node?_of_mem_keepFirst).trans List.filterMap_some
  exact List.filterMap_map.trans found

/-- Each node of a graph has a name and is found under it. -/
theorem node?_of_mem_nodes {node : Node} (member : node ∈ (ofRecords nodes connections).nodes) :
    (ofRecords nodes connections).node? node.name = some node ∧ node.name ≠ "" := by
  rw [nodes_ofRecords] at member
  exact ⟨node?_of_mem_keepFirst member, ((nodup_keepFirst ∅ nodes).2 node member).1⟩

/-- The sources connected to a plug are those of the connections that the graph keeps to it. -/
theorem incomingAll_eq (text : String) :
    (ofRecords nodes connections).incomingAll text =
      ((ofRecords nodes connections).connections.filter
        (·.target = Plug.normalize text)).map (·.source) := by
  have index := getD_foldl_addSource (connections.filterMap Connection.normalized?) ∅
    (Plug.normalize text)
  rw [Std.ExtTreeMap.getD_empty, List.append_nil] at index
  exact (congrArg List.reverse index).trans (List.reverse_reverse _)

/-- The last of them drives the plug. -/
theorem incoming?_eq (text : String) :
    (ofRecords nodes connections).incoming? text =
      (((ofRecords nodes connections).connections.filter
        (·.target = Plug.normalize text)).getLast?).map (·.source) := by
  rw [← List.getLast?_map, ← incomingAll_eq, incomingAll, incoming?, List.getLast?_reverse]

/-- The driven plugs are those that a connection of the graph leads to. -/
theorem mem_drivenPlugs {plug : String} :
    plug ∈ (ofRecords nodes connections).drivenPlugs ↔
      ∃ c ∈ (ofRecords nodes connections).connections, c.target = plug := by
  rw [drivenPlugs, Std.ExtTreeMap.mem_keys]
  exact mem_foldl_addSource.trans (by simp [ofRecords])

/-- What drives a plug is the source of a connection to it that the graph has kept. -/
theorem exists_connection_of_incoming? {text source : String}
    (h : (ofRecords nodes connections).incoming? text = some source) :
    ∃ c ∈ (ofRecords nodes connections).connections,
      c.target = Plug.normalize text ∧ c.source = source := by
  rw [incoming?_eq] at h
  obtain ⟨c, last, rfl⟩ := Option.map_eq_some_iff.mp h
  obtain ⟨member, leads⟩ := List.mem_filter.mp (List.mem_of_getLast? last)
  exact ⟨c, member, of_decide_eq_true leads, rfl⟩

/-- A connection that the graph has kept drives its target. -/
theorem isSome_incoming?_of_mem {c : Connection} {text : String}
    (kept : c ∈ (ofRecords nodes connections).connections)
    (leads : c.target = Plug.normalize text) :
    ((ofRecords nodes connections).incoming? text).isSome = true := by
  have member : c ∈ (ofRecords nodes connections).connections.filter
      (·.target = Plug.normalize text) :=
    List.mem_filter.mpr ⟨kept, decide_eq_true leads⟩
  rw [incoming?_eq, Option.isSome_map]
  simpa using List.ne_nil_of_mem member

/-- Nodes are found under their own names. -/
theorem name_of_node? {name : String} {node : Node}
    (h : (ofRecords nodes connections).node? name = some node) : node.name = name := by
  rcases exists_of_foldl_insert h with initial | ⟨node, -, named, rfl⟩
  · simp at initial
  · exact named

/-- Nodes that are found are among the nodes of the graph. -/
theorem mem_nodes_of_node? {name : String} {node : Node}
    (h : (ofRecords nodes connections).node? name = some node) :
    node ∈ (ofRecords nodes connections).nodes := by
  rcases exists_of_foldl_insert h with initial | ⟨node, member, named, rfl⟩
  · simp at initial
  · exact List.mem_filterMap.mpr ⟨name, List.mem_map.mpr ⟨node, member, named⟩, h⟩

theorem mem_used_foldl_addTarget {connections : List Connection} {indices : ArrayIndices}
    {node array : String} {i : Int} :
    i ∈ (connections.foldl addTarget indices).used node array ↔
      i ∈ indices.used node array ∨ ∃ c ∈ connections, ∃ plug, Plug.ofText? c.target = some plug ∧
        plug.node = node ∧ Attr.Mentions plug.attr array i := by
  induction connections generalizing indices with
  | nil => simp
  | cons c rest ih =>
    rw [List.foldl_cons, ih, addTarget]
    cases split : Plug.ofText? c.target with
    | none => simp [split]
    | some plug => simp [split, ArrayIndices.mem_used_add, or_assoc]

theorem mem_used_addNode {node : Node} {indices : ArrayIndices} {name array : String} {i : Int} :
    i ∈ (addNode indices node).used name array ↔
      i ∈ indices.used name array ∨
        node.name = name ∧ ∃ a ∈ node.attributes, Attr.Mentions a.name array i := by
  unfold addNode
  induction node.attributes generalizing indices with
  | nil => simp
  | cons a rest ih =>
    rw [List.foldl_cons, ih, ArrayIndices.mem_used_add, or_assoc, ← and_or_left]
    simp only [List.mem_cons, exists_eq_or_imp]

theorem mem_used_foldl_addNode {nodes : List Node} {indices : ArrayIndices} {name array : String}
    {i : Int} :
    i ∈ (nodes.foldl addNode indices).used name array ↔
      i ∈ indices.used name array ∨ ∃ node ∈ nodes,
        node.name = name ∧ ∃ a ∈ node.attributes, Attr.Mentions a.name array i := by
  induction nodes generalizing indices with
  | nil => simp
  | cons node rest ih =>
    rw [List.foldl_cons, ih, mem_used_addNode, or_assoc]
    simp only [List.mem_cons, exists_eq_or_imp]

/-- The indices in use are those that a driven plug or an attribute of a node mentions. -/
theorem mem_arrayIndices {node array : String} {i : Int} :
    i ∈ (ofRecords nodes connections).arrayIndices node array ↔
      (∃ c ∈ (ofRecords nodes connections).connections, ∃ plug,
        Plug.ofText? c.target = some plug ∧ plug.node = node ∧
          Attr.Mentions plug.attr (Attr.withoutDot array) i) ∨
      ∃ declared ∈ keepFirst ∅ nodes, declared.name = node ∧
        ∃ a ∈ declared.attributes, Attr.Mentions a.name (Attr.withoutDot array) i := by
  refine mem_used_foldl_addNode.trans (or_congr_left (mem_used_foldl_addTarget.trans ?_))
  simp [ArrayIndices.used, ofRecords]

/-- For a node of the graph, its own attributes are those that count. -/
theorem mem_arrayIndices_of_mem {node : Node} {array : String} {i : Int}
    (declared : node ∈ (ofRecords nodes connections).nodes) :
    i ∈ (ofRecords nodes connections).arrayIndices node.name array ↔
      (∃ c ∈ (ofRecords nodes connections).connections, ∃ plug,
        Plug.ofText? c.target = some plug ∧ plug.node = node.name ∧
          Attr.Mentions plug.attr (Attr.withoutDot array) i) ∨
      ∃ a ∈ node.attributes, Attr.Mentions a.name (Attr.withoutDot array) i := by
  rw [nodes_ofRecords] at declared
  refine mem_arrayIndices.trans (or_congr_right ⟨?_, fun mentioned => ?_⟩)
  · rintro ⟨other, counts, same, mentioned⟩
    exact eq_of_mem_keepFirst declared counts same ▸ mentioned
  · exact ⟨node, declared, rfl, mentioned⟩

/-- What is found after a node is removed was there before. -/
theorem node?_of_node?_eraseNode {graph : Graph} {name other : String} {node : Node}
    (found : (graph.eraseNode name).node? other = some node) : graph.node? other = some node := by
  simp only [node?, eraseNode, Std.ExtTreeMap.getElem?_erase, Option.ite_none_left_eq_some] at found
  exact found.2

end Graph

end PlugGraph
