import PlugGraph.Proofs.Blocked
import PlugGraph.Proofs.Plugs
import PlugGraph.Proofs.Records

/-!
# What plugs read and how the graph says they feed each other

The computation of a plug reads the source that drives it. If nothing drives the plug, it reads the
sources of other attributes of its node, without a look at these attributes themselves:
`Graph.Reads`. The graph draws edges along connections, and inside a node from driven plugs to
plugs that are not driven: `Graph.flow`. Against the direction of reading there is a path of such
edges, so a plug that comes to read itself lies on a cycle of the flow: `Graph.mem_cyclicPlugs`.
-/

namespace PlugGraph.Graph

open Relation

/-- The computation of a plug may read another: its source, or, if nothing drives it, the source of
an attribute of its node. -/
inductive Reads (graph : Graph) (text : String) : String → Prop
  | driven {source : String} (found : graph.incoming? text = some source) :
      Reads graph text (Plug.normalize source)
  | inside {plug : Plug} {attr source : String} (free : graph.incoming? text = none)
      (split : Plug.ofText? text = some plug) (plain : Attr.isPlain attr = true)
      (found : graph.incoming? (Plug.named plug.node attr) = some source) :
      Reads graph text (Plug.normalize source)

/-- A plug feeds another one, as the graph draws it. -/
abbrev Feeds (graph : Graph) : String → String → Prop := Blocked.Edge graph.flow

/-! ### The edges of the flow -/

section Folds

variable {β ι : Type} {step : β → ι → β} {p : β → Prop}

/-- What one step of a fold brings about and the others keep holds in the end. -/
theorem foldl_of_mem (keep : ∀ b i, p b → p (step b i)) {items : List ι} {item : ι}
    (member : item ∈ items) (adds : ∀ b, p (step b item)) (start : β) :
    p (items.foldl step start) := by
  obtain ⟨before, after, rfl⟩ := List.append_of_mem member
  rw [List.foldl_append, List.foldl_cons]
  exact List.foldlRecOn (motive := p) after step (adds _) fun b holds i _ => keep b i holds

end Folds

variable {successors : Blocked.Successors String} {u v vertex : String} {targets : List String}

theorem edge_addEdges_of_mem (member : v ∈ targets) :
    Blocked.Edge (addEdges successors vertex targets) vertex v := by
  simp [Blocked.Edge, addEdges, member]

theorem edge_addEdges (edge : Blocked.Edge successors u v) :
    Blocked.Edge (addEdges successors vertex targets) u v := by
  rw [Blocked.Edge, addEdges, Std.ExtTreeMap.getD_insert]
  split
  · next same =>
    rw [Std.compare_eq_iff_eq.mp same]
    exact List.mem_append_right _ edge
  · exact edge

theorem edge_foldl_addEdges (edge : Blocked.Edge successors u v) (inputs : List String) :
    Blocked.Edge (inputs.foldl (fun successors input => addEdges successors input targets)
      successors) u v :=
  List.foldlRecOn (motive := fun successors => Blocked.Edge successors u v) inputs _ edge
    fun _ edge _ _ => edge_addEdges edge

variable {graph : Graph} {nodes : List Node} {connections : List Connection}

/-- The source of a connection feeds its target. -/
theorem feeds_of_connection {c : Connection} (kept : c ∈ graph.connections) :
    graph.Feeds c.source c.target := by
  unfold Feeds flow
  refine List.foldlRecOn (motive := fun successors => Blocked.Edge successors c.source c.target)
    _ _ ?_ fun _ edge _ _ => edge_foldl_addEdges edge _
  refine foldl_of_mem (p := fun successors => Blocked.Edge successors c.source c.target)
    ?_ kept ?_ _
  · exact fun _ _ edge => edge_addEdges (edge_addEdges edge)
  · exact fun _ => edge_addEdges (edge_addEdges_of_mem List.mem_cons_self)

/-- A plug is an end of a connection. -/
def Connects (graph : Graph) (text : String) : Prop :=
  ∃ c ∈ graph.connections, text = c.source ∨ text = c.target

/-- The ends of connections are listed under their nodes. -/
theorem mem_plugsByNode {text : String} {plug : Plug} (connects : graph.Connects text)
    (split : Plug.ofText? text = some plug) :
    ∃ plugs, (plug.node, plugs) ∈ graph.plugsByNode.toList ∧ text ∈ plugs := by
  obtain ⟨c, kept, isEnd⟩ := connects
  have member : text ∈ graph.connections.flatMap fun c => [c.source, c.target] :=
    List.mem_flatMap.mpr ⟨c, kept, by simpa using isEnd⟩
  have listed : text ∈ graph.plugsByNode.getD plug.node ∅ := by
    unfold plugsByNode
    refine foldl_of_mem (p := fun table : Std.ExtTreeMap String (Std.ExtTreeSet String) =>
      text ∈ table.getD plug.node ∅) ?_ member ?_ _
    · intro table other listed
      split
      · rw [Std.ExtTreeMap.getD_insert]
        split
        · next same =>
          rw [Std.compare_eq_iff_eq.mp same, Std.ExtTreeSet.mem_insert]
          exact .inr listed
        · exact listed
      · exact listed
    · intro table
      simp [split]
  rw [Std.ExtTreeMap.getD_eq_getD_getElem?] at listed
  cases found : graph.plugsByNode[plug.node]? with
  | none =>
    rw [found] at listed
    exact absurd listed Std.ExtTreeSet.not_mem_empty
  | some plugs =>
    rw [found] at listed
    exact ⟨plugs, Std.ExtTreeMap.mem_toList_iff_getElem?_eq_some.mpr found, listed⟩

/-- Inside a node a driven plug feeds those that are not driven. -/
theorem feeds_inside {input output : String} {plug plug' : Plug} (connects : graph.Connects input)
    (connects' : graph.Connects output) (split : Plug.ofText? input = some plug)
    (split' : Plug.ofText? output = some plug') (same : plug.node = plug'.node)
    (driven : graph.isDriven input = true) (free : graph.isDriven output = false) :
    graph.Feeds input output := by
  obtain ⟨plugs, listed, member⟩ := mem_plugsByNode connects split
  obtain ⟨plugs', listed', member'⟩ := mem_plugsByNode connects' split'
  rw [Std.ExtTreeMap.mem_toList_iff_getElem?_eq_some] at listed'
  rw [← same, Std.ExtTreeMap.mem_toList_iff_getElem?_eq_some.mp listed] at listed'
  obtain rfl := Option.some.inj listed'
  have isInput : input ∈ plugs.toList.filter graph.isDriven := by simp [member, driven]
  have isOutput : output ∈ plugs.toList.filter (!graph.isDriven ·) := by simp [member', free]
  unfold Feeds flow
  refine foldl_of_mem (p := fun successors => Blocked.Edge successors input output) ?_ listed ?_ _
  · exact fun _ _ edge => edge_foldl_addEdges edge _
  · intro successors
    refine foldl_of_mem (p := fun successors => Blocked.Edge successors input output)
      ?_ isInput ?_ _
    · exact fun _ _ edge => edge_addEdges edge
    · exact fun _ => edge_addEdges_of_mem isOutput

/-! ### From reading to the flow -/

section Records

variable {nodes : List Node} {connections : List Connection}

/-- Normalizing leaves the ends of the connections as they are. -/
def Normal (graph : Graph) : Prop :=
  ∀ c ∈ graph.connections, Plug.normalize c.source = c.source ∧ Plug.normalize c.target = c.target

def Feeder (graph : Graph) (text : String) : Prop := ∃ c ∈ graph.connections, c.source = text

/-- A plug that nothing drives is not among the driven ones. -/
theorem isDriven_of_free {text : String} (fixed : Plug.normalize text = text)
    (free : (ofRecords nodes connections).incoming? text = none) :
    (ofRecords nodes connections).isDriven text = false := by
  rw [isDriven, ← Bool.not_eq_true, Std.ExtTreeMap.contains_iff_mem, ← Std.ExtTreeMap.mem_keys]
  intro listed
  obtain ⟨c, kept, leads⟩ := mem_drivenPlugs.mp listed
  rw [incoming?_eq, Option.map_eq_none_iff, List.getLast?_eq_none_iff, fixed] at free
  have member : c ∈ (ofRecords nodes connections).connections.filter (·.target = text) :=
    List.mem_filter.mpr ⟨kept, decide_eq_true leads⟩
  rw [free] at member
  cases member

/-- What a feeder reads is a feeder, and feeds it by a path of edges. -/
theorem feeds_of_reads (normal : (ofRecords nodes connections).Normal) {text asked : String}
    (feeder : (ofRecords nodes connections).Feeder text)
    (reads : (ofRecords nodes connections).Reads text asked) :
    (ofRecords nodes connections).Feeder asked ∧
      TransGen (ofRecords nodes connections).Feeds asked text := by
  obtain ⟨start, kept, rfl⟩ := feeder
  have fixed : Plug.normalize start.source = start.source := (normal start kept).1
  cases reads with
  | driven found =>
    obtain ⟨c, kept, leads, rfl⟩ := exists_connection_of_incoming? found
    rw [(normal c kept).1]
    rw [fixed] at leads
    exact ⟨⟨c, kept, rfl⟩, .single (leads ▸ feeds_of_connection kept)⟩
  | inside free split plain found =>
    rename_i plug attr source
    obtain ⟨named, splits⟩ := Plug.ofText?_named (Plug.isNode_of_ofText? fixed split) plain
    obtain ⟨c, kept', leads, rfl⟩ := exists_connection_of_incoming? found
    rw [(normal c kept').1]
    rw [named] at leads
    rw [← leads] at splits
    have driven : (ofRecords nodes connections).isDriven c.target = true :=
      Std.ExtTreeMap.contains_iff_mem.mpr
        (Std.ExtTreeMap.mem_keys.mp (mem_drivenPlugs.mpr ⟨c, kept', rfl⟩))
    have inside : (ofRecords nodes connections).Feeds c.target start.source :=
      feeds_inside ⟨c, kept', .inr rfl⟩ ⟨start, kept, .inl rfl⟩ splits split rfl driven
        (isDriven_of_free fixed free)
    exact ⟨⟨c, kept', rfl⟩, .tail (.single (feeds_of_connection kept')) inside⟩

/-- Where readings lead from a feeder, there is a path of edges back. -/
theorem feeds_of_transGen_reads (normal : (ofRecords nodes connections).Normal)
    {text asked : String} (feeder : (ofRecords nodes connections).Feeder text)
    (path : TransGen (ofRecords nodes connections).Reads text asked) :
    (ofRecords nodes connections).Feeder asked ∧
      TransGen (ofRecords nodes connections).Feeds asked text := by
  induction path with
  | single reads => exact feeds_of_reads normal feeder reads
  | tail _ reads ih =>
    obtain ⟨between, back⟩ := ih
    obtain ⟨last, edges⟩ := feeds_of_reads normal between reads
    exact ⟨last, edges.trans back⟩

/-- A plug that comes to read itself lies on a cycle of the flow. -/
theorem mem_cyclicPlugs (normal : (ofRecords nodes connections).Normal) {text : String}
    (cycle : TransGen (ofRecords nodes connections).Reads text text) :
    text ∈ (ofRecords nodes connections).cyclicPlugs := by
  have feeder : (ofRecords nodes connections).Feeder text := by
    obtain ⟨reader, -, reads⟩ := TransGen.tail'_iff.mp cycle
    cases reads with
    | driven found | inside _ _ _ found =>
      obtain ⟨c, kept, -, rfl⟩ := exists_connection_of_incoming? found
      exact ⟨c, kept, (normal c kept).1.symm⟩
  exact Blocked.mem_vertices (feeds_of_transGen_reads normal feeder cycle).2 .refl

end Records

end PlugGraph.Graph
