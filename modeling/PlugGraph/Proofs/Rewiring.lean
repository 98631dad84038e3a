import PlugGraph.Proofs.Agreement
import PlugGraph.Proofs.Driven
import PlugGraph.Proofs.Precision

/-!
# One more connection

A connection whose target is not an element of an array changes what drives its target, and nothing
else that evaluation asks a graph for: `Graph.agreesExcept_insert`. Other plugs are read as before,
except those whose node looks the target up among its inputs. A plug that reads no more than these
do is out of their reach: what it needs does not need them, since it would need itself then, and so
keeps its meaning: `Context.meaning?_rewired`.
-/

namespace PlugGraph

namespace Plug

variable {node node' attr attr' : String}

/-- The texts of two attributes tell their nodes and names apart. -/
theorem eq_of_named_eq (h : IsNode node) (h' : IsNode node') (plain : Attr.isPlain attr = true)
    (plain' : Attr.isPlain attr' = true) (same : named node attr = named node' attr') :
    node = node' ∧ Attr.withoutDot attr = Attr.withoutDot attr' := by
  have split := (ofText?_named h plain).2
  rw [same, (ofText?_named h' plain').2] at split
  obtain ⟨nodes, attrs⟩ := Plug.mk.inj (Option.some.inj split)
  exact ⟨nodes.symm, attrs.symm⟩

/-- A normalized text splits at the dot by which a name without dots is joined to another. -/
theorem ofText?_join (fixed : normalize (join node attr) = join node attr)
    (noDot : '.' ∉ node.toList) (named : node ≠ "") (named' : attr ≠ "") :
    ofText? (join node attr) = some ⟨node, attr⟩ := by
  have chars : (join node attr).toList = node.toList ++ '.' :: attr.toList := by simp [join]
  have stops : ∀ c ∈ node.toList, (c != '.') = true := fun c member =>
    bne_iff_ne.mpr (ne_of_mem_of_not_mem member noDot)
  have before : (join node attr).toList.takeWhile (· != '.') = node.toList := by
    rw [chars, List.takeWhile_append_of_pos stops]
    simp
  have after : ((join node attr).toList.dropWhile (· != '.')).drop 1 = attr.toList := by
    rw [chars, List.dropWhile_append_of_pos stops]
    simp
  simp only [ofText?, normalizeChars_of_normalize fixed, before, after, String.ofList_toList]
  simp [named, named']

theorem named_ne_empty (node attr : String) : named node attr ≠ "" := by
  simp [named, join]

end Plug

namespace Graph

/-- Graphs that give the same answers to whatever evaluation asks, except for what drives one
plug. -/
structure AgreesExcept (g g' : Graph) (plug : String) : Prop where
  incoming? : ∀ text, Plug.normalize text ≠ plug → g.incoming? text = g'.incoming? text
  arrayIndices : ∀ node array, g.arrayIndices node array = g'.arrayIndices node array
  table : g.table = g'.table

variable {nodes : List Node} {before after : List Connection} {c : Connection}

theorem connections_insert :
    (ofRecords nodes (before ++ c :: after)).connections =
      before.filterMap Connection.normalized? ++
        (c.normalized?.toList ++ after.filterMap Connection.normalized?) := by
  cases ends : c.normalized? <;> simp [ofRecords, ends]

theorem mem_connections_insert {kept : Connection} :
    kept ∈ (ofRecords nodes (before ++ c :: after)).connections ↔
      kept ∈ c.normalized?.toList ∨ kept ∈ (ofRecords nodes (before ++ after)).connections := by
  rw [connections_insert]
  simp only [ofRecords, List.filterMap_append, List.mem_append]
  exact or_left_comm

theorem target_of_mem_normalized? {kept : Connection} (ends : kept ∈ c.normalized?.toList) :
    kept.target = Plug.normalize c.target := by
  simp only [Connection.normalized?, Option.mem_toList, Option.ite_none_left_eq_some,
    Option.some.injEq] at ends
  rw [← ends.2]

/-- What a connection leads to is driven. -/
theorem isSome_incoming?_insert {text : String} (source : Plug.normalize c.source ≠ "")
    (target : Plug.normalize c.target = text) (fixed : Plug.normalize text = text)
    (named : text ≠ "") :
    ((ofRecords nodes (before ++ c :: after)).incoming? text).isSome = true := by
  have kept : c.normalized?.isSome = true := by
    simp [Connection.normalized?, target, source, named]
  obtain ⟨kept, ends⟩ := Option.isSome_iff_exists.mp kept
  have member : kept ∈ c.normalized?.toList := by simp [ends]
  apply isSome_incoming?_of_mem (mem_connections_insert.mpr (.inl member))
  rw [target_of_mem_normalized? member, target, fixed]

/-- A connection to an attribute that is no array element changes no more than what drives it. -/
theorem agreesExcept_insert {node attr : String} (isNode : Plug.IsNode node)
    (plain : Attr.isPlain attr = true) (single : Attr.arrayName? (Attr.withoutDot attr) = none)
    (leads : Plug.normalize c.target = Plug.named node attr) :
    (ofRecords nodes (before ++ after)).AgreesExcept (ofRecords nodes (before ++ c :: after))
      (Plug.named node attr) where
  incoming? := by
    intro text other
    have skipped : c.normalized?.toList.filter (·.target = Plug.normalize text) = [] := by
      rw [List.filter_eq_nil_iff]
      intro kept ends
      rw [target_of_mem_normalized? ends, leads]
      simpa using other.symm
    rw [incoming?_eq, incoming?_eq, connections_insert, List.filter_append, List.filter_append,
      skipped, List.nil_append, ← List.filter_append, ← List.filterMap_append]
    rfl
  arrayIndices := by
    intro name array
    have split := (Plug.ofText?_named isNode plain).2
    have unmentioned {kept : Connection} (ends : kept ∈ c.normalized?.toList) {plug : Plug}
        (parts : Plug.ofText? kept.target = some plug) (i : Int) :
        ¬ Attr.Mentions plug.attr (Attr.withoutDot array) i := by
      rw [target_of_mem_normalized? ends, leads, split] at parts
      obtain rfl := Option.some.inj parts
      rintro ⟨mentioned, -⟩
      rw [single] at mentioned
      cases mentioned
    apply Std.ExtTreeSet.ext_mem
    intro i
    rw [mem_arrayIndices, mem_arrayIndices]
    refine or_congr_left ⟨?_, ?_⟩
    · rintro ⟨kept, member, driven⟩
      exact ⟨kept, mem_connections_insert.mpr (.inr member), driven⟩
    · rintro ⟨kept, member, plug, parts, same, mentions⟩
      rcases mem_connections_insert.mp member with new | old
      · exact absurd mentions (unmentioned new parts i)
      · exact ⟨kept, old, plug, parts, same, mentions⟩
  table := rfl

namespace AgreesExcept

variable {g g' : Graph} {name attr : String}

theorem node? (h : g.AgreesExcept g' attr) (name : String) : g.node? name = g'.node? name := by
  rw [Graph.node?, Graph.node?, h.table]

theorem incoming?_named (h : g.AgreesExcept g' (Plug.named name attr)) {node : String}
    (isNode : Plug.IsNode node) {input : String} (plain : Attr.isPlain input = true)
    (other : Plug.named node input ≠ Plug.named name attr) :
    g.incoming? (Plug.named node input) = g'.incoming? (Plug.named node input) := by
  apply h.incoming?
  rwa [(Plug.ofText?_named isNode plain).1]

/-- The inputs of other nodes are the same. -/
theorem inputs (h : g.AgreesExcept g' (Plug.named name attr)) (isNode : Plug.IsNode name)
    (plain : Attr.isPlain attr = true) {node : Node} (isNode' : Plug.IsNode node.name)
    (other : node.name ≠ name) : Inputs.Agrees ⟨g, node⟩ ⟨g', node⟩ where
  source? input plain' := h.incoming?_named isNode' plain' fun same =>
    other (Plug.eq_of_named_eq isNode' isNode plain' plain same).1
  indices := by
    funext arrays
    simp only [Inputs.indices, h.arrayIndices]
  node := rfl

end AgreesExcept

end Graph

namespace Context

variable {α : Type} [Scalar α] {c c' : Context α} {frame : α}

/-- Except for the target, a plug is read as before, if its node computes it as before. -/
theorem reading_rewired {g : Graph} {name attr : String}
    (h : c.graph.AgreesExcept g (Plug.named name attr)) (isNode : Plug.IsNode name)
    (plain : Attr.isPlain attr = true) (noCurve : c.curves[name]? = none) (keyed : c.Keyed)
    {text : String} (fixed : Plug.normalize text = text) (other : text ≠ Plug.named name attr)
    (inside : c.graph.incoming? text = none → ∀ node output, c.graph.node? name = some node →
      Plug.ofText? text = some ⟨name, output⟩ →
      c.nodeReading frame node output = { c with graph := g }.nodeReading frame node output) :
    c.reading frame text = { c with graph := g }.reading frame text := by
  have driven : c.graph.incoming? text = g.incoming? text := h.incoming? text (by rwa [fixed])
  simp only [reading, ← driven]
  cases free : c.graph.incoming? text with
  | some source => rfl
  | none =>
    cases split : Plug.ofText? text with
    | none => rfl
    | some plug =>
      have isNode' : Plug.IsNode plug.node := Plug.isNode_of_ofText? fixed split
      dsimp only
      cases curved : c.curves[plug.node]? with
      | some curve =>
        have apart : plug.node ≠ name := by
          rintro rfl
          rw [noCurve] at curved
          cases curved
        have plainInputs : ∀ input ∈ curveInputs, Attr.isPlain input = true := by decide
        have inputs : ∀ input ∈ curveInputs, c.graph.incoming? (Plug.named plug.node input) =
            g.incoming? (Plug.named plug.node input) := by
          intro input listed
          have plain' := plainInputs input listed
          apply h.incoming?_named isNode' plain'
          exact fun same => apart (Plug.eq_of_named_eq isNode' isNode plain' plain same).1
        simp only [curveReading, findSome?_congr inputs]
      | none =>
        rw [← h.node?]
        cases found : c.graph.node? plug.node with
        | none => rfl
        | some node =>
          have key : node.name = plug.node := keyed _ _ found
          by_cases same : plug.node = name
          · subst same
            exact inside free node plug.attr found split
          · have inputs := h.inputs isNode plain (key ▸ isNode') (key ▸ same)
            have token (name : String) :
                c.tokenPlug? name = { c with graph := g }.tokenPlug? name := by
              simp only [tokenPlug?, Graph.contains, h.table]
              rfl
            exact nodeReading_congr inputs token rfl rfl frame plug.attr

/-- Where the reading of a plug has changed, the plug may still be out of reach of another one:
if it needs whatever that one needs. What that one needs has its old meaning then. -/
theorem meaning?_rewired {plugs : List String} {top : String} {levels : Nat}
    (asks : ∀ text, (c.reading frame text).AsksOnly (· ∈ plugs))
    (settle : ∀ plug outcome, c.settle plug outcome = c'.settle plug outcome)
    (out : c.meaning? frame levels top = none)
    (reads : ∀ text ∈ plugs, c.reading frame text = c'.reading frame text ∨
      ∀ reply : String → Option α, ((c.reading frame text).answerM reply).isSome = true →
        ((c.reading frame top).answerM reply).isSome = true)
    {level : Nat} (below : level ≤ levels) {text : String} (member : text ∈ plugs) {value : α}
    (means : c.meaning? frame level text = some value) :
    c'.meaning? frame level text = some value := by
  induction level generalizing text value with
  | zero => cases means
  | succ level ih =>
    rw [meaning?_succ] at means
    obtain ⟨outcome, answered, rfl⟩ := Option.map_eq_some_iff.mp means
    rcases reads text member with same | needs
    · have answered' := (asks text).answerM_mono
        (fun asked listed value => ih (Nat.le_of_succ_le below) listed) answered
      rw [meaning?_succ, ← same, answered', Option.map_some, settle]
    · -- The other plug would have a meaning at this level already.
      have found : (c.meaning? frame (level + 1) top).isSome = true := by
        rw [meaning?_succ, Option.isSome_map]
        exact needs _ (by rw [answered]; rfl)
      obtain ⟨value, found⟩ := Option.isSome_iff_exists.mp found
      rw [meaning?_mono below found] at out
      cases out

end Context

namespace Evaluator

variable {α : Type} [Scalar α] {c : Context α} {frame : α} {e : Evaluator α} {text : String}

/-- A query that reports no cycle settles a reading which the meanings of a level answer, at which
the plug has none itself. -/
theorem Consistent.exists_answered (h : e.Consistent c frame)
    (notBlank : Text.isBlankText text = false)
    (clean : Acyclic ((Query.evaluate text frame).run e).events) :
    ∃ levels outcome, c.meaning? frame levels (Plug.normalize text) = none ∧
      (c.reading frame (Plug.normalize text)).answerM (c.meaning? frame levels) = some outcome ∧
      ((Query.evaluate text frame).run e).value =
        (c.settle (Plug.normalize text) outcome).value := by
  have denotes := (h.denotes_evaluate text clean).1
  rw [Context.Denotes, if_neg (by simp [notBlank])] at denotes
  obtain ⟨levels, means⟩ := denotes
  obtain ⟨first, -, means, out⟩ := Context.exists_first_level means
  rw [Context.meaning?_succ] at means
  obtain ⟨outcome, answered, same⟩ := Option.map_eq_some_iff.mp means
  exact ⟨first, outcome, out, answered, same.symm⟩

/-- A fresh evaluator gives a plug its meaning. -/
theorem value_of_meaning? [Scalar.LawfulSingle α] {nodes : List Node}
    {connections : List Connection} {curves : List (String × CurveShape α)}
    {rotation : RotationBlend α} {levels : Nat} {value : α}
    (fixed : Plug.normalize text = text) :
    let fresh := ofGraph (.ofRecords nodes connections) curves rotation
    fresh.context.meaning? frame levels text = some value →
      ((Query.evaluate text frame).run fresh).value = value := by
  intro fresh means
  have start : fresh.Consistent fresh.context frame :=
    consistent_ofGraph nodes connections curves rotation frame
  apply And.left
  apply start.evaluate_of_denotes
  rw [Context.Denotes]
  split
  · next blank =>
    -- Nothing leads to the empty text, so it is read as a text that is no plug.
    obtain rfl : "" = text := (Plug.normalize_of_blank blank).symm.trans fixed
    have undriven : fresh.context.graph.incoming? "" = none := by
      rw [← Option.not_isSome_iff_eq_none, Option.isSome_iff_exists]
      rintro ⟨source, driven⟩
      obtain ⟨kept, member, leads, -⟩ := Graph.exists_connection_of_incoming? driven
      exact Graph.target_ne_empty member leads
    cases levels with
    | zero => cases means
    | succ levels =>
      have read : fresh.context.reading frame "" = .done (.fallback .notAPlug 0) := by
        simp only [Context.reading, undriven]
        rfl
      rw [Context.meaning?_succ, read] at means
      obtain rfl := Option.some.inj means
      simp [Context.settle, Context.fallback, Context.Settled.after,
        Context.round_of_isSingle _ Scalar.isSingle_zero]
  · rw [fixed]
    exact ⟨levels, means⟩

end Evaluator

end PlugGraph
