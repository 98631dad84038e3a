import PlugGraph.Proofs.Slots
import PlugGraph.Proofs.Triples

/-!
# The axes of a pair blend

An output of a pair blend interpolates along one axis between two sides. Connecting another axis of
a side leaves the output as it is if some axis of that side was connected before. Otherwise the side
gives zero from then on, whatever is authored for it: `Evaluator.evaluate_pairBlend`. In both cases
nothing else changes, as long as nothing but the node reads the connected input and no cycle is met:
the plugs that the output needs cannot need another output of the same part, which needs the same
plugs.
-/

namespace PlugGraph

namespace PairBlend

variable {α : Type} [Scalar α] {part : Part} {axis : Axis}

/-- An output of a pair blend of a scene that shows a part, interpolated linearly, and that neither
a connection nor a curve stands in for. -/
structure FreeOutput {α : Type} [Scalar α] (graph : Graph) (curves : List (String × CurveShape α))
    (node : Node) (attr : String) (part : Part) : Prop where
  declared : node ∈ graph.nodes
  pairBlend : Kind.ofType node.type = .pairBlend
  noDot : '.' ∉ node.name.toList
  fixed : Plug.normalize (Plug.join node.name attr) = Plug.join node.name attr
  isOutput : Attr.isOutput attr = true
  shows : Formula.PairOutput.ofAttr attr = part.output
  linear : part.IsLinear α node
  undriven : graph.incoming? (Plug.join node.name attr) = none
  noCurve : ∀ curve ∈ curves, curve.1 ≠ node.name

namespace FreeOutput

variable {nodes : List Node} {connections : List Connection}
  {curves : List (String × CurveShape α)} {node : Node} {attr : String}

theorem isNode (h : FreeOutput (.ofRecords nodes connections) curves node attr part) :
    Plug.IsNode node.name :=
  Plug.isNode_of_join h.fixed (Graph.node?_of_mem_nodes h.declared).2 h.noDot

theorem split (h : FreeOutput (.ofRecords nodes connections) curves node attr part) :
    Plug.ofText? (Plug.join node.name attr) = some ⟨node.name, attr⟩ := by
  apply Plug.ofText?_join h.fixed h.noDot (Graph.node?_of_mem_nodes h.declared).2
  rintro rfl
  exact absurd h.isOutput (by decide)

theorem curve_eq_none (h : FreeOutput (.ofRecords nodes connections) curves node attr part)
    (rotation : RotationBlend α) :
    (Evaluator.ofGraph (.ofRecords nodes connections) curves rotation).context.curves[node.name]? =
      none := by
  refine (Graph.getElem?_foldl_insert_of_ne h.noCurve ∅).trans ?_
  simp

theorem kind (h : FreeOutput (.ofRecords nodes connections) curves node attr part)
    (rotation : RotationBlend α) :
    (Evaluator.ofGraph (.ofRecords nodes connections) curves rotation).context.kindOf node.name =
      .pairBlend :=
  (Evaluator.kindOf_ofGraph curves rotation h.declared).trans h.pairBlend

variable [Scalar.LawfulSingle α]

theorem reading (h : FreeOutput (.ofRecords nodes connections) curves node attr part)
    (rotation : RotationBlend α) (frame : α) :
    let c := (Evaluator.ofGraph (.ofRecords nodes connections) curves rotation).context
    c.reading frame (Plug.join node.name attr) =
      (fun value => .result (.value value)) <$>
        PairBlend.reading ⟨c.graph, node⟩ part ((Attr.axis? attr).getD .x) :=
  reading_eq h.undriven h.split (h.curve_eq_none rotation)
    (Graph.node?_of_mem_nodes h.declared).1 (h.kind rotation) h.shows h.linear frame

/-- Without a cycle the value is that of a reading, which is answered before the plug itself has a
meaning. -/
theorem exists_answered (h : FreeOutput (.ofRecords nodes connections) curves node attr part)
    (rotation : RotationBlend α) {frame : α} :
    let fresh := Evaluator.ofGraph (.ofRecords nodes connections) curves rotation
    let pull := (Query.evaluate (Plug.join node.name attr) frame).run fresh
    Acyclic pull.events →
      ∃ levels value, fresh.context.meaning? frame levels (Plug.join node.name attr) = none ∧
        (PairBlend.reading ⟨fresh.context.graph, node⟩ part ((Attr.axis? attr).getD .x)).answerM
          (fresh.context.meaning? frame levels) = some value ∧
        pull.value = (Context.round (Plug.join node.name attr) value).value := by
  intro fresh pull clean
  have start : fresh.Consistent fresh.context frame :=
    Evaluator.consistent_ofGraph nodes connections curves rotation frame
  obtain ⟨levels, outcome, out, answered, same⟩ :=
    start.exists_answered (Plug.not_isBlankText_join _ _) clean
  rw [h.fixed] at out answered same
  rw [h.reading rotation frame, Dialogue.answerM_map] at answered
  obtain ⟨value, read, rfl⟩ := Option.map_eq_some_iff.mp answered
  exact ⟨levels, value, out, read, same⟩

end FreeOutput

/-- An output stays free when a component is connected. -/
theorem FreeOutput.insert {nodes : List Node} {before after : List Connection} {c : Connection}
    {curves : List (String × CurveShape α)} {node : Node} {attr name : String} {side : Side}
    (h : FreeOutput (.ofRecords nodes (before ++ after)) curves node attr part)
    (member : name ∈ part.components side axis)
    (agrees : (Graph.ofRecords nodes (before ++ after)).AgreesExcept
      (.ofRecords nodes (before ++ c :: after)) (Plug.named node.name name)) :
    FreeOutput (.ofRecords nodes (before ++ c :: after)) curves node attr part :=
  { h with
    declared := by
      have declared := h.declared
      rwa [Graph.nodes_ofRecords] at declared ⊢
    undriven := by
      obtain ⟨plain, bare, -, noOutput, -⟩ := component_is_input name member
      rw [← agrees.incoming?]
      · exact h.undriven
      · rw [h.fixed]
        intro same
        have split := h.split
        rw [same, (Plug.ofText?_named h.isNode plain).2, bare] at split
        obtain ⟨-, rfl⟩ := Plug.mk.inj (Option.some.inj split)
        rw [h.isOutput] at noOutput
        cases noOutput }

/-- A connection to a component of a pair blend changes the source of that component only. -/
theorem rewired_of_agreesExcept {g g' : Graph} {node : Node} {name : String} {side : Side}
    (isNode : Plug.IsNode node.name) (member : name ∈ part.components side axis)
    (agrees : g.AgreesExcept g' (Plug.named node.name name)) :
    Rewired ⟨g, node⟩ ⟨g', node⟩ part side axis := by
  obtain ⟨plain, bare, -, -, noWeight⟩ := component_is_input name member
  have source {input : String} (plain' : Attr.isPlain input = true)
      (bare' : Attr.withoutDot input = input) (other : input ≠ name) :
      Inputs.source? ⟨g, node⟩ input = Inputs.source? ⟨g', node⟩ input := by
    apply agrees.incoming?_named isNode plain'
    intro same
    have names := (Plug.eq_of_named_eq isNode isNode plain' plain same).2
    rw [bare, bare'] at names
    exact other names
  refine ⟨?_, ?_, rfl⟩
  · have plainWeight : ∀ input ∈ weightNames,
        Attr.isPlain input = true ∧ Attr.withoutDot input = input := by
      decide
    intro input listed
    obtain ⟨plain', bare'⟩ := plainWeight input listed
    apply source plain' bare'
    rintro rfl
    exact noWeight listed
  · intro part' side' axis' other input listed
    obtain ⟨plain', bare', -⟩ := component_is_input input listed
    apply source plain' bare'
    rintro rfl
    obtain ⟨rfl, rfl, rfl⟩ := eq_of_mem_components input listed member
    exact other rfl

section

variable [Scalar.LawfulSingle α] {nodes : List Node} {before after : List Connection}
  {curves : List (String × CurveShape α)} {node : Node} {attr name : String} {side : Side}
  {c : Connection}

/-- What an output reads keeps its meaning when a component of the same part is connected, because
the outputs that show the component need all that this one needs. -/
theorem FreeOutput.meaning?_insert
    (h : FreeOutput (.ofRecords nodes (before ++ after)) curves node attr part)
    (rotation : RotationBlend α) {frame : α} (member : name ∈ part.components side axis)
    (target : Plug.normalize c.target = Plug.named node.name name) :
    let fresh := Evaluator.ofGraph (.ofRecords nodes (before ++ after)) curves rotation
    let rewired := Evaluator.ofGraph (.ofRecords nodes (before ++ c :: after)) curves rotation
    (∀ text ∈ fresh.vocabulary,
      Plug.normalize text = text ∧ text ≠ Plug.named node.name name) →
    ∀ levels, fresh.context.meaning? frame levels (Plug.join node.name attr) = none →
    ∀ text ∈ fresh.vocabulary, ∀ value,
      fresh.context.meaning? frame levels text = some value →
        rewired.context.meaning? frame levels text = some value := by
  intro fresh rewired unread levels out text listed value means
  have sound : fresh.Sound := Evaluator.sound_ofGraph nodes (before ++ after) curves rotation
  obtain ⟨plain, bare, noArray, -⟩ := component_is_input name member
  have agrees : fresh.context.graph.AgreesExcept rewired.context.graph
      (Plug.named node.name name) :=
    Graph.agreesExcept_insert h.isNode plain (bare.symm ▸ noArray) target
  have inputs := rewired_of_agreesExcept h.isNode member agrees
  have found : fresh.context.graph.node? node.name = some node :=
    (Graph.node?_of_mem_nodes h.declared).1
  have kind := h.kind rotation
  have settle (plug : String) (outcome : Outcome α) :
      fresh.context.settle plug outcome = rewired.context.settle plug outcome := rfl
  refine Context.meaning?_rewired (fun text => sound.covered.asksOnly_reading frame text) settle out
    ?_ (Nat.le_refl _) listed means
  intro text listed
  obtain ⟨fixed, other⟩ := unread text listed
  by_cases shown : fresh.context.graph.incoming? text = none ∧
      ∃ output, Plug.ofText? text = some ⟨node.name, output⟩ ∧
        Formula.PairOutput.ofAttr output = part.output
  · right
    obtain ⟨free, output, split, shows⟩ := shown
    have read := reading_eq free split (h.curve_eq_none rotation) found kind shows h.linear frame
    have read' : fresh.context.reading frame (Plug.join node.name attr) =
        (fun value => .result (.value value)) <$>
          PairBlend.reading ⟨fresh.context.graph, node⟩ part ((Attr.axis? attr).getD .x) :=
      h.reading rotation frame
    intro reply answered
    simp only [read, read', Dialogue.answerM_map, Option.map_eq_map, Option.isSome_map]
      at answered ⊢
    exact isSome_answerM_reading answered
  · left
    refine Context.reading_rewired agrees h.isNode plain (h.curve_eq_none rotation)
      (Evaluator.keyed_ofGraph nodes (before ++ after) curves rotation) fixed other ?_
    intro free node' output found' split
    obtain rfl := Option.some.inj (found.symm.trans found')
    have hidden : Formula.PairOutput.ofAttr output ≠ part.output :=
      fun shows => shown ⟨free, output, split, shows⟩
    have kind' : rewired.context.kindOf node.name = .pairBlend := kind
    change fresh.context.nodeReading frame node output =
      rewired.context.nodeReading frame node output
    rw [nodeReading_eq kind, nodeReading_eq kind', inputs.pairBlend hidden]

end

end PairBlend

namespace Evaluator

open PairBlend

variable {α : Type} [Scalar α]

/-- What an output of a pair blend comes to along its axis, in terms of the values of other plugs,
and what is left of it when another axis of one side is connected. The side gives what it gave
before if one of its axes was connected already, and zero otherwise. -/
theorem evaluate_pairBlend [Scalar.LawfulSingle α] (nodes : List Node)
    (before after : List Connection) (c : Connection) (curves : List (String × CurveShape α))
    (rotation : RotationBlend α) (frame : α) (node : Node) (attr : String) (part : Part)
    (side : Side) (other : Axis) (name : String) :
    let graph := Graph.ofRecords nodes (before ++ after)
    let fresh := ofGraph graph curves rotation
    let rewired := ofGraph (.ofRecords nodes (before ++ c :: after)) curves rotation
    let plug := Plug.join node.name attr
    let pull := (Query.evaluate plug frame).run fresh
    let pull' := (Query.evaluate plug frame).run rewired
    let value (text : String) : α := ((Query.evaluate text frame).run fresh).value
    let inputs : Inputs := ⟨graph, node⟩
    let axis := (Attr.axis? attr).getD .x
    let weight := Scalar.clampUnit ((inputs.value weightNames).result value)
    let blend (first second : α) := (Context.round plug (Scalar.lerp first second weight)).value
    let given (side : Side) := inputs.along value (part.compound side) (part.components side) axis
    let left (side' : Side) := if side' = side then 0 else given side'
    FreeOutput graph curves node attr part →
    name ∈ part.components side other → other ≠ axis →
    Plug.normalize c.source ≠ "" → Plug.normalize c.target = Plug.named node.name name →
    (∀ text ∈ fresh.vocabulary, Plug.normalize text = text ∧ text ≠ Plug.named node.name name) →
    Acyclic pull.events → Acyclic pull'.events →
      pull.value = blend (given .first) (given .second) ∧
      pull'.value =
        if inputs.isConnected (part.components side) then blend (given .first) (given .second)
        else blend (left .first) (left .second) := by
  intro graph fresh rewired plug pull pull' value inputs axis weight blend given left h member apart
    source target unread clean clean'
  obtain ⟨plain, bare, noArray, -⟩ := component_is_input name member
  have sound : fresh.Sound := sound_ofGraph nodes (before ++ after) curves rotation
  have agrees : graph.AgreesExcept (.ofRecords nodes (before ++ c :: after))
      (Plug.named node.name name) :=
    Graph.agreesExcept_insert h.isNode plain (bare.symm ▸ noArray) target
  have changed : Rewired inputs ⟨.ofRecords nodes (before ++ c :: after), node⟩ part side other :=
    rewired_of_agreesExcept h.isNode member agrees
  have driven :
      (Inputs.source? ⟨.ofRecords nodes (before ++ c :: after), node⟩ name).isSome = true :=
    Graph.isSome_incoming?_insert source target (Plug.ofText?_named h.isNode plain).1
      (Plug.named_ne_empty node.name name)
  have connected' := Inputs.isConnected_of_mem member driven
  obtain ⟨levels, result, out, answered, same⟩ := h.exists_answered rotation clean
  obtain ⟨levels', result', -, answered', same'⟩ :=
    (h.insert member agrees).exists_answered rotation clean'
  have feeds : ∀ plug, inputs.Feeds plug → plug ∈ fresh.vocabulary := by
    rintro plug ⟨attr, source, -, driven, rfl⟩
    exact sound.covered.source driven
  have reply : ∀ plug, inputs.Feeds plug → ∀ r,
      fresh.context.meaning? frame levels plug = some r → value plug = r :=
    fun plug fed r => value_of_meaning? (unread plug (feeds plug fed)).1
  have agree : ∀ plug, inputs.Feeds plug → ∀ r r',
      fresh.context.meaning? frame levels plug = some r →
        rewired.context.meaning? frame levels' plug = some r' → r' = r := by
    intro plug fed r r' means means'
    have kept := h.meaning?_insert rotation member target unread levels out plug (feeds plug fed) r
      means
    exact Context.meaning?_unique means' kept
  obtain ⟨first, second⟩ := changed.reading apart.symm connected' reply agree answered answered'
  refine ⟨by rw [same, first], ?_⟩
  rw [same', second]
  split <;> rfl

/-- A packed triple against a connected component, before and after another component of the packed
one is connected. -/
theorem evaluate_pairBlend_packed :
    let node : Node := ⟨"p", "pairBlend", [⟨"inTranslate1", ["1", "2", "3"]⟩, ⟨"weight", ["0.25"]⟩]⟩
    let nodes : List Node := [node, ⟨"a", "addDoubleLinear", [⟨"input1", ["8"]⟩]⟩]
    let before : List Connection := []
    let after : List Connection := [⟨"a.output", "p.inTranslateX2", false⟩]
    let c : Connection := ⟨"a.output", "p.it1y", false⟩
    let graph := Graph.ofRecords nodes (before ++ after)
    let fresh : Evaluator Float := ofGraph graph [] slerpEuler
    let rewired : Evaluator Float := ofGraph (.ofRecords nodes (before ++ c :: after)) [] slerpEuler
    let plug := Plug.join node.name "outTranslateX"
    let pull := (Query.evaluate plug 1).run fresh
    let pull' := (Query.evaluate plug 1).run rewired
    FreeOutput graph ([] : List (String × CurveShape Float)) node "outTranslateX" .translation ∧
      Acyclic pull.events ∧ Acyclic pull'.events ∧ pull.value = 2.75 ∧ pull'.value = 2 := by
  intro node nodes before after c graph fresh rewired plug pull pull'
  have free : FreeOutput graph ([] : List (String × CurveShape Float)) node "outTranslateX"
      .translation :=
    ⟨by decide +kernel, by decide, by decide, by decide, by decide, by rfl, trivial,
      by decide +kernel, nofun⟩
  have clean : Acyclic pull.events := by
    unfold Acyclic
    decide +kernel
  have clean' : Acyclic pull'.events := by
    unfold Acyclic
    decide +kernel
  obtain ⟨first, second⟩ := evaluate_pairBlend nodes before after c []
    slerpEuler 1 node "outTranslateX" .translation .first .y "it1y" free (by decide) (by decide)
    (by decide) (by decide) (by decide +kernel) clean clean'
  exact ⟨free, clean, clean', first.trans (by decide +kernel), second.trans (by decide +kernel)⟩

/-- An authored component, before and after another one of its triple is connected. -/
theorem pairBlend_axes_interfere :
    let nodes : List Node := [⟨"p", "pairBlend", [⟨"inTranslate1X", ["5"]⟩]⟩,
      ⟨"a", "addDoubleLinear", [⟨"input1", ["3"]⟩]⟩]
    let c : Connection := ⟨"a.output", "p.inTranslate1Y", false⟩
    let fresh : Evaluator Float := ofGraph (.ofRecords nodes []) [] slerpEuler
    let rewired : Evaluator Float := ofGraph (.ofRecords nodes [c]) [] slerpEuler
    let pull := (Query.evaluate "p.outTranslateX" 1).run fresh
    let pull' := (Query.evaluate "p.outTranslateX" 1).run rewired
    Acyclic pull.events ∧ Acyclic pull'.events ∧ pull.value = 5 ∧ pull'.value = 0 := by
  unfold Acyclic
  decide +kernel

end Evaluator

end PlugGraph
