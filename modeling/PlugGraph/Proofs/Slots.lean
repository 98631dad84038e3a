import PlugGraph.Proofs.Anchor
import PlugGraph.Proofs.Elements
import PlugGraph.Proofs.Precision

/-!
# Output slots and whole programs

An output slot of an expression node is computed as one plug: the local statements in front of the
one that feeds it are run for their variables, the statements of other slots are skipped, and the
plugs that names denote are read on the way. To run the whole program, every name is resolved by a
query of its own. If no cycle is reported then, all names have meanings, and the slot gets the value
that the program gives to the statement feeding it: `Evaluator.evaluate_slot`.

For this the attribute has to be recognized as a slot, and it is not if its numeral is too long to
be read. It is read as authored then: `Evaluator.evaluate_longSlot`.
-/

namespace PlugGraph

/-! ### One slot of a program -/

namespace Expr.Program

variable {α : Type} [Scalar α]

/-- The value of the statement that feeds a slot; zero if there is none. -/
def slotValue (entries : List (Assignment × α)) (slot : Nat) : α :=
  ((entries.filter (!·.1.isLocal))[slot]?.map (·.2)).getD 0

/-- When all statements can be answered, so can each slot, with the value of its statement. -/
theorem answerM_slotFrom {reply : String → Option (Option α)} {frame : α}
    {assignments : List Assignment} {locals : Postfix.Variables α} {entries : List (Assignment × α)}
    (answered : (valuesFrom frame locals assignments).answerM reply = some entries) (slot : Nat) :
    (slotFrom frame locals assignments slot).answerM reply = some (slotValue entries slot) := by
  induction assignments generalizing locals entries slot with
  | nil =>
    cases answered
    rfl
  | cons a rest ih =>
    simp only [valuesFrom, Dialogue.bind_eq, Dialogue.answerM_bind] at answered
    obtain ⟨value, first, answered⟩ := Option.bind_eq_some_iff.mp answered
    obtain ⟨later, others, last⟩ := Option.bind_eq_some_iff.mp answered
    obtain rfl : (a, value) :: later = entries := Option.some.inj last
    cases scope : a.isLocal with
    | true =>
      simp only [scope, if_true] at others
      have skipped : slotValue ((a, value) :: later) slot = slotValue later slot := by
        simp [slotValue, scope]
      simp only [slotFrom, scope, if_true, Dialogue.bind_eq, Dialogue.answerM_bind, first, skipped]
      exact ih others slot
    | false =>
      simp only [scope, Bool.false_eq_true, if_false] at others
      cases slot with
      | zero => simpa [slotFrom, scope, slotValue] using first
      | succ slot =>
        have skipped : slotValue ((a, value) :: later) (slot + 1) = slotValue later slot := by
          simp [slotValue, scope]
        simp only [slotFrom, scope, Bool.false_eq_true, if_false, skipped]
        exact ih others slot

end Expr.Program

/-! ### The meaning of a name -/

namespace Context

variable {α : Type} [Scalar α] {c : Context α} {frame : α} {levels levels' : Nat} {name : String}

/-- The value of a name that plain recursion finds within so many levels. -/
def tokenMeaning? (c : Context α) (frame : α) (levels : Nat) (name : String) : Option α :=
  (c.tokenValue name).answerM (c.meaning? frame levels)

theorem tokenMeaning?_of_tokenPlug? {plug : String} (denotes : c.tokenPlug? name = some plug) :
    c.tokenMeaning? frame levels name = c.meaning? frame levels (Plug.normalize plug) := by
  simp only [tokenMeaning?, tokenValue, denotes]
  exact bind_pure _

theorem tokenMeaning?_of_none (nothing : c.tokenPlug? name = none) :
    c.tokenMeaning? frame levels name = some 0 := by
  simp only [tokenMeaning?, tokenValue, nothing]
  rfl

theorem tokenMeaning?_mono {value : α} (le : levels ≤ levels')
    (h : c.tokenMeaning? frame levels name = some value) :
    c.tokenMeaning? frame levels' name = some value :=
  Dialogue.answerM_mono (Context.meaning?_mono le) h

theorem answerM_tokenMeaning?_mono {ω : Type} {d : Dialogue String (Option α) ω} {result : ω}
    (le : levels ≤ levels')
    (h : d.answerM (some <$> c.tokenMeaning? frame levels ·) = some result) :
    d.answerM (some <$> c.tokenMeaning? frame levels' ·) = some result := by
  refine Dialogue.answerM_mono (fun {name reply} found => ?_) h
  obtain ⟨value, means, rfl⟩ := Option.map_eq_some_iff.mp found
  exact Option.map_eq_some_iff.mpr ⟨value, tokenMeaning?_mono le means, rfl⟩

end Context

namespace Evaluator

variable {α : Type} [Scalar α] {c : Context α} {frame : α} {e : Evaluator α} {name : String}

namespace Consistent

theorem tokenPlug?_eq (h : e.Consistent c frame) (name : String) :
    c.tokenPlug? name = e.context.tokenPlug? name :=
  h.bare ▸ rfl

theorem program (h : e.Consistent c frame) {name : String} {node : Node}
    (found : e.context.graph.node? name = some node) :
    ((Query.program node).run e).evaluator.Consistent c frame where
  sound := h.sound.program node
  bare := h.bare
  keyed := h.keyed
  faithful := h.faithful.keepProgram h.keyed found
  anchor := h.anchor
  justified := h.justified

/-- A name that is resolved without a cycle has a meaning, and gets it. -/
theorem means_resolve (h : e.Consistent c frame) (name : String)
    (clean : Acyclic ((Query.resolve name frame).run e).events) :
    (∃ levels, c.tokenMeaning? frame levels name = some ((Query.resolve name frame).run e).value) ∧
      ((Query.resolve name frame).run e).evaluator.Consistent c frame := by
  cases named : (Plug.ofPath? name).isSome with
  | false =>
    have nothing : c.tokenPlug? name = none := by
      rw [← Option.not_isSome_iff_eq_none, Context.isSome_tokenPlug?, named]
      exact Bool.false_ne_true
    rw [Query.resolve_of_nameless named]
    exact ⟨⟨0, Context.tokenMeaning?_of_none nothing⟩, h⟩
  | true =>
    obtain ⟨plug, notBlank, denotes, same⟩ := Query.exists_resolve_eq named frame e
    rw [← h.tokenPlug?_eq] at denotes
    rw [same] at clean ⊢
    obtain ⟨means, after⟩ := h.denotes_evaluate plug clean
    rw [Context.Denotes, if_neg (by simp [notBlank])] at means
    obtain ⟨levels, means⟩ := means
    exact ⟨⟨levels, (Context.tokenMeaning?_of_tokenPlug? denotes).trans means⟩, after⟩

/-- What is answered without a cycle is answered with meanings. -/
theorem means_answer {ω : Type} (h : e.Consistent c frame) (d : Dialogue String (Option α) ω)
    (clean : Acyclic ((Query.answer frame d).run e).events) :
    ∃ levels, d.answerM (some <$> c.tokenMeaning? frame levels ·) =
      some ((Query.answer frame d).run e).value := by
  induction d generalizing e with
  | done result => exact ⟨0, rfl⟩
  | ask name next ih =>
    rw [Query.run_answer_ask] at clean ⊢
    obtain ⟨first, rest⟩ := Acyclic.append.mp clean
    obtain ⟨⟨levels, means⟩, after⟩ := h.means_resolve name first
    obtain ⟨levels', answered⟩ := ih _ after rest
    refine ⟨max levels levels', ?_⟩
    have asked := Context.tokenMeaning?_mono (Nat.le_max_left levels levels') means
    simp only [Dialogue.answerM_ask, asked]
    exact Context.answerM_tokenMeaning?_mono (Nat.le_max_right levels levels') answered

end Consistent

end Evaluator

/-! ### Output slots of a scene -/

/-- Nodes get the kind of their type. -/
theorem Evaluator.kindOf_ofGraph {α : Type} [Scalar α] {nodes : List Node}
    {connections : List Connection} (curves : List (String × CurveShape α))
    (rotation : RotationBlend α) {node : Node}
    (declared : node ∈ (Graph.ofRecords nodes connections).nodes) :
    (ofGraph (.ofRecords nodes connections) curves rotation).context.kindOf node.name =
      Kind.ofType node.type := by
  rw [Context.kindOf, Std.ExtTreeMap.getD_eq_getD_getElem?, kinds_ofGraph,
    (Graph.node?_of_mem_nodes declared).1]
  rfl

def Node.slotPlug (node : Node) (slot : Nat) : String :=
  Plug.join node.name (Attr.element "output" slot)

theorem Node.ofText?_slotPlug {node : Node} (named : Plug.IsNode node.name) (slot : Nat) :
    Plug.normalize (node.slotPlug slot) = node.slotPlug slot ∧
      Plug.ofText? (node.slotPlug slot) = some ⟨node.name, Attr.element "output" slot⟩ := by
  have split := Plug.ofText?_named named (Attr.isPlain_element "output" slot)
  rwa [Plug.named, Attr.withoutDot_element (by decide)] at split

/-- An element is found behind attributes that are no elements. -/
theorem Node.attribute?_element {node : Node} {array : String} {i : Int} {values : List String}
    {others : List Attribute} (noDot : array.toList.head? ≠ some '.')
    (authored : node.attributes = others ++ [⟨Attr.element array i, values⟩])
    (noElements : ∀ a ∈ others, '[' ∉ a.name.toList) :
    node.attribute? (Attr.element array i) = some ⟨Attr.element array i, values⟩ := by
  have own : (Attribute.mk (Attr.element array i) values).name = Attr.element array i :=
    Attr.withoutDot_element noDot i
  have skipped : others.find? (·.name == Attr.element array i) = none :=
    List.find?_eq_none.mpr fun a member => by simp [Attr.ne_element (noElements a member)]
  rw [attribute?, Attr.withoutDot_element noDot, authored, List.find?_append, skipped]
  simp [own]

theorem Attr.slot?_output (slot : Nat) :
    slot? (element "output" slot) =
      if (Nat.toDigits 10 slot).length ≤ Numeral.integerDigitLimit then some (slot : Int)
      else none := by
  have array : arrayName? (element "output" slot) = some "output" :=
    arrayName?_element (by decide) (by decide) (by decide) slot
  have listed : slotArrays.contains (Text.lower "output") = true := by decide
  simp only [slot?, array, listed, if_true]
  exact index?_element (by decide) slot

/-- An output slot of an expression node of a scene, which neither a connection nor a curve stands
in for. -/
structure FreeSlot {α : Type} (graph : Graph) (curves : List (String × CurveShape α)) (node : Node)
    (slot : Nat) : Prop where
  declared : node ∈ graph.nodes
  expression : Kind.ofType node.type = .expression
  noDot : '.' ∉ node.name.toList
  fixed : Plug.normalize (node.slotPlug slot) = node.slotPlug slot
  undriven : graph.incoming? (node.slotPlug slot) = none
  noCurve : ∀ curve ∈ curves, curve.1 ≠ node.name

namespace FreeSlot

variable {α : Type} {nodes : List Node} {connections : List Connection}
  {curves : List (String × CurveShape α)} {node : Node} {slot : Nat}

theorem isNode (h : FreeSlot (.ofRecords nodes connections) curves node slot) :
    Plug.IsNode node.name :=
  Plug.isNode_of_join h.fixed (Graph.node?_of_mem_nodes h.declared).2 h.noDot

theorem reading [Scalar α] (h : FreeSlot (.ofRecords nodes connections) curves node slot)
    (rotation : RotationBlend α) (frame : α) :
    let c := (Evaluator.ofGraph (.ofRecords nodes connections) curves rotation).context
    c.reading frame (node.slotPlug slot) =
      (fun value => .result (.value value)) <$>
        c.expressionReading frame node (Attr.element "output" slot) := by
  intro c
  have found : c.graph.node? node.name = some node := (Graph.node?_of_mem_nodes h.declared).1
  have noCurve : c.curves[node.name]? = none := by
    refine (Graph.getElem?_foldl_insert_of_ne h.noCurve ∅).trans ?_
    simp
  have kind : c.kindOf node.name = .expression :=
    (Evaluator.kindOf_ofGraph curves rotation h.declared).trans h.expression
  have undriven : c.graph.incoming? (node.slotPlug slot) = none := h.undriven
  have split := (Node.ofText?_slotPlug h.isNode slot).2
  simp only [Context.reading, undriven, split, noCurve, found, Context.nodeReading, kind, if_true]

theorem not_isBlankText_slotPlug (node : Node) (slot : Nat) :
    Text.isBlankText (node.slotPlug slot) = false := by
  have named := Plug.not_isBlankText_named node.name (Attr.element "output" slot)
  rwa [Plug.named, Attr.withoutDot_element (by decide)] at named

/-- What reading the slot comes to is its value. -/
theorem denotes [Scalar α] (h : FreeSlot (.ofRecords nodes connections) curves node slot)
    (rotation : RotationBlend α) {frame value : α} {levels : Nat} :
    let c := (Evaluator.ofGraph (.ofRecords nodes connections) curves rotation).context
    (c.expressionReading frame node (Attr.element "output" slot)).answerM
        (c.meaning? frame levels) = some value →
      c.Denotes frame (node.slotPlug slot) (Context.round (node.slotPlug slot) value).value := by
  intro c answered
  rw [Context.Denotes, if_neg (by simp [not_isBlankText_slotPlug]), h.fixed]
  refine ⟨levels + 1, ?_⟩
  rw [Context.meaning?_succ, h.reading rotation frame, Dialogue.answerM_map, answered]
  rfl

end FreeSlot

namespace Query

variable {α : Type} [Scalar α]

/-- The statements of a node's program with their values. Each name is resolved by a query of its
own. -/
def programValues (node : Node) (frame : α) : Query α (List (Expr.Assignment × α)) := do
  answer frame ((← program node).values frame)

theorem run_programValues (node : Node) (frame : α) (e : Evaluator α) :
    (programValues node frame).run e =
      (answer frame ((e.context.program node).values frame)).run
        ((program node).run e).evaluator :=
  rfl

end Query

namespace Evaluator

variable {α : Type} [Scalar α]

/-- A program that is run without a cycle is answered with meanings. -/
theorem Consistent.means_programValues {c : Context α} {frame : α} {e : Evaluator α}
    (h : e.Consistent c frame) {name : String} {node : Node}
    (found : e.context.graph.node? name = some node)
    (clean : Acyclic ((Query.programValues node frame).run e).events) :
    ∃ levels, ((e.context.program node).values frame).answerM
        (some <$> c.tokenMeaning? frame levels ·) =
      some ((Query.programValues node frame).run e).value := by
  rw [Query.run_programValues] at clean ⊢
  exact (h.program found).means_answer _ clean

/-- If the whole program can be run without a cycle, then a slot can be computed without one, and
gets the value of the statement that feeds it. -/
theorem evaluate_slot [Scalar.LawfulSingle α] (nodes : List Node) (connections : List Connection)
    (curves : List (String × CurveShape α)) (rotation : RotationBlend α) (node : Node) (slot : Nat)
    (frame : α) (h : FreeSlot (.ofRecords nodes connections) curves node slot)
    (short : (Nat.toDigits 10 slot).length ≤ Numeral.integerDigitLimit) :
    let fresh := ofGraph (.ofRecords nodes connections) curves rotation
    let push := (Query.programValues node frame).run fresh
    let pull := (Query.evaluate (node.slotPlug slot) frame).run fresh
    Acyclic push.events →
      pull.value = Expr.Program.slotValue push.value slot ∧ Acyclic pull.events := by
  intro fresh push pull clean
  have start : fresh.Consistent fresh.context frame :=
    consistent_ofGraph nodes connections curves rotation frame
  have found : fresh.context.graph.node? node.name = some node :=
    (Graph.node?_of_mem_nodes h.declared).1
  obtain ⟨levels, answered⟩ := start.means_programValues found clean
  have fed := Expr.Program.answerM_slotFrom answered slot
  have read : (fresh.context.expressionReading frame node (Attr.element "output" slot)).answerM
      (fresh.context.meaning? frame levels) =
        some (Expr.Program.slotValue push.value slot) := by
    simp only [Context.expressionReading, Attr.slot?_output, if_pos short,
      Dialogue.answerM_substitute, Dialogue.answerM_map]
    exact fed
  have single : Scalar.IsSingle (Expr.Program.slotValue push.value slot) :=
    Dialogue.EndsIn.of_answerM (Expr.endsIn_slotFrom _ _ _ _) fed
  have rounded :
      (Context.round (node.slotPlug slot) (Expr.Program.slotValue push.value slot)).value =
        Expr.Program.slotValue push.value slot := by
    rw [Context.round_of_isSingle _ single]
  have denotes := h.denotes rotation read
  rw [rounded] at denotes
  obtain ⟨same, acyclic, -⟩ := start.evaluate_of_denotes denotes
  exact ⟨same, acyclic⟩

/-- The second slot of a program with a variable and a name. -/
theorem evaluate_slot_second :
    let node : Node :=
      ⟨"n", "expression", [⟨"ixp", ["float $k = a.x * 2; b.tx = $k; b.ty = $k + a.x;"]⟩]⟩
    let nodes : List Node := [node, ⟨"a", "transform", [⟨"x", ["2"]⟩]⟩]
    let fresh : Evaluator Float := ofGraph (.ofRecords nodes []) [] slerpEuler
    let push := (Query.programValues node 1).run fresh
    FreeSlot (.ofRecords nodes []) ([] : List (String × CurveShape Float)) node 1 ∧
      Acyclic push.events ∧ push.value.map (·.1.isLocal) = [true, false, false] ∧
      ((Query.evaluate "n.output[1]" 1).run fresh).value = Expr.Program.slotValue push.value 1 := by
  intro node nodes fresh push
  have free : FreeSlot (.ofRecords nodes []) ([] : List (String × CurveShape Float)) node 1 :=
    ⟨by decide +kernel, by decide +kernel, by decide, by decide +kernel, by decide +kernel, nofun⟩
  have clean : Acyclic push.events := by
    unfold Acyclic
    decide +kernel
  have same := evaluate_slot nodes [] [] slerpEuler node 1 1 free (by decide) clean
  exact ⟨free, clean, by decide +kernel, same.1⟩

/-- A slot whose numeral is too long is read as authored. -/
theorem evaluate_longSlot (nodes : List Node) (connections : List Connection)
    (curves : List (String × CurveShape α)) (rotation : RotationBlend α) (node : Node) (slot : Nat)
    (frame : α) (h : FreeSlot (.ofRecords nodes connections) curves node slot)
    (long : Numeral.integerDigitLimit < (Nat.toDigits 10 slot).length) :
    let fresh := ofGraph (.ofRecords nodes connections) curves rotation
    let pull := (Query.evaluate (node.slotPlug slot) frame).run fresh
    let authored := (node.literal? (Attr.element "output" slot)).map Scalar.single
    pull.value =
      (Context.round (node.slotPlug slot) (Inputs.plainZero (authored.getD 0))).value ∧
        Acyclic pull.events := by
  intro fresh pull authored
  have start : fresh.Consistent fresh.context frame :=
    consistent_ofGraph nodes connections curves rotation frame
  have literal : Inputs.literal? ⟨fresh.context.graph, node⟩ [Attr.element "output" slot] =
      authored := by
    simp [Inputs.literal?, authored]
  have read : (fresh.context.expressionReading frame node (Attr.element "output" slot)).answerM
      (fresh.context.meaning? frame 0) = some (Inputs.plainZero (authored.getD 0)) := by
    simp only [Context.expressionReading, Attr.slot?_output, if_neg (Nat.not_le.mpr long), literal]
    rfl
  obtain ⟨same, acyclic, -⟩ := start.evaluate_of_denotes (h.denotes rotation read)
  exact ⟨same, acyclic⟩

/-- A program without statements, and a number authored for a slot whose numeral is too long. -/
theorem value_ne_slotValue_of_longSlot (slot : Nat)
    (long : Numeral.integerDigitLimit < (Nat.toDigits 10 slot).length) :
    let node : Node := ⟨"n", "expression", [⟨"ixp", [""]⟩, ⟨Attr.element "output" slot, ["5"]⟩]⟩
    let fresh : Evaluator Float := ofGraph (.ofRecords [node] []) [] slerpEuler
    let push := (Query.programValues node 1).run fresh
    let pull := (Query.evaluate (node.slotPlug slot) 1).run fresh
    FreeSlot (.ofRecords [node] []) ([] : List (String × CurveShape Float)) node slot ∧
      Acyclic push.events ∧ Acyclic pull.events ∧
      pull.value ≠ Expr.Program.slotValue push.value slot := by
  intro node fresh push pull
  have isNode : Plug.IsNode "n" := ⟨⟨'n', by decide, by decide⟩, by decide⟩
  have kind : Kind.ofType "expression" = .expression := by decide
  have free : FreeSlot (.ofRecords [node] []) ([] : List (String × CurveShape Float)) node slot :=
    { declared := by
        rw [Graph.nodes_ofRecords]
        simp [Graph.keepFirst, node]
      expression := kind
      noDot := isNode.noDot
      fixed := (Node.ofText?_slotPlug isNode slot).1
      undriven := by simp [Graph.incoming?, Graph.ofRecords]
      noCurve := nofun }
  have empty : (fresh.context.program node) = ⟨[]⟩ := by rfl
  have pushed : push = ⟨[], [], ((Query.program node).run fresh).evaluator⟩ := by
    refine (Query.run_programValues node 1 fresh).trans ?_
    rw [empty]
    rfl
  have noElement : ∀ a ∈ [Attribute.mk "ixp" [""]], '[' ∉ a.name.toList := by decide
  have kept : node.attribute? (Attr.element "output" slot) =
      some ⟨Attr.element "output" slot, ["5"]⟩ :=
    Node.attribute?_element (by decide) rfl noElement
  have authored : node.literal? (Attr.element "output" slot) =
      Attribute.value? (α := Float) ⟨"", ["5"]⟩ := by
    rw [Node.literal?, kept]
    rfl
  obtain ⟨same, clean⟩ := evaluate_longSlot [node] [] [] slerpEuler node slot 1 free long
  refine ⟨free, by rw [pushed]; exact .nil, clean, fun equal => ?_⟩
  rw [authored, Context.value_round _ ""] at same
  have zero : Expr.Program.slotValue push.value slot = 0 := by rw [pushed]; rfl
  exact absurd (congrArg (· == 0) (same.symm.trans (equal.trans zero))) (by decide +kernel)

/-- The shortest numeral that is too long. -/
theorem value_ne_slotValue_of_4301_digits :
    let slot := Nat.pow 10 Numeral.integerDigitLimit
    let node : Node := ⟨"n", "expression", [⟨"ixp", [""]⟩, ⟨Attr.element "output" slot, ["5"]⟩]⟩
    let fresh : Evaluator Float := ofGraph (.ofRecords [node] []) [] slerpEuler
    let push := (Query.programValues node 1).run fresh
    let pull := (Query.evaluate (node.slotPlug slot) 1).run fresh
    FreeSlot (.ofRecords [node] []) ([] : List (String × CurveShape Float)) node slot ∧
      Acyclic push.events ∧ Acyclic pull.events ∧
      pull.value ≠ Expr.Program.slotValue push.value slot :=
  value_ne_slotValue_of_longSlot _ (Numeral.lt_length_toDigits_pow (by decide))

end Evaluator

end PlugGraph
