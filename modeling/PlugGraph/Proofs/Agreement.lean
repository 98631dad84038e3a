import PlugGraph.Proofs.Order

/-!
# Graphs that evaluation cannot tell apart

Evaluation asks a graph three things: which source drives a plug, which indices of an array are in
use, and which node has a name. Graphs that agree about these give the same inputs to every formula,
so every reading is the same in both, whatever records they were built from. The programs that have
been kept change no reading either, as long as they are those of their nodes: `Context.Akin`.
-/

namespace PlugGraph

/-- Graphs that give the same answers to whatever evaluation asks. -/
structure Graph.Agrees (g g' : Graph) : Prop where
  incoming? : ∀ text, g.incoming? text = g'.incoming? text
  arrayIndices : ∀ node array, g.arrayIndices node array = g'.arrayIndices node array
  table : g.table = g'.table

namespace Graph.Agrees

variable {g g' : Graph}

theorem refl (g : Graph) : g.Agrees g := ⟨fun _ => rfl, fun _ _ => rfl, rfl⟩

theorem symm (h : g.Agrees g') : g'.Agrees g :=
  ⟨fun text => (h.incoming? text).symm, fun node array => (h.arrayIndices node array).symm,
    h.table.symm⟩

theorem node? (h : g.Agrees g') (name : String) : g.node? name = g'.node? name := by
  rw [Graph.node?, Graph.node?, h.table]

theorem contains (h : g.Agrees g') (name : String) : g.contains name = g'.contains name := by
  rw [Graph.contains, Graph.contains, h.table]

end Graph.Agrees

section Formulas

theorem findSome?_congr {ι ω : Type} {f g : ι → Option ω} {items : List ι}
    (same : ∀ item ∈ items, f item = g item) : items.findSome? f = items.findSome? g := by
  induction items with
  | nil => rfl
  | cons item rest ih =>
    obtain ⟨here, later⟩ := List.forall_mem_cons.mp same
    rw [List.findSome?_cons, List.findSome?_cons, here, ih later]

variable {α : Type} [Scalar α]

/-- The first source among some names is the same if each name has the same one. -/
theorem Inputs.connected_congr {inputs inputs' : Inputs} {names : List String}
    (same : ∀ name ∈ names, inputs.source? name = inputs'.source? name) :
    inputs.connected (α := α) names = inputs'.connected names := by
  simp only [Inputs.connected, findSome?_congr same]

/-- Inputs of one node that come from the same sources, as far as names go that end in a plain
character. Formulas ask for no others. -/
structure Inputs.Agrees (inputs inputs' : Inputs) : Prop where
  source? : ∀ attr, Attr.isPlain attr = true → inputs.source? attr = inputs'.source? attr
  indices : inputs.indices = inputs'.indices
  node : inputs.node = inputs'.node

theorem Graph.Agrees.inputs {g g' : Graph} (h : g.Agrees g') (node : Node) :
    Inputs.Agrees ⟨g, node⟩ ⟨g', node⟩ where
  source? _ _ := h.incoming? _
  indices := by
    funext arrays
    simp only [Inputs.indices, h.arrayIndices]
  node := rfl

namespace Inputs.Agrees

variable {inputs inputs' : Inputs} {names : List String}

theorem connected (h : inputs.Agrees inputs') (plain : names.all Attr.isPlain = true) :
    inputs.connected (α := α) names = inputs'.connected names :=
  Inputs.connected_congr fun name member => h.source? name (List.all_eq_true.mp plain name member)

theorem literal? (h : inputs.Agrees inputs') : inputs.literal? (α := α) = inputs'.literal? := by
  funext names
  simp only [Inputs.literal?, h.node]

theorem given (h : inputs.Agrees inputs') (plain : names.all Attr.isPlain = true) :
    inputs.given (α := α) names = inputs'.given names := by
  simp only [Inputs.given, h.connected plain, h.literal?]

theorem value (h : inputs.Agrees inputs') (plain : names.all Attr.isPlain = true) :
    inputs.value (α := α) names = inputs'.value names := by
  simp only [Inputs.value, Inputs.valueOr, h.given plain]

theorem component (h : inputs.Agrees inputs') {long short : String} {letter : Option Char}
    (letters : ∀ c ∈ letter, Attr.IsPlainLetter c) (plain : [long, short].all Attr.isPlain = true) :
    inputs.component (α := α) long short letter = inputs'.component long short letter :=
  h.value (Attr.plain_componentNames plain letters)

theorem option (h : inputs.Agrees inputs') : inputs.option (α := α) = inputs'.option := by
  funext keys fallback
  simp only [Inputs.option, h.node]

theorem element (h : inputs.Agrees inputs') : inputs.element (α := α) = inputs'.element := by
  funext array index fallback
  have given : inputs.given (α := α) [Attr.element array index] =
      inputs'.given [Attr.element array index] :=
    h.given (by simp [Attr.isPlain_element])
  simp only [Inputs.element, Inputs.valueOr, given]

theorem hasElement (h : inputs.Agrees inputs') :
    inputs.hasElement α = inputs'.hasElement α := by
  funext array index
  simp only [Inputs.hasElement, h.source? _ (Attr.isPlain_element array index), h.node]

theorem triple (h : inputs.Agrees inputs') (compound : List String) {names : Axis → List String}
    (plain : ∀ axis, (names axis).all Attr.isPlain = true) :
    inputs.triple (α := α) compound names = inputs'.triple compound names := by
  simp only [Inputs.triple, Inputs.packed?, h.connected (plain _), h.literal?, h.node]

end Inputs.Agrees

namespace Formula

variable {inputs inputs' : Inputs}

theorem terms_congr (h : inputs.Agrees inputs') {names : List (List String)}
    (plain : ∀ entry ∈ names, entry.all Attr.isPlain = true) :
    terms (α := α) inputs names = terms inputs' names := by
  induction names with
  | nil => rfl
  | cons entry rest ih =>
    obtain ⟨first, others⟩ := List.forall_mem_cons.mp plain
    simp only [terms, h.given first, ih others]

theorem weightedSum_congr (h : inputs.Agrees inputs') (indices : List Int) (total weights : α) :
    weightedSum inputs indices total weights = weightedSum inputs' indices total weights := by
  induction indices generalizing total weights with
  | nil => rfl
  | cons i rest ih => simp only [weightedSum, h.element, ih]

theorem numberedTriple_congr (h : inputs.Agrees inputs') (long short : String) {number : String}
    (plain : Attr.isPlain number = true) :
    numberedTriple (α := α) inputs long short number =
      numberedTriple inputs' long short number :=
  h.triple _ fun axis => plain_numberedTriple long short plain axis

/-- Formulas come to the same computation on inputs that agree. -/
theorem ofKind?_congr (h : inputs.Agrees inputs') (kind : Kind) (attr : String) :
    ofKind? (α := α) kind inputs attr = ofKind? kind inputs' attr := by
  have value {names : List String} (plain : names.all Attr.isPlain = true) :=
    h.value (α := α) plain
  have axis {long short : String} (plain : [long, short].all Attr.isPlain = true) :=
    h.component (α := α) (isPlainLetter_axisLetter attr) plain
  have color {long short : String} (plain : [long, short].all Attr.isPlain = true) :=
    h.component (α := α) (isPlainLetter_colorLetter attr) plain
  have option := h.option (α := α)
  have operation : operation (α := α) inputs = operation inputs' :=
    funext fun fallback => by simp only [Formula.operation, option]
  have weight : blendWeight (α := α) inputs = blendWeight inputs' := by
    simp (disch := decide) only [blendWeight, value]
  have argument : argument (α := α) inputs = argument inputs' := value (by decide)
  cases kind <;> simp only [ofKind?]
  case animBlend => simp (disch := decide) only [animBlend, value, weight]
  case animBlendAdditive => simp (disch := decide) only [animBlendAdditive, value, weight]
  case blendTwoAttr => simp (disch := decide) only [blendTwoAttr, value]
  case unitConversion => simp (disch := decide) only [unitConversion, value, option]
  case addDoubleLinear => simp (disch := decide) only [addDoubleLinear, value]
  case multDoubleLinear => simp (disch := decide) only [multDoubleLinear, value]
  case plusMinusAverage =>
    have names : termNames inputs attr = termNames inputs' attr := by
      simp only [termNames, h.indices]
    have terms := terms_congr (α := α) h (plain_termNames inputs' attr)
    simp only [plusMinusAverage, operation, names, terms]
  case multiplyDivide => simp (disch := decide) only [multiplyDivide, operation, axis]
  case condition => simp (disch := decide) only [condition, operation, value, color]
  case clamp => simp (disch := decide) only [clamp, color]
  case setRange => simp (disch := decide) only [setRange, axis]
  case blendColors => simp (disch := decide) only [blendColors, value, color]
  case reverse => simp (disch := decide) only [reverse, axis]
  case remapValue => simp (disch := decide) only [remapValue, value]
  case choice => simp (disch := decide) only [choice, value, h.hasElement, h.element, h.indices]
  case blendWeighted => simp only [blendWeighted, option, h.indices, weightedSum_congr h]
  case pairBlend =>
    simp (disch := decide) only [pairBlend, numberedTriple_congr h, value, option]
  case sin | cos | tan => simp only [ofAngle, argument]
  case asin | acos | atan => simp only [toAngle, argument]
  case atan2 => simp (disch := decide) only [atan2, value]

end Formula

end Formulas

namespace Context

variable {α : Type}

/-- A node computes an attribute in the same way if its inputs agree, its names denote the same
plugs, and its program and its kind are the same. -/
theorem nodeReading_congr [Scalar α] {c c' : Context α} {node : Node}
    (inputs : Inputs.Agrees ⟨c.graph, node⟩ ⟨c'.graph, node⟩)
    (token : ∀ name, c.tokenPlug? name = c'.tokenPlug? name)
    (program : c.program node = c'.program node) (kinds : c.kinds = c'.kinds) (frame : α)
    (attr : String) : c.nodeReading frame node attr = c'.nodeReading frame node attr := by
  have expression : c.expressionReading frame node attr = c'.expressionReading frame node attr := by
    simp only [expressionReading, program, tokenValue, token, inputs.literal?]
  have kind : c.kindOf node.name = c'.kindOf node.name := by rw [kindOf, kinds, kindOf]
  simp only [nodeReading, kind, expression, Formula.ofKind?_congr inputs]

/-- Contexts that differ at most in what evaluation does not ask their graphs, and in the programs
they keep, which are those of their nodes. The nodes are those of a given graph. -/
structure Akin (graph : Graph) (c c' : Context α) : Prop where
  keyed : c.Keyed
  nodes : ∀ name, c.graph.node? name = graph.node? name
  faithful : c.Faithful
  faithful' : c'.Faithful
  graph : c.graph.Agrees c'.graph
  curves : c.curves = c'.curves
  kinds : c.kinds = c'.kinds
  rotation : c.rotation = c'.rotation

namespace Akin

variable {graph : Graph} {c c' : Context α}

theorem symm (h : c.Akin graph c') : c'.Akin graph c where
  keyed name node found := h.keyed name node ((h.graph.node? name).trans found)
  nodes name := (h.graph.node? name).symm.trans (h.nodes name)
  faithful := h.faithful'
  faithful' := h.faithful
  graph := h.graph.symm
  curves := h.curves.symm
  kinds := h.kinds.symm
  rotation := h.rotation.symm

theorem keepProgram (h : c.Akin graph c') {name : String} {node : Node}
    (found : c.graph.node? name = some node) : (c.keepProgram node).Akin graph c' :=
  { h with faithful := h.faithful.keepProgram h.keyed found }

theorem keepProgramOf (h : c.Akin graph c') (text : String) :
    (c.keepProgramOf text).Akin graph c' := by
  unfold Context.keepProgramOf
  split
  · next parsed =>
    obtain ⟨name, found⟩ := exists_node?_of_expressionNode? parsed
    exact h.keepProgram found
  · exact h

theorem foldr_keepProgramOf (h : c.Akin graph c') (texts : List String) :
    (texts.foldr (fun text c => c.keepProgramOf text) c).Akin graph c' :=
  List.foldrRecOn (motive := (Akin graph · c')) texts _ h fun _ akin text _ =>
    akin.keepProgramOf text

theorem tokenPlug? (h : c.Akin graph c') (name : String) :
    c.tokenPlug? name = c'.tokenPlug? name := by
  simp only [Context.tokenPlug?, h.graph.contains, h.curves]

variable [Scalar α]

/-- A node has one program, and it is the same in both contexts. -/
theorem nodeReading (h : c.Akin graph c') (frame : α) {name : String} {node : Node}
    (found : c.graph.node? name = some node) (attr : String) :
    c.nodeReading frame node attr = c'.nodeReading frame node attr := by
  have program : c.program node = c'.program node :=
    (h.faithful name node found).trans
      (h.faithful' name node ((h.graph.node? name).symm.trans found)).symm
  exact nodeReading_congr (h.graph.inputs node) h.tokenPlug? program h.kinds frame attr

theorem reading (h : c.Akin graph c') (frame : α) (text : String) :
    c.reading frame text = c'.reading frame text := by
  simp only [Context.reading, curveReading, ← h.graph.incoming?, ← h.curves, ← h.graph.node?]
  split
  · rfl
  · split
    · rfl
    · split
      · rfl
      · split
        · next found => exact h.nodeReading frame found _
        · rfl

theorem settle (h : c.Akin graph c') (plug : String) (outcome : Outcome α) :
    c.settle plug outcome = c'.settle plug outcome := by
  simp only [Context.settle, h.rotation]

end Akin

end Context

end PlugGraph
