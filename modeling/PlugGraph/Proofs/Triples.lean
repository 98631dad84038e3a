import PlugGraph.Proofs.Choice
import PlugGraph.Proofs.Rewiring

/-!
# The components of a triple

A triple looks at the sources of its three components before it looks at anything authored, and one
source is enough for the authored numbers to be dropped: a component that is not connected itself is
zero then (`Inputs.along`). A pair blend takes each of its values from the two triples of a part, so
connecting one component of a side leaves what the side gives along another axis as it is, or makes
it zero where no component had been connected before: `PairBlend.Rewired.component_eq`.
-/

namespace PlugGraph

/-! ### Triples along an axis -/

namespace Inputs

variable {α : Type} [Scalar α] {inputs : Inputs} {compound names : List String}
  {components : Axis → List String}

/-- The value of the source connected to the first name that has one, under an assignment of values
to plugs. -/
def own? (inputs : Inputs) (value : String → α) (names : List String) : Option α :=
  (names.findSome? inputs.source?).map fun source =>
    if Text.isBlankText source then 0 else value (Plug.normalize source)

/-- Whether a source is connected to some component of a triple. -/
def isConnected (inputs : Inputs) (components : Axis → List String) : Bool :=
  [Axis.x, .y, .z].any fun axis => ((components axis).findSome? inputs.source?).isSome

/-- What is authored for a component of a triple: for the compound, or else for the component. -/
def authoredAlong (inputs : Inputs) (compound : List String) (components : Axis → List String)
    (axis : Axis) : α :=
  ((inputs.packed? compound).map (·.component axis)).getD
    (plainZero ((inputs.literal? (components axis)).getD 0))

/-- A component of a triple. Its own source gives it the value, or else it is zero if another
component is connected, and as authored otherwise. -/
def along (inputs : Inputs) (value : String → α) (compound : List String)
    (components : Axis → List String) (axis : Axis) : α :=
  if inputs.isConnected components then plainZero ((inputs.own? value (components axis)).getD 0)
  else inputs.authoredAlong compound components axis

theorem result_connected (value : String → α) :
    (inputs.connected names).result value = inputs.own? value names := by
  unfold connected own?
  cases names.findSome? inputs.source? with
  | none => rfl
  | some source =>
    by_cases blank : Text.isBlankText source = true
    · simp only [blank, if_true, Option.map_some]
      rfl
    · simp only [blank, Option.map_some]
      rfl

/-- A value is found where a source is connected. -/
theorem isSome_of_answerM_connected {reply : String → Option α} {found : Option α}
    (answered : (inputs.connected names).answerM reply = some found) :
    found.isSome = (names.findSome? inputs.source?).isSome := by
  unfold connected at answered
  cases connects : names.findSome? inputs.source? with
  | none =>
    rw [connects] at answered
    cases answered
    rfl
  | some source =>
    simp only [connects] at answered
    split at answered
    · cases answered
      rfl
    · rw [Dialogue.answerM_map] at answered
      obtain ⟨value, -, rfl⟩ := Option.map_eq_some_iff.mp answered
      rfl

/-- A triple that can be read takes each component from its own source if one of them is
connected. -/
theorem answerM_triple {reply : String → Option α} {v : Vec3 α}
    (answered : (inputs.triple compound components).answerM reply = some v) :
    ∃ found : Axis → Option α,
      (∀ axis, (inputs.connected (components axis)).answerM reply = some (found axis)) ∧
      ∀ axis, v.component axis =
        if inputs.isConnected components then plainZero ((found axis).getD 0)
        else inputs.authoredAlong compound components axis := by
  simp only [triple, Dialogue.bind_eq, Dialogue.answerM_bind] at answered
  obtain ⟨x, first, answered⟩ := Option.bind_eq_some_iff.mp answered
  obtain ⟨y, second, answered⟩ := Option.bind_eq_some_iff.mp answered
  obtain ⟨z, third, answered⟩ := Option.bind_eq_some_iff.mp answered
  have connects : (x.isSome || y.isSome || z.isSome) = inputs.isConnected components := by
    simp [isConnected, isSome_of_answerM_connected first, isSome_of_answerM_connected second,
      isSome_of_answerM_connected third, Bool.or_assoc]
  rw [connects] at answered
  refine ⟨Vec3.component ⟨x, y, z⟩, ?_, ?_⟩
  · rintro (_ | _ | _)
    · exact first
    · exact second
    · exact third
  · intro axis
    cases driven : inputs.isConnected components with
    | true =>
      simp only [driven, if_true] at answered
      obtain rfl := Option.some.inj answered
      cases axis <;> rfl
    | false =>
      simp only [driven, Bool.false_eq_true, if_false] at answered ⊢
      obtain rfl := Option.some.inj answered
      unfold authoredAlong
      cases inputs.packed? (α := α) compound with
      | some packed => rfl
      | none => simp

/-- Under the values of the plugs that the inputs are read from, a triple that can be read has the
components that these values give to it. -/
theorem component_eq_along {value : String → α} {reply : String → Option α} {v : Vec3 α}
    (plain : ∀ axis, (components axis).all Attr.isPlain = true)
    (same : ∀ plug, inputs.Feeds plug → ∀ r, reply plug = some r → value plug = r)
    (answered : (inputs.triple compound components).answerM reply = some v) (axis : Axis) :
    v.component axis = inputs.along value compound components axis := by
  obtain ⟨found, connects, component⟩ := answerM_triple answered
  have own : found axis = inputs.own? value (components axis) := by
    rw [← result_connected]
    exact ((inputs.asksOnly_connected (plain axis)).result_eq same (connects axis)).symm
  rw [component, own, along]

/-- A triple is connected if one of its names has a source. -/
theorem isConnected_of_mem {axis : Axis} {name : String} (member : name ∈ components axis)
    (driven : (inputs.source? name).isSome = true) : inputs.isConnected components = true := by
  have sourced : ((components axis).findSome? inputs.source?).isSome = true :=
    List.findSome?_isSome_iff.mpr ⟨name, member, driven⟩
  cases axis <;> simp [isConnected, sourced]

/-- Without any source no component has its own. -/
theorem own?_of_not_isConnected {value : String → α}
    (free : ¬ inputs.isConnected components = true) (axis : Axis) :
    inputs.own? value (components axis) = none := by
  simp only [isConnected, List.any_cons, List.any_nil, Bool.or_false, Bool.or_eq_true, not_or,
    Option.not_isSome_iff_eq_none] at free
  cases axis <;> simp only [own?, free, Option.map_none]

theorem plainZero_zero : plainZero (0 : α) = 0 := by
  unfold plainZero
  split <;> rfl

end Inputs

/-! ### What a pair blend reads -/

namespace PairBlend

/-- What a pair blend interpolates. -/
inductive Part where
  | translation
  | rotation
deriving DecidableEq

/-- The two ends that a pair blend interpolates between. -/
inductive Side where
  | first
  | second
deriving DecidableEq

def Side.number : Side → String
  | first => "1"
  | second => "2"

namespace Part

def output : Part → Formula.PairOutput
  | translation => .translate
  | rotation => .rotate

def long : Part → String
  | translation => "inTranslate"
  | rotation => "inRotate"

def short : Part → String
  | translation => "it"
  | rotation => "ir"

def compound (part : Part) (side : Side) : List String :=
  [part.long ++ side.number, part.short ++ side.number]

def components (part : Part) (side : Side) (axis : Axis) : List String :=
  let letter := axis.letter
  [(part.long ++ side.number).push letter, (part.short ++ side.number).push letter.toLower,
   part.long.push letter ++ side.number, part.short.push letter.toLower ++ side.number]

end Part

def weightNames : List String := ["weight", "w", "blend"]

/-- No two components share a name. -/
theorem eq_of_mem_components {part part' : Part} {side side' : Side} {axis axis' : Axis} :
    ∀ name ∈ part.components side axis, name ∈ part'.components side' axis' →
      part = part' ∧ side = side' ∧ axis = axis' := by
  cases part <;> cases part' <;> cases side <;> cases side' <;> cases axis <;> cases axis' <;>
    decide +kernel

theorem plain_components (part : Part) (side : Side) (axis : Axis) :
    (part.components side axis).all Attr.isPlain = true :=
  Formula.plain_numberedTriple part.long part.short (by cases side <;> decide) axis

/-- Names of components are inputs. -/
theorem component_is_input {part : Part} {side : Side} {axis : Axis} :
    ∀ name ∈ part.components side axis, Attr.isPlain name = true ∧
      Attr.withoutDot name = name ∧ Attr.arrayName? name = none ∧ Attr.isOutput name = false ∧
      name ∉ weightNames := by
  cases part <;> cases side <;> cases axis <;> decide +kernel

variable {α : Type} [Scalar α] {inputs inputs' : Inputs} {part : Part} {axis axis' : Axis}

/-- The value along an axis, interpolated linearly. -/
def reading (inputs : Inputs) (part : Part) (axis : Axis) : Reading α α := do
  let blend ← inputs.value weightNames
  let first ← inputs.triple (part.compound .first) (part.components .first)
  let second ← inputs.triple (part.compound .second) (part.components .second)
  return Scalar.lerp (first.component axis) (second.component axis) (Scalar.clampUnit blend)

/-- The value along an axis can be read where the weight and both sides can. -/
theorem answerM_reading {reply : String → Option α} {value : α} :
    (reading inputs part axis).answerM reply = some value ↔
      ∃ (blend : α) (ends : Side → Vec3 α),
        (inputs.value weightNames).answerM reply = some blend ∧
        (∀ side, (inputs.triple (part.compound side) (part.components side)).answerM reply =
          some (ends side)) ∧
        Scalar.lerp ((ends .first).component axis) ((ends .second).component axis)
          (Scalar.clampUnit blend) = value := by
  simp only [reading, Dialogue.bind_eq, Dialogue.answerM_bind]
  constructor
  · intro answered
    obtain ⟨blend, weight, answered⟩ := Option.bind_eq_some_iff.mp answered
    obtain ⟨first, one, answered⟩ := Option.bind_eq_some_iff.mp answered
    obtain ⟨second, two, answered⟩ := Option.bind_eq_some_iff.mp answered
    refine ⟨blend, fun | .first => first | .second => second, weight, ?_, ?_⟩
    · rintro (_ | _)
      · exact one
      · exact two
    · exact Option.some.inj answered
  · rintro ⟨blend, ends, weight, sides, rfl⟩
    simp only [weight, sides, Option.bind_eq_bind, Option.bind_some]
    rfl

/-- All axes of a part need the same plugs. -/
theorem isSome_answerM_reading {reply : String → Option α}
    (answered : ((reading inputs part axis).answerM reply).isSome = true) :
    ((reading inputs part axis').answerM reply).isSome = true := by
  obtain ⟨value, answered⟩ := Option.isSome_iff_exists.mp answered
  obtain ⟨blend, ends, weight, sides, -⟩ := answerM_reading.mp answered
  exact Option.isSome_iff_exists.mpr ⟨_, answerM_reading.mpr ⟨blend, ends, weight, sides, rfl⟩⟩

/-- The names of the setting that turns the linear interpolation of rotations off. -/
def interpolationKeys : List String := ["rotInterpolation", "rotationInterpolation", "ri"]

/-- A node interpolates a part linearly. -/
def Part.IsLinear (α : Type) [Scalar α] : Part → Node → Prop
  | translation, _ => True
  | rotation, node => Scalar.round? (node.literalAny interpolationKeys (0 : α)) = .ok 0

theorem isFinite_of_value? {a : Attribute} {value : α} (authored : a.value? = some value) :
    Scalar.isFinite value = true := by
  obtain ⟨token, -, read⟩ := List.exists_of_findSome?_eq_some authored
  rw [Attribute.tokenValue?, Numeral.finite?, Option.filter_eq_some_iff] at read
  exact read.2

section Settings

variable [Scalar.LawfulSingle α]

/-- A setting is a finite number and can be rounded. -/
theorem exists_round?_option (inputs : Inputs) (keys : List String) :
    ∃ nearest, Scalar.round? (inputs.option keys (0 : α)) = .ok nearest := by
  have read (found : Option Attribute) :
      Scalar.isFinite ((found.bind Attribute.value?).getD (0 : α)) = true := by
    cases authored : found.bind (Attribute.value? (α := α)) with
    | none => exact Scalar.LawfulSingle.isFinite_zero
    | some value =>
      obtain ⟨a, -, read⟩ := Option.bind_eq_some_iff.mp authored
      exact isFinite_of_value? read
  have finite : Scalar.isFinite (inputs.option keys (0 : α)) = true := read _
  refine ⟨Scalar.round (inputs.option keys (0 : α)), ?_⟩
  rw [Scalar.round?, Scalar.toInteger, Option.isNone_iff_eq_none.mp finite]

theorem run_pairBlend {attr : String} (shows : Formula.PairOutput.ofAttr attr = part.output)
    (linear : part.IsLinear α inputs.node) :
    (Formula.pairBlend (α := α) inputs attr).run =
      (fun value => .ok (.value value)) <$> reading inputs part ((Attr.axis? attr).getD .x) := by
  obtain ⟨interpolation, rounded⟩ := exists_round?_option (α := α) inputs interpolationKeys
  obtain ⟨code, coded⟩ := exists_round?_option (α := α) inputs ["rotateOrder", "ro"]
  have order : RotateOrder.ofCode? (inputs.option (α := α) ["rotateOrder", "ro"] 0) =
      .ok (.ofInt code) := by
    rw [RotateOrder.ofCode?, coded]
    rfl
  have mapped (d : Reading α α) :
      (fun value => .ok (.value value) : α → Except Fault (Result α)) <$> d =
        d.bind fun value => .done (.ok (.value value)) := rfl
  have keys : interpolationKeys = ["rotInterpolation", "rotationInterpolation", "ri"] := rfl
  simp only [Formula.pairBlend, Formula.run_read_bind, ← keys, rounded, order, Formula.ok_bind,
    shows, reading, mapped, Dialogue.bind_eq, Dialogue.bind_assoc]
  cases part with
  | translation =>
    simp only [Part.output, Formula.run_read_bind]
    rfl
  | rotation =>
    obtain rfl : 0 = interpolation := Except.ok.inj (linear.symm.trans rounded)
    simp only [Part.output, Formula.run_read_bind, if_true]
    rfl

theorem nodeReading_eq {α : Type} [Scalar α] {c : Context α} {node : Node}
    (kind : c.kindOf node.name = .pairBlend) (frame : α) (attr : String) :
    c.nodeReading frame node attr =
      Context.ofExcept <$> (Formula.pairBlend ⟨c.graph, node⟩ attr).run := by
  have always : Kind.outputsOnly .pairBlend = false := rfl
  simp only [Context.nodeReading, kind, Formula.ofKind?, always, Bool.false_and,
    Bool.false_eq_true, if_false, reduceCtorEq]

/-- The plug of an output that shows a part along an axis is read along that axis. -/
theorem reading_eq {c : Context α} {node : Node} {text attr : String}
    (free : c.graph.incoming? text = none) (split : Plug.ofText? text = some ⟨node.name, attr⟩)
    (noCurve : c.curves[node.name]? = none) (found : c.graph.node? node.name = some node)
    (kind : c.kindOf node.name = .pairBlend)
    (shows : Formula.PairOutput.ofAttr attr = part.output) (linear : part.IsLinear α node)
    (frame : α) :
    c.reading frame text =
      (fun value => .result (.value value)) <$>
        reading ⟨c.graph, node⟩ part ((Attr.axis? attr).getD .x) := by
  have run : (Formula.pairBlend (α := α) ⟨c.graph, node⟩ attr).run = _ := run_pairBlend shows linear
  simp only [Context.reading, free, split, noCurve, found, nodeReading_eq kind, run,
    Dialogue.map_map, Context.ofExcept]

end Settings

/-! ### Inputs that differ in one component -/

/-- Inputs of one pair blend that come from the same sources, except for one component. -/
structure Rewired (inputs inputs' : Inputs) (part : Part) (side : Side) (axis : Axis) : Prop where
  weight : ∀ name ∈ weightNames, inputs.source? name = inputs'.source? name
  component : ∀ part' side' axis', (part', side', axis') ≠ (part, side, axis) →
    ∀ name ∈ part'.components side' axis', inputs.source? name = inputs'.source? name
  node : inputs.node = inputs'.node

namespace Rewired

variable {side side' : Side} {part' : Part}

theorem value (h : Rewired inputs inputs' part side axis) :
    inputs.value (α := α) weightNames = inputs'.value weightNames := by
  simp only [Inputs.value, Inputs.valueOr, Inputs.given, Inputs.literal?, h.node,
    Inputs.connected_congr h.weight]

theorem connected (h : Rewired inputs inputs' part side axis)
    (other : (part', side', axis') ≠ (part, side, axis)) :
    inputs.connected (α := α) (part'.components side' axis') =
      inputs'.connected (part'.components side' axis') :=
  Inputs.connected_congr (h.component part' side' axis' other)

theorem triple (h : Rewired inputs inputs' part side axis) (other : (part', side') ≠ (part, side)) :
    inputs.triple (α := α) (part'.compound side') (part'.components side') =
      inputs'.triple (part'.compound side') (part'.components side') := by
  have connected (axis' : Axis) : inputs.connected (α := α) (part'.components side' axis') =
      inputs'.connected (part'.components side' axis') := h.connected (by simp_all)
  simp only [Inputs.triple, Inputs.packed?, Inputs.literal?, connected, h.node]

/-- Outputs that do not show the part are not affected. -/
theorem pairBlend (h : Rewired inputs inputs' part side axis) {attr : String}
    (hidden : Formula.PairOutput.ofAttr attr ≠ part.output) :
    Formula.pairBlend (α := α) inputs attr = Formula.pairBlend inputs' attr := by
  have value := h.value (α := α)
  have option : inputs.option (α := α) = inputs'.option := by
    funext keys fallback
    simp only [Inputs.option, h.node]
  have triple (part' : Part) (shown : Formula.PairOutput.ofAttr attr = part'.output)
      (side' : Side) :
      Formula.numberedTriple (α := α) inputs part'.long part'.short side'.number =
        Formula.numberedTriple inputs' part'.long part'.short side'.number := by
    apply h.triple
    rintro ⟨⟩
    exact hidden shown
  have names : weightNames = ["weight", "w", "blend"] := rfl
  simp only [Formula.pairBlend, ← names, value, option]
  cases shown : Formula.PairOutput.ofAttr attr with
  | weight => rfl
  | translate =>
    have first := triple .translation shown .first
    have second := triple .translation shown .second
    simp only [Part.long, Part.short, Side.number] at first second
    simp only [first, second]
  | rotate =>
    have first := triple .rotation shown .first
    have second := triple .rotation shown .second
    simp only [Part.long, Part.short, Side.number] at first second
    simp only [first, second]

/-- The side that is rewired gives what its own source does, or else zero: the component is among
the connected ones afterwards. -/
theorem component_eq (h : Rewired inputs inputs' part side axis) (apart : axis' ≠ axis)
    (connected' : inputs'.isConnected (part.components side) = true) {value : String → α}
    {reply reply' : String → Option α} {v v' : Vec3 α}
    (same : ∀ plug, inputs.Feeds plug → ∀ r, reply plug = some r → value plug = r)
    (agree : ∀ plug, inputs.Feeds plug → ∀ r r', reply plug = some r → reply' plug = some r' →
      r' = r)
    (answered : (inputs.triple (part.compound side) (part.components side)).answerM reply = some v)
    (answered' : (inputs'.triple (part.compound side) (part.components side)).answerM reply' =
      some v') :
    v'.component axis' =
      if inputs.isConnected (part.components side) then
        inputs.along value (part.compound side) (part.components side) axis'
      else 0 := by
  obtain ⟨found, connects, -⟩ := Inputs.answerM_triple answered
  obtain ⟨found', connects', component'⟩ := Inputs.answerM_triple answered'
  have asks := inputs.asksOnly_connected (α := α) (plain_components part side axis')
  have own : inputs.own? value (part.components side axis') = found axis' := by
    rw [← Inputs.result_connected]
    exact asks.result_eq same (connects axis')
  have kept : found' axis' = found axis' := by
    have after := connects' axis'
    rw [← h.connected (by simpa using apart)] at after
    exact asks.answerM_eq agree (connects axis') after
  rw [component', if_pos connected', kept, ← own]
  split
  · next before => rw [Inputs.along, if_pos before]
  · next before =>
    rw [Inputs.own?_of_not_isConnected before, Option.getD_none, Inputs.plainZero_zero]

/-- A value along an axis, before and after another component of one side is connected. -/
theorem reading (h : Rewired inputs inputs' part side axis) (apart : axis' ≠ axis)
    (connected' : inputs'.isConnected (part.components side) = true) {value : String → α}
    {reply reply' : String → Option α} {result result' : α}
    (same : ∀ plug, inputs.Feeds plug → ∀ r, reply plug = some r → value plug = r)
    (agree : ∀ plug, inputs.Feeds plug → ∀ r r', reply plug = some r → reply' plug = some r' →
      r' = r)
    (answered : (PairBlend.reading inputs part axis').answerM reply = some result)
    (answered' : (PairBlend.reading inputs' part axis').answerM reply' = some result') :
    let weight := Scalar.clampUnit ((inputs.value weightNames).result value)
    let given (side : Side) := inputs.along value (part.compound side) (part.components side) axis'
    let left (side' : Side) := if side' = side then 0 else given side'
    result = Scalar.lerp (given .first) (given .second) weight ∧
      result' =
        if inputs.isConnected (part.components side) then
          Scalar.lerp (given .first) (given .second) weight
        else Scalar.lerp (left .first) (left .second) weight := by
  intro weight given left
  obtain ⟨blend, ends, weighs, sides, rfl⟩ := answerM_reading.mp answered
  obtain ⟨blend', ends', weighs', sides', rfl⟩ := answerM_reading.mp answered'
  have asksWeight : (inputs.value (α := α) weightNames).AsksOnly inputs.Feeds :=
    inputs.asksOnly_value (by decide)
  have weighed : Scalar.clampUnit blend = weight :=
    congrArg Scalar.clampUnit (asksWeight.result_eq same weighs).symm
  have weighed' : blend' = blend := by
    rw [← h.value] at weighs'
    exact asksWeight.answerM_eq agree weighs weighs'
  have gives (side' : Side) : (ends side').component axis' = given side' :=
    Inputs.component_eq_along (plain_components part side') same (sides side') axis'
  have stays (side' : Side) (differs : side' ≠ side) : ends' side' = ends side' := by
    have after := sides' side'
    rw [← h.triple (by simpa using differs)] at after
    exact (inputs.asksOnly_triple _ (plain_components part side')).answerM_eq agree (sides side')
      after
  have changes (side' : Side) : (ends' side').component axis' =
      if inputs.isConnected (part.components side) then given side' else left side' := by
    by_cases differs : side' = side
    · subst differs
      rw [h.component_eq apart connected' same agree (sides side') (sides' side')]
      simp [left, given]
    · rw [stays side' differs, gives]
      simp [left, differs]
  refine ⟨by rw [gives, gives, weighed], ?_⟩
  rw [changes, changes, weighed', weighed]
  split <;> rfl

end Rewired

end PairBlend

end PlugGraph
