import PlugGraph.Eval.Context
import PlugGraph.Proofs.Plugs

/-!
# What computations may read

A reading is a dialogue that can go on without end as far as its type is concerned: nothing in it
says which plugs it may ask for. The plugs are nevertheless known beforehand. A formula asks only
for the sources of its node's attributes, an expression only for the names that its program loads,
and everything else for the source of one plug. `Context.CoveredBy` states that a list holds all of
these, and `Context.CoveredBy.asksOnly_reading` that no reading leaves such a list.
-/

namespace PlugGraph

open Dialogue

namespace Attr

/-- A letter that a component's name may end in, as it is or small. -/
def IsPlainLetter (letter : Char) : Prop :=
  isPlainEnd letter = true ∧ isPlainEnd letter.toLower = true

theorem isPlainLetter_axis (axis : Axis) : IsPlainLetter axis.letter := by
  cases axis <;> exact ⟨by decide, by decide⟩

theorem isPlainLetter_color (channel : ColorChannel) : IsPlainLetter channel.letter := by
  cases channel <;> exact ⟨by decide, by decide⟩

theorem plain_componentNames {long short : String} {letter : Option Char}
    (plain : [long, short].all isPlain = true) (letters : ∀ c ∈ letter, IsPlainLetter c) :
    (componentNames long short letter).all isPlain = true := by
  cases letter with
  | none => exact plain
  | some c =>
    obtain ⟨capital, small⟩ := letters c rfl
    simp only [List.all_cons, List.all_nil, Bool.and_true, Bool.and_eq_true] at plain
    simp [componentNames, isPlain_push _ capital, isPlain_push _ small, plain.1]

end Attr

namespace Inputs

variable {α : Type} [Scalar α]

/-- A plug that the inputs of a node are read from: the source of one of its attributes, whose name
ends in a plain character. -/
def Feeds (inputs : Inputs) (plug : String) : Prop :=
  ∃ attr source, Attr.isPlain attr = true ∧ inputs.source? attr = some source ∧
    plug = Plug.normalize source

variable (inputs : Inputs) {names : List String}

theorem asksOnly_connected (plain : names.all Attr.isPlain = true) :
    AsksOnly inputs.Feeds (inputs.connected (α := α) names) := by
  unfold connected
  split
  · trivial
  · next source found =>
    obtain ⟨attr, member, h⟩ := List.exists_of_findSome?_eq_some found
    split
    · trivial
    · have asked : AsksOnly inputs.Feeds (Reading.plug (α := α) source) :=
        ⟨⟨attr, source, List.all_eq_true.mp plain attr member, h, rfl⟩, fun _ => trivial⟩
      exact asked.map some

theorem asksOnly_given (plain : names.all Attr.isPlain = true) :
    AsksOnly inputs.Feeds (inputs.given (α := α) names) := by
  refine (inputs.asksOnly_connected plain).bind fun value => ?_
  cases value <;> trivial

theorem asksOnly_valueOr (fallback : α) (plain : names.all Attr.isPlain = true) :
    AsksOnly inputs.Feeds (inputs.valueOr fallback names) :=
  (inputs.asksOnly_given plain).bind fun _ => trivial

theorem asksOnly_value (plain : names.all Attr.isPlain = true) :
    AsksOnly inputs.Feeds (inputs.value (α := α) names) :=
  inputs.asksOnly_valueOr 0 plain

theorem asksOnly_component {long short : String} {letter : Option Char}
    (plain : [long, short].all Attr.isPlain = true) (letters : ∀ c ∈ letter, Attr.IsPlainLetter c) :
    AsksOnly inputs.Feeds (inputs.component (α := α) long short letter) :=
  inputs.asksOnly_value (Attr.plain_componentNames plain letters)

theorem asksOnly_element (array : String) (index : Int) (fallback : α) :
    AsksOnly inputs.Feeds (inputs.element array index fallback) :=
  inputs.asksOnly_valueOr fallback (by simp [Attr.isPlain_element])

theorem asksOnly_triple (compound : List String) {names : Axis → List String}
    (plain : ∀ axis, (names axis).all Attr.isPlain = true) :
    AsksOnly inputs.Feeds (inputs.triple (α := α) compound names) := by
  refine (inputs.asksOnly_connected (plain .x)).bind fun x => ?_
  refine (inputs.asksOnly_connected (plain .y)).bind fun y => ?_
  refine (inputs.asksOnly_connected (plain .z)).bind fun z => ?_
  split <;> trivial

end Inputs

namespace Formula

variable {α ω υ : Type}

/-- A formula that asks for nothing but the sources of its node's attributes. -/
def ReadsOnly (inputs : Inputs) (formula : Formula α ω) : Prop :=
  AsksOnly inputs.Feeds formula.run

theorem isPlainLetter_axisLetter (attr : String) :
    ∀ letter ∈ axisLetter attr, Attr.IsPlainLetter letter := by
  intro letter found
  obtain ⟨axis, -, rfl⟩ := Option.map_eq_some_iff.mp found
  exact Attr.isPlainLetter_axis axis

theorem isPlainLetter_colorLetter (attr : String) :
    ∀ letter ∈ colorLetter attr, Attr.IsPlainLetter letter := by
  intro letter found
  obtain ⟨channel, -, rfl⟩ := Option.map_eq_some_iff.mp found
  exact Attr.isPlainLetter_color channel

theorem plain_termNames (inputs : Inputs) (attr : String) :
    ∀ names ∈ termNames inputs attr, names.all Attr.isPlain = true := by
  have scalars : ∀ names ∈ (inputs.indices ["input1D", "i1"]).map scalarNames,
      names.all Attr.isPlain = true := by
    intro names member
    obtain ⟨i, -, rfl⟩ := List.mem_map.mp member
    simp [scalarNames, Attr.isPlain_element]
  unfold termNames
  split
  · next axis _ =>
    split
    · intro names member
      obtain ⟨i, -, rfl⟩ := List.mem_map.mp member
      simp [tripleNames, Attr.isPlain_push _ (Attr.isPlainLetter_axis axis).2]
    · exact scalars
  · exact scalars

theorem plain_numberedTriple (long short : String) {number : String}
    (plain : Attr.isPlain number = true) (axis : Axis) :
    [(long ++ number).push axis.letter, (short ++ number).push axis.letter.toLower,
      long.push axis.letter ++ number, short.push axis.letter.toLower ++ number].all
        Attr.isPlain = true := by
  obtain ⟨capital, small⟩ := Attr.isPlainLetter_axis axis
  simp [Attr.isPlain_push _ capital, Attr.isPlain_push _ small, Attr.isPlain_append _ plain]

namespace ReadsOnly

variable {inputs : Inputs}

theorem pure (result : ω) : ReadsOnly inputs (Pure.pure result : Formula α ω) := trivial

theorem lift (result : Except Fault ω) : ReadsOnly inputs (liftM result : Formula α ω) := trivial

theorem read {reading : Reading α ω} (h : AsksOnly inputs.Feeds reading) :
    ReadsOnly inputs (Formula.read reading) :=
  h.map Except.ok

theorem bind {formula : Formula α ω} {next : ω → Formula α υ} (h : ReadsOnly inputs formula)
    (hn : ∀ result, ReadsOnly inputs (next result)) : ReadsOnly inputs (formula >>= next) := by
  refine AsksOnly.bind h fun result => ?_
  cases result with
  | ok result => exact hn result
  | error => trivial

theorem map {formula : Formula α ω} (h : ReadsOnly inputs formula) (f : ω → υ) :
    ReadsOnly inputs (f <$> formula) :=
  h.bind fun _ => trivial

variable [Scalar α]

/-- A formula that goes on with an input. -/
theorem value {names : List String} {next : α → Formula α ω}
    (plain : names.all Attr.isPlain = true) (hn : ∀ value, ReadsOnly inputs (next value)) :
    ReadsOnly inputs (Formula.read (inputs.value names) >>= next) :=
  (read (inputs.asksOnly_value plain)).bind hn

/-- A formula that goes on with a component of a compound input. -/
theorem component {long short : String} {letter : Option Char} {next : α → Formula α ω}
    (letters : ∀ c ∈ letter, Attr.IsPlainLetter c) (plain : [long, short].all Attr.isPlain = true)
    (hn : ∀ value, ReadsOnly inputs (next value)) :
    ReadsOnly inputs (Formula.read (inputs.component long short letter) >>= next) :=
  (read (inputs.asksOnly_component plain letters)).bind hn

theorem terms {names : List (List String)}
    (plain : ∀ entry ∈ names, entry.all Attr.isPlain = true) :
    AsksOnly inputs.Feeds (Formula.terms (α := α) inputs names) := by
  induction names with
  | nil => trivial
  | cons entry rest ih =>
    obtain ⟨first, others⟩ := List.forall_mem_cons.mp plain
    exact (inputs.asksOnly_given first).bind fun _ => (ih others).bind fun _ => trivial

theorem weightedSum (indices : List Int) (total weights : α) :
    AsksOnly inputs.Feeds (Formula.weightedSum inputs indices total weights) := by
  induction indices generalizing total weights with
  | nil => trivial
  | cons i rest ih =>
    refine (inputs.asksOnly_element "weight" i 1).bind fun weight => ?_
    exact (inputs.asksOnly_element "input" i 0).bind fun input => ih _ _

theorem numberedTriple (long short : String) {number : String}
    (plain : Attr.isPlain number = true) :
    AsksOnly inputs.Feeds (Formula.numberedTriple (α := α) inputs long short number) :=
  inputs.asksOnly_triple _ fun axis => plain_numberedTriple long short plain axis

theorem pairBlend (attr : String) : ReadsOnly inputs (Formula.pairBlend (α := α) inputs attr) := by
  unfold Formula.pairBlend
  refine value (by decide) fun blend => ?_
  refine (lift _).bind fun interpolation => (lift _).bind fun order => ?_
  cases PairOutput.ofAttr attr with
  | weight => trivial
  | translate =>
    refine (read (numberedTriple "inTranslate" "it" (by decide))).bind fun first => ?_
    exact (read (numberedTriple "inTranslate" "it" (by decide))).bind fun second => trivial
  | rotate =>
    refine (read (numberedTriple "inRotate" "ir" (by decide))).bind fun first => ?_
    refine (read (numberedTriple "inRotate" "ir" (by decide))).bind fun second => ?_
    split <;> trivial

theorem plusMinusAverage (attr : String) :
    ReadsOnly inputs (Formula.plusMinusAverage (α := α) inputs attr) := by
  unfold Formula.plusMinusAverage
  refine (lift _).bind fun op => (read (terms (plain_termNames inputs attr))).bind fun values => ?_
  cases values with
  | nil => trivial
  | cons first others =>
    dsimp only
    split
    · trivial
    · split <;> trivial

theorem multiplyDivide (attr : String) :
    ReadsOnly inputs (Formula.multiplyDivide (α := α) inputs attr) := by
  have letters := isPlainLetter_axisLetter attr
  unfold Formula.multiplyDivide
  refine (lift _).bind fun op => ?_
  refine component letters (by decide) fun a => component letters (by decide) fun b => ?_
  split
  · split <;> trivial
  · split <;> trivial

theorem condition (attr : String) : ReadsOnly inputs (Formula.condition (α := α) inputs attr) := by
  have letters := isPlainLetter_colorLetter attr
  unfold Formula.condition
  refine value (by decide) fun first => value (by decide) fun second => ?_
  refine (lift _).bind fun op => ?_
  dsimp only
  split
  · exact value (by decide) fun whenTrue => value (by decide) fun whenFalse => trivial
  · exact component letters (by decide) fun whenTrue =>
      component letters (by decide) fun whenFalse => trivial

theorem choice : ReadsOnly inputs (Formula.choice (α := α) inputs) := by
  unfold Formula.choice
  refine value (by decide) fun selector => (lift _).bind fun place => ?_
  dsimp only
  split
  · exact read (inputs.asksOnly_element _ _ _)
  · split
    · exact read (inputs.asksOnly_element _ _ _)
    · trivial

theorem blendWeighted (attr : String) :
    ReadsOnly inputs (Formula.blendWeighted (α := α) inputs attr) := by
  unfold Formula.blendWeighted
  refine (read (weightedSum _ _ _)).bind fun (total, weights) => ?_
  dsimp only
  split
  · trivial
  · split <;> trivial

/-- The two animations and the weight of a blend. -/
theorem animations {next : α → α → α → Formula α ω}
    (hn : ∀ a b weight, ReadsOnly inputs (next a b weight)) :
    ReadsOnly inputs (do
      let a ← Formula.read (inputs.value ["inputA", "ia", "input[0]"])
      let b ← Formula.read (inputs.value ["inputB", "ib", "input[1]"])
      let weight ← Formula.read (blendWeight inputs)
      next a b weight) := by
  refine value (by decide) fun a => value (by decide) fun b => ?_
  exact (read ((inputs.asksOnly_value (by decide)).map _)).bind (hn a b)

/-- Every formula asks for nothing but the sources of its node's attributes. -/
theorem ofKind {kind : Kind} {attr : String} {formula : Formula α (Result α)}
    (h : Formula.ofKind? kind inputs attr = some formula) : ReadsOnly inputs formula := by
  have axis := isPlainLetter_axisLetter attr
  have color := isPlainLetter_colorLetter attr
  have result {f : Formula α α} (hf : ReadsOnly inputs f)
      (h : Formula.ofKind?.value f = some formula) : ReadsOnly inputs formula := by
    obtain rfl := Option.some.inj h
    exact hf.map Result.value
  have argument {next : α → Formula α α} (hn : ∀ x, ReadsOnly inputs (next x)) :
      ReadsOnly inputs (Formula.read (argument inputs) >>= next) :=
    value (by decide) hn
  cases kind with
  | literal | animCurve | expression => cases h
  | pairBlend =>
    obtain rfl := Option.some.inj h
    exact pairBlend attr
  | plusMinusAverage => exact result (plusMinusAverage attr) h
  | multiplyDivide => exact result (multiplyDivide attr) h
  | condition => exact result (condition attr) h
  | choice => exact result choice h
  | blendWeighted => exact result (blendWeighted attr) h
  | animBlend | animBlendAdditive => exact result (animations fun _ _ _ => pure _) h
  | blendTwoAttr =>
    exact result (value (by decide) fun _ => value (by decide) fun _ => value (by decide) fun _ =>
      pure _) h
  | unitConversion => exact result (value (by decide) fun _ => pure _) h
  | addDoubleLinear | multDoubleLinear | atan2 =>
    exact result (value (by decide) fun _ => value (by decide) fun _ => pure _) h
  | reverse => exact result (component axis (by decide) fun _ => pure _) h
  | blendColors =>
    exact result (value (by decide) fun _ => component color (by decide) fun _ =>
      component color (by decide) fun _ => pure _) h
  | clamp =>
    exact result (component color (by decide) fun _ => component color (by decide) fun _ =>
      component color (by decide) fun _ => pure _) h
  | setRange =>
    exact result (component axis (by decide) fun _ => component axis (by decide) fun _ =>
      component axis (by decide) fun _ => component axis (by decide) fun _ =>
      component axis (by decide) fun _ => lift _) h
  | remapValue =>
    exact result (value (by decide) fun _ => value (by decide) fun _ => value (by decide) fun _ =>
      value (by decide) fun _ => value (by decide) fun _ => lift _) h
  | sin | cos | tan => exact result (argument fun _ => lift _) h
  | asin | acos | atan => exact result (argument fun _ => (lift _).bind fun _ => pure _) h

end ReadsOnly

end Formula

namespace Expr

variable {α : Type} [Scalar α]

/-- The stack machine asks for nothing but the names that its program loads. -/
theorem Postfix.asksOnly_run (frame : α) (locals : Variables α) (program : List (Instruction α))
    (stack : List α) : AsksOnly (· ∈ loads program) (run frame locals program stack) := by
  induction program generalizing stack with
  | nil => trivial
  | cons instruction rest ih =>
    cases instruction with
    | load name =>
      have later (stack : List α) :
          AsksOnly (· ∈ loads (.load name :: rest)) (run frame locals rest stack) :=
        (ih stack).mono fun _ h => List.mem_cons_of_mem _ h
      simp only [run]
      split
      · exact later _
      · refine ⟨List.mem_cons_self, fun reply => ?_⟩
        cases reply with
        | some value => exact later _
        | none => trivial
    | push | unary | binary | call => exact ih _

/-- An expression asks for nothing but the names in it. -/
theorem asksOnly_evaluate (frame : α) (locals : Postfix.Variables α) (text : String) :
    AsksOnly (· ∈ Postfix.loads (Postfix.ofText (α := α) text)) (evaluate frame locals text) := by
  unfold evaluate
  split
  · trivial
  · refine (Postfix.asksOnly_run frame locals _ []).bind fun value => ?_
    cases value <;> trivial

namespace Program

theorem asksOnly_slotFrom {p : String → Prop} (frame : α) (locals : Postfix.Variables α)
    (assignments : List Assignment) (slot : Nat)
    (h : ∀ a ∈ assignments, ∀ name ∈ Postfix.loads (Postfix.ofText (α := α) a.value), p name) :
    AsksOnly p (slotFrom frame locals assignments slot) := by
  induction assignments generalizing locals slot with
  | nil => trivial
  | cons a rest ih =>
    have value : AsksOnly p (evaluate frame locals a.value) :=
      (asksOnly_evaluate frame locals a.value).mono (h a List.mem_cons_self)
    have later (locals : Postfix.Variables α) (slot : Nat) :=
      ih locals slot fun b hb => h b (List.mem_cons_of_mem _ hb)
    unfold slotFrom
    split
    · exact value.bind fun _ => later _ _
    · cases slot with
      | zero => exact value
      | succ slot => exact later _ _

/-- The value for a slot asks for nothing but the names that the program loads. -/
theorem asksOnly_output (program : Program) (frame : α) (slot : Int) :
    AsksOnly (· ∈ program.loads α) (program.output frame slot) := by
  cases slot with
  | negSucc => trivial
  | ofNat slot =>
    refine asksOnly_slotFrom frame [] _ slot fun a ha name hn => ?_
    exact List.mem_flatMap.mpr ⟨a, ha, hn⟩

end Program

end Expr

namespace Context

variable {α : Type}

/-- A name denotes one of two plugs, whatever nodes are known. -/
theorem tokenPlug?_mem {c : Context α} {name plug : String} (h : c.tokenPlug? name = some plug) :
    Plug.normalize plug ∈ tokenPlugs name := by
  obtain ⟨parts, split, rfl⟩ := Option.map_eq_some_iff.mp h
  simp only [tokenPlugs, split]
  grind

variable [Scalar α]

/-- The plugs that the names of a program may denote. -/
def programPlugs (α : Type) [Scalar α] (program : Expr.Program) : List String :=
  (program.loads α).flatMap tokenPlugs

/-- A list holds every plug that a reading may ask for. -/
structure CoveredBy (c : Context α) (plugs : List String) : Prop where
  source : ∀ {target source}, c.graph.incoming? target = some source →
    Plug.normalize source ∈ plugs
  node : ∀ {name node}, c.graph.node? name = some node → c.kindOf node.name = .expression →
    nodeVocabulary α node ⊆ plugs
  program : ∀ {name program}, c.programs[name]? = some program → c.kindOf name = .expression →
    programPlugs α program ⊆ plugs

theorem asksOnly_tokenValue (c : Context α) (name : String) :
    AsksOnly (· ∈ tokenPlugs name) (c.tokenValue name) := by
  unfold tokenValue
  split
  · next plug h => exact ⟨tokenPlug?_mem h, fun _ => trivial⟩
  · trivial

namespace CoveredBy

variable {c : Context α} {plugs : List String}

theorem programPlugs_subset (h : c.CoveredBy plugs) {node : Node}
    (own : nodeVocabulary α node ⊆ plugs) (kind : c.kindOf node.name = .expression) :
    programPlugs α (c.program node) ⊆ plugs := by
  unfold Context.program
  cases known : c.programs[node.name]? with
  | none =>
    rw [Option.getD_none]
    exact own
  | some program => exact h.program known kind

theorem asksOnly_plug (h : c.CoveredBy plugs) {target source : String}
    (found : c.graph.incoming? target = some source) :
    AsksOnly (· ∈ plugs) (Reading.plug (α := α) source) :=
  ⟨h.source found, fun _ => trivial⟩

theorem asksOnly_curveReading (h : c.CoveredBy plugs) (frame : α) (name : String)
    (curve : CurveShape α) : AsksOnly (· ∈ plugs) (c.curveReading frame name curve) := by
  simp only [curveReading]
  split
  · next source found =>
    obtain ⟨attr, -, connected⟩ := List.exists_of_findSome?_eq_some found
    exact (h.asksOnly_plug connected).map _
  · trivial

theorem asksOnly_expressionReading (h : c.CoveredBy plugs) (frame : α) {name : String}
    {node : Node} (attr : String) (found : c.graph.node? name = some node)
    (kind : c.kindOf node.name = .expression) :
    AsksOnly (· ∈ plugs) (c.expressionReading frame node attr) := by
  unfold expressionReading
  split
  · next slot _ =>
    have token : ∀ name ∈ (c.program node).loads α,
        AsksOnly (· ∈ plugs) (some <$> c.tokenValue name) := by
      intro name loaded
      have asked := c.asksOnly_tokenValue name
      apply AsksOnly.map
      apply asked.mono
      intro plug mentioned
      exact h.programPlugs_subset (h.node found kind) kind
        (List.mem_flatMap.mpr ⟨name, loaded, mentioned⟩)
    have output := (c.program node).asksOnly_output frame slot
    apply output.substitute
    exact token
  · trivial

theorem asksOnly_nodeReading (h : c.CoveredBy plugs) (frame : α) {name : String} {node : Node}
    (attr : String) (found : c.graph.node? name = some node) :
    AsksOnly (· ∈ plugs) (c.nodeReading frame node attr) := by
  simp only [nodeReading]
  split
  · next kind => exact (h.asksOnly_expressionReading frame attr found kind).map _
  · split
    · trivial
    · next formula computed =>
      split
      · trivial
      · refine ((Formula.ReadsOnly.ofKind computed).mono ?_).map _
        rintro plug ⟨attr, source, -, connected, rfl⟩
        exact h.source connected

/-- No reading leaves a list that covers the context. -/
theorem asksOnly_reading (h : c.CoveredBy plugs) (frame : α) (text : String) :
    AsksOnly (· ∈ plugs) (c.reading frame text) := by
  unfold reading
  split
  · next source found => exact (h.asksOnly_plug found).map _
  · split
    · trivial
    · next plug _ =>
      split
      · exact h.asksOnly_curveReading frame _ _
      · split
        · next node found => exact h.asksOnly_nodeReading frame plug.attr found
        · trivial

end CoveredBy

end Context

end PlugGraph
