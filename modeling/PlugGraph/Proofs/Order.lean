import PlugGraph.Number.Double
import PlugGraph.Proofs.Meaning

/-!
# The order of queries does not matter without cycles

Queries at one frame share a cache, and they keep the programs that they have parsed. The programs
are those of the nodes, so they change no reading; and as long as no cycle is reported the cache
holds meanings. Each query then gives what a fresh evaluator would, in whatever order they come.
-/

namespace PlugGraph

namespace Query

variable {α : Type}

instance : LawfulMonad (Query α) := by
  refine LawfulMonad.mk' _ ?_ ?_ ?_
  · intro ω query
    exact funext fun e => run_map id query e
  · intro ω υ value next
    rfl
  · intro ω υ τ query next next'
    funext e
    exact congrArg (Answer.mk _ · _) (List.append_assoc _ _ _)

end Query

namespace Context

variable {α : Type}

/-- The context before any program has been parsed. -/
def bare (c : Context α) : Context α := { c with programs := ∅ }

/-- The programs that have been parsed are those of their nodes. -/
def Faithful (c : Context α) : Prop :=
  ∀ name node, c.graph.node? name = some node → c.program node = node.program

theorem bare_faithful (c : Context α) : c.bare.Faithful := by
  intro name node _
  simp [program, bare]

theorem bare_keepProgramOf (c : Context α) (text : String) :
    (c.keepProgramOf text).bare = c.bare := by
  unfold keepProgramOf
  split <;> rfl

theorem Faithful.keepProgram {c : Context α} (h : c.Faithful) (keyed : c.Keyed) {name : String}
    {node : Node} (found : c.graph.node? name = some node) : (c.keepProgram node).Faithful := by
  intro name' node' found'
  change c.graph.node? name' = some node' at found'
  simp only [program, Context.keepProgram, Std.ExtTreeMap.getElem?_insert]
  split
  · next same =>
    have key : name = name' := by
      rw [← keyed name node found, ← keyed name' node' found']
      exact Std.compare_eq_iff_eq.mp same
    rw [key] at found
    obtain rfl := Option.some.inj (found.symm.trans found')
    exact h name' node found'
  · exact h name' node' found'

theorem Faithful.keepProgramOf {c : Context α} (h : c.Faithful) (keyed : c.Keyed) (text : String) :
    (c.keepProgramOf text).Faithful := by
  unfold Context.keepProgramOf
  split
  · next parsed =>
    obtain ⟨name, found⟩ := exists_node?_of_expressionNode? parsed
    exact h.keepProgram keyed found
  · exact h

variable [Scalar α]

/-- Faithful programs change no reading. -/
theorem Faithful.reading_bare {c : Context α} (h : c.Faithful) (frame : α) (text : String) :
    c.bare.reading frame text = c.reading frame text := by
  have node {name : String} {node : Node} (found : c.graph.node? name = some node) (attr : String) :
      c.bare.nodeReading frame node attr = c.nodeReading frame node attr := by
    have same : c.bare.program node = c.program node :=
      (c.bare_faithful name node found).trans (h name node found).symm
    have expression :
        c.bare.expressionReading frame node attr = c.expressionReading frame node attr := by
      simp only [expressionReading, same]
      rfl
    simp only [nodeReading, expression]
    rfl
  have graph : c.bare.graph = c.graph := rfl
  have curves : c.bare.curves = c.curves := rfl
  simp only [reading, curveReading, graph, curves]
  cases c.graph.incoming? text with
  | some source => rfl
  | none =>
    cases Plug.ofText? text with
    | none => rfl
    | some plug =>
      dsimp only
      cases c.curves[plug.node]? with
      | some curve => rfl
      | none =>
        dsimp only
        cases found : c.graph.node? plug.node with
        | some declared => exact node found plug.attr
        | none => rfl

theorem meaning?_congr {c c' : Context α} {frame : α}
    (reading : ∀ text, c.reading frame text = c'.reading frame text)
    (settle : ∀ plug outcome, c.settle plug outcome = c'.settle plug outcome) :
    c.meaning? frame = c'.meaning? frame := by
  funext levels
  induction levels with
  | zero => rfl
  | succ levels ih =>
    funext plug
    simp only [meaning?_succ, reading, settle, ih]

theorem settle_bare (c : Context α) (plug : String) (outcome : Outcome α) :
    c.bare.settle plug outcome = c.settle plug outcome := by
  cases outcome <;> rfl

theorem Faithful.meaning?_bare {c : Context α} (h : c.Faithful) (frame : α) :
    c.meaning? frame = c.bare.meaning? frame :=
  meaning?_congr (fun text => (h.reading_bare frame text).symm) fun plug outcome =>
    (c.settle_bare plug outcome).symm

/-- What a query for a text is to give when no cycle gets in its way. -/
def Denotes (c : Context α) (frame : α) (text : String) (value : α) : Prop :=
  if Text.isBlankText text then value = 0
  else ∃ levels, c.meaning? frame levels (Plug.normalize text) = some value

theorem exists_denotes {c : Context α} {frame : α} {text : String} (levels : Nat)
    (notBlank : Text.isBlankText text = false)
    (found : (c.meaning? frame levels (Plug.normalize text)).isSome) :
    ∃ value, c.Denotes frame text value := by
  obtain ⟨value, means⟩ := Option.isSome_iff_exists.mp found
  refine ⟨value, ?_⟩
  rw [Denotes, if_neg (by simp [notBlank])]
  exact ⟨levels, means⟩

end Context

theorem Query.evaluateAll_cons {α : Type} [Scalar α] (plug : String) (rest : List String)
    (frame : α) :
    evaluateAll (plug :: rest) frame =
      evaluate plug frame >>= fun value => (value :: ·) <$> evaluateAll rest frame := by
  simp only [evaluateAll, List.mapM_cons, bind_pure_comp]

namespace Evaluator

variable {α : Type} [Scalar α] {c : Context α} {frame : α} {e : Evaluator α}

/-- An evaluator of a context that has only been queried at one frame, and keeps only meanings. -/
structure Consistent (c : Context α) (frame : α) (e : Evaluator α) : Prop where
  sound : e.Sound
  bare : e.context.bare = c
  keyed : e.context.Keyed
  faithful : e.context.Faithful
  anchor : ∀ other, e.anchor = some other → other = frame
  justified : c.Justifies frame e.cache

theorem atFrame_context (e : Evaluator α) (frame : α) : (e.atFrame frame).context = e.context := by
  unfold atFrame
  split <;> rfl

/-- A query for a text that is not blank looks the plug up, or goes down to it. -/
theorem Sound.evaluate_cases_of_not_blank (h : e.Sound) {text : String}
    (notBlank : Text.isBlankText text = false) (frame : α) :
    (∃ value, (e.atFrame frame).cache[Plug.normalize text]? = some value ∧
        (Query.evaluate text frame).run e = ⟨value, [], e.atFrame frame⟩) ∨
      ∃ depth value later, (e.atFrame frame).cache[Plug.normalize text]? = none ∧
        (Descent.visit e.context frame depth [] (Plug.normalize text)).run
            (.start (e.atFrame frame).cache) = some (value, later) ∧
          (Query.evaluate text frame).run e =
            ⟨value, later.events.toList, (e.atFrame frame).note later⟩ := by
  have same := h.descent_eq (Nat.lt_succ_self _) text frame
  simp only [Descent.evaluate] at same
  rw [if_neg (by simp [notBlank])] at same
  cases known : (e.atFrame frame).cache[Plug.normalize text]? with
  | some value =>
    simp only [known] at same
    exact .inl ⟨value, rfl, (Option.some.inj same).symm⟩
  | none =>
    simp only [known, atFrame_context] at same
    obtain ⟨⟨value, later⟩, visited, same⟩ := Option.bind_eq_some_iff.mp same
    exact .inr ⟨_, value, later, rfl, visited, (Option.some.inj same).symm⟩

/-- A query does nothing, or looks the plug up, or goes down to it. -/
theorem Sound.evaluate_cases (h : e.Sound) (text : String) (frame : α) :
    (Text.isBlankText text = true ∧ (Query.evaluate text frame).run e = ⟨0, [], e⟩) ∨
    Text.isBlankText text = false ∧
      ((∃ value, (e.atFrame frame).cache[Plug.normalize text]? = some value ∧
          (Query.evaluate text frame).run e = ⟨value, [], e.atFrame frame⟩) ∨
        ∃ depth value later,
          (Descent.visit e.context frame depth [] (Plug.normalize text)).run
              (.start (e.atFrame frame).cache) = some (value, later) ∧
            (Query.evaluate text frame).run e =
              ⟨value, later.events.toList, (e.atFrame frame).note later⟩) := by
  cases blank : Text.isBlankText text with
  | true => exact .inl ⟨rfl, if_pos blank⟩
  | false =>
    refine .inr ⟨rfl, (h.evaluate_cases_of_not_blank blank frame).imp_right ?_⟩
    rintro ⟨depth, value, later, -, visited, same⟩
    exact ⟨depth, value, later, visited, same⟩

namespace Consistent

theorem atFrame (h : e.Consistent c frame) : (e.atFrame frame).Consistent c frame := by
  have sound := h.sound.atFrame frame
  unfold Evaluator.atFrame at sound ⊢
  by_cases holds : e.holds frame = true
  · rw [if_pos holds]
    exact h
  · rw [if_neg holds] at sound ⊢
    exact ⟨sound, h.bare, h.keyed, h.faithful, fun other same => (Option.some.inj same).symm,
      fun plug value kept => by simp at kept⟩

/-- Notes that hold only meanings are taken over. -/
theorem note (h : e.Consistent c frame) {notes : Notes α} (sound : (e.note notes).Sound)
    (justified : c.Justifies frame notes.cache) : (e.note notes).Consistent c frame := by
  obtain ⟨bare, keyed, faithful⟩ : (e.note notes).context.bare = c ∧
      (e.note notes).context.Keyed ∧ (e.note notes).context.Faithful :=
    List.foldrRecOn (motive := fun c' : Context α => c'.bare = c ∧ c'.Keyed ∧ c'.Faithful)
      notes.visited _ ⟨h.bare, h.keyed, h.faithful⟩
      fun before ⟨bare, keyed, faithful⟩ plug _ =>
        ⟨(before.bare_keepProgramOf plug).trans bare, Context.Keyed.keepProgramOf keyed plug,
          faithful.keepProgramOf keyed plug⟩
  exact ⟨sound, bare, keyed, faithful, h.anchor, justified⟩

theorem meaning?_eq (h : e.Consistent c frame) : e.context.meaning? frame = c.meaning? frame := by
  rw [h.faithful.meaning?_bare, h.bare]

theorem justifies_context (h : e.Consistent c frame) {cache : Std.ExtTreeMap String α} :
    e.context.Justifies frame cache ↔ c.Justifies frame cache := by
  simp only [Context.Justifies, h.meaning?_eq]

/-- A query that reports no cycle gives what the text denotes. -/
theorem denotes_evaluate (h : e.Consistent c frame) (text : String)
    (clean : Acyclic ((Query.evaluate text frame).run e).events) :
    c.Denotes frame text ((Query.evaluate text frame).run e).value ∧
      ((Query.evaluate text frame).run e).evaluator.Consistent c frame := by
  have ready := h.atFrame
  have sound := h.sound.evaluate text frame
  rcases h.sound.evaluate_cases text frame with ⟨blank, same⟩ | ⟨blank,
    ⟨value, known, same⟩ | ⟨depth, value, later, visited, same⟩⟩
  · rw [same]
    exact ⟨by rw [Context.Denotes, if_pos blank], h⟩
  · rw [same, Context.Denotes, if_neg (by simp [blank])]
    exact ⟨ready.justified _ _ known, ready⟩
  · rw [same] at clean sound ⊢
    have trusty : (Notes.start (e.atFrame frame).cache).Trusty e.context frame :=
      fun _ => ⟨rfl, h.justifies_context.mpr ready.justified⟩
    have finds := Descent.finds_visit trusty visited
    rw [Context.Denotes, if_neg (by simp [blank]), ← h.meaning?_eq]
    exact ⟨finds.found clean, ready.note sound (h.justifies_context.mp (finds.trusty clean).2)⟩

/-- A query for a text that denotes something gives that and reports no cycle. -/
theorem evaluate_of_denotes (h : e.Consistent c frame) {text : String} {value : α}
    (denotes : c.Denotes frame text value) :
    ((Query.evaluate text frame).run e).value = value ∧
      Acyclic ((Query.evaluate text frame).run e).events ∧
      ((Query.evaluate text frame).run e).evaluator.Consistent c frame := by
  have ready := h.atFrame
  have sound := h.sound.evaluate text frame
  rcases h.sound.evaluate_cases text frame with ⟨blank, same⟩ | ⟨blank,
    ⟨kept, known, same⟩ | ⟨depth, found, later, visited, same⟩⟩
  · rw [Context.Denotes, if_pos blank] at denotes
    rw [same, denotes]
    exact ⟨rfl, .nil, h⟩
  · rw [Context.Denotes, if_neg (by simp [blank])] at denotes
    obtain ⟨levels, means⟩ := denotes
    obtain ⟨levels', means'⟩ := ready.justified _ _ known
    rw [same]
    exact ⟨Context.meaning?_unique means' means, .nil, ready⟩
  · rw [Context.Denotes, if_neg (by simp [blank]), ← h.meaning?_eq] at denotes
    obtain ⟨levels, means⟩ := denotes
    obtain ⟨first, -, means, before⟩ := Context.exists_first_level means
    have justified := h.justifies_context.mpr ready.justified
    obtain ⟨rfl, met⟩ := Descent.meets_visit justified means
      (fun caller member => List.mem_singleton.mp member ▸ before) visited
    rw [same] at sound ⊢
    exact ⟨rfl, met.acyclic .nil, ready.note sound (h.justifies_context.mp met.justified)⟩

/-- Queries that report no cycle are for texts that denote something. -/
theorem exists_denotes (h : e.Consistent c frame) (plugs : List String)
    (clean : Acyclic ((Query.evaluateAll plugs frame).run e).events) :
    ∀ plug ∈ plugs, ∃ value, c.Denotes frame plug value := by
  induction plugs generalizing e with
  | nil => simp
  | cons plug rest ih =>
    simp only [Query.evaluateAll_cons, Query.run_bind, Query.run_map] at clean
    obtain ⟨first, later⟩ := Acyclic.append.mp clean
    obtain ⟨denotes, after⟩ := h.denotes_evaluate plug first
    exact List.forall_mem_cons.mpr ⟨⟨_, denotes⟩, ih after later⟩

/-- Queries for texts that denote something give what any consistent evaluator gives, in whatever
order they come. -/
theorem evaluateAll_of_denotes (h : e.Consistent c frame) {fresh : Evaluator α}
    (h' : fresh.Consistent c frame) {plugs : List String}
    (denote : ∀ plug ∈ plugs, ∃ value, c.Denotes frame plug value) :
    ((Query.evaluateAll plugs frame).run e).value =
        plugs.map (fun plug => ((Query.evaluate plug frame).run fresh).value) ∧
      Acyclic ((Query.evaluateAll plugs frame).run e).events := by
  induction plugs generalizing e with
  | nil => exact ⟨rfl, .nil⟩
  | cons plug rest ih =>
    obtain ⟨⟨value, denotes⟩, later⟩ := List.forall_mem_cons.mp denote
    obtain ⟨same, clean, after⟩ := h.evaluate_of_denotes denotes
    have same := same.trans (h'.evaluate_of_denotes denotes).1.symm
    obtain ⟨same', clean'⟩ := ih after later
    simp only [Query.evaluateAll_cons, Query.run_bind, Query.run_map, List.map_cons, same, same',
      true_and]
    exact Acyclic.append.mpr ⟨clean, clean'⟩

end Consistent

/-- An evaluator that has not been queried is consistent. -/
theorem consistent_ofGraph (nodes : List Node) (connections : List Connection)
    (curves : List (String × CurveShape α)) (rotation : RotationBlend α) (frame : α) :
    let fresh := ofGraph (.ofRecords nodes connections) curves rotation
    fresh.Consistent fresh.context frame where
  sound := sound_ofGraph nodes connections curves rotation
  bare := rfl
  keyed := keyed_ofGraph nodes connections curves rotation
  faithful := Context.bare_faithful (ofGraph (.ofRecords nodes connections) curves rotation).context
  anchor _ other := by cases other
  justified plug value kept := by simp [ofGraph] at kept

/-- When queries at one frame report no cycle, each gives what a fresh evaluator gives for its plug,
and so does every other sequence of queries for these plugs, without a cycle either. -/
theorem evaluateAll_eq_fresh (nodes : List Node) (connections : List Connection)
    (curves : List (String × CurveShape α)) (rotation : RotationBlend α) (plugs : List String)
    (frame : α) :
    let fresh := ofGraph (.ofRecords nodes connections) curves rotation
    let value (plug : String) := ((Query.evaluate plug frame).run fresh).value
    Acyclic ((Query.evaluateAll plugs frame).run fresh).events →
    ∀ plugs' ⊆ plugs,
      ((Query.evaluateAll plugs' frame).run fresh).value = plugs'.map value ∧
        Acyclic ((Query.evaluateAll plugs' frame).run fresh).events := by
  intro fresh value clean plugs' subset
  have start : fresh.Consistent fresh.context frame :=
    consistent_ofGraph nodes connections curves rotation frame
  exact start.evaluateAll_of_denotes start fun plug member =>
    start.exists_denotes plugs clean plug (subset member)

/-- A product that takes in a sum, queried before and after it. -/
theorem evaluateAll_eq_fresh_sum_and_product :
    let nodes : List Node := [⟨"sum", "addDoubleLinear", []⟩, ⟨"product", "multDoubleLinear", []⟩]
    let connections : List Connection := [⟨"sum.output", "product.input1", false⟩]
    let fresh : Evaluator Float := ofGraph (.ofRecords nodes connections) [] slerpEuler
    let value (plug : String) := ((Query.evaluate plug 1).run fresh).value
    Acyclic ((Query.evaluateAll ["product.output", "sum.output"] 1).run fresh).events ∧
    ["sum.output", "product.output"] ⊆ ["product.output", "sum.output"] ∧
      ((Query.evaluateAll ["sum.output", "product.output"] 1).run fresh).value =
          [value "sum.output", value "product.output"] ∧
        Acyclic ((Query.evaluateAll ["sum.output", "product.output"] 1).run fresh).events := by
  intro nodes connections fresh value
  have start : fresh.Consistent fresh.context 1 :=
    consistent_ofGraph nodes connections [] slerpEuler 1
  have denote : ∀ plug ∈ ["product.output", "sum.output"],
      ∃ value, fresh.context.Denotes 1 plug value := by
    refine List.forall_mem_cons.mpr ⟨?_, List.forall_mem_cons.mpr ⟨?_, by simp⟩⟩
    · exact Context.exists_denotes 2 (by decide +kernel) (by decide +kernel)
    · exact Context.exists_denotes 1 (by decide +kernel) (by decide +kernel)
  have clean := (start.evaluateAll_of_denotes start denote).2
  have subset : ["sum.output", "product.output"] ⊆ ["product.output", "sum.output"] := by simp
  exact ⟨clean, subset, evaluateAll_eq_fresh nodes connections [] slerpEuler
    ["product.output", "sum.output"] 1 clean ["sum.output", "product.output"] subset⟩

end Evaluator

end PlugGraph
