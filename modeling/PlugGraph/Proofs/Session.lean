import PlugGraph.Eval.Query
import PlugGraph.Proofs.Records
import PlugGraph.Proofs.Walk

/-!
# Sessions

A session is a sequence of operations on one evaluator: queries of every sort, resets, and changes
to the nodes of the graph behind the evaluator's back. Every operation keeps the evaluator *sound*:
its vocabulary covers whatever a computation may read, and nothing is under way between operations.
The last part is where walks have to come to an end.

All an operation does to the values it does by evaluating plugs. What that upholds, the operations
uphold (`Operation.upholds_perform`), and so does a session (`Evaluator.after_induction`).
-/

namespace PlugGraph

inductive Operation (α : Type) where
  | evaluate (plug : String) (frame : α)
  | resolve (name : String) (frame : α)
  | interpret (text : String) (frame : α) (locals : Expr.Postfix.Variables α)
  /-- Asks for the program of a node, which need not be one of the graph. -/
  | program (node : Node)
  | reset
  /-- Puts a node under a name, which need not be its own. -/
  | setNode (name : String) (node : Node)
  | eraseNode (name : String)

/-- What an operation gives back. -/
inductive Reply (α : Type) where
  | value (value : α)
  | program (program : Expr.Program)
  | done

def Operation.perform {α : Type} [Scalar α] : Operation α → Query α (Reply α)
  | evaluate plug frame => .value <$> Query.evaluate plug frame
  | resolve name frame => .value <$> Query.resolve name frame
  | interpret text frame locals => .value <$> Query.interpret text frame locals
  | program node => .program <$> Query.program node
  | reset => (fun _ => .done) <$> Query.modify .reset
  | setNode name node => (fun _ => .done) <$> Query.modify (·.setNode name node)
  | eraseNode name => (fun _ => .done) <$> Query.modify (·.eraseNode name)

def Evaluator.after {α : Type} [Scalar α] (e : Evaluator α) (session : List (Operation α)) :
    Evaluator α :=
  session.foldl (fun e operation => (operation.perform.run e).evaluator) e

theorem Evaluator.after_cons {α : Type} [Scalar α] (e : Evaluator α) (operation : Operation α)
    (rest : List (Operation α)) :
    e.after (operation :: rest) = (operation.perform.run e).evaluator.after rest := rfl

section Upholds

variable {α ω : Type} {p : Evaluator α → Prop} {q : List (Event α) → Prop}

/-- Events of a kind: no events are, and events one after the other are if both parts are. -/
structure Event.Closed (q : List (Event α) → Prop) : Prop where
  nil : q []
  append : ∀ {events later}, q events → q later → q (events ++ later)

theorem Event.Closed.any : Closed (fun _ : List (Event α) => True) :=
  ⟨trivial, fun _ _ => trivial⟩

/-- Asked of an evaluator with a property, a query reports events of a kind and leaves an evaluator
with the property. -/
def Query.Upholds (p : Evaluator α → Prop) (q : List (Event α) → Prop) (query : Query α ω) : Prop :=
  ∀ e, p e → p (query.run e).evaluator ∧ q (query.run e).events

variable [Scalar α]

/-- A query for a plug whose value is known gives that. -/
theorem Query.evaluate_known {text : String} {frame value : α} {e : Evaluator α}
    (notBlank : Text.isBlankText text = false)
    (known : (e.atFrame frame).cache[Plug.normalize text]? = some value) :
    (evaluate text frame).run e = ⟨value, [], e.atFrame frame⟩ := by
  simp only [run, evaluate, notBlank, Bool.false_eq_true, if_false, known]

/-- A query for any other plug walks to it. -/
theorem Query.evaluate_unknown {text : String} {frame : α} {e : Evaluator α}
    (notBlank : Text.isBlankText text = false)
    (unknown : Plug.normalize text ∉ (e.atFrame frame).cache) :
    let walk := (e.atFrame frame).walk (Plug.normalize text) frame
    (evaluate text frame).run e =
      ⟨walk.cache.getD (Plug.normalize text) 0, walk.events.toList,
        (e.atFrame frame).adopt walk⟩ := by
  have absent : (e.atFrame frame).cache[Plug.normalize text]? = none := by simpa using unknown
  simp only [run, evaluate, notBlank, Bool.false_eq_true, if_false, absent]

/-- A query does nothing for a blank text, looks its plug up, or walks to it. -/
theorem Query.evaluate_cases (text : String) (frame : α) (e : Evaluator α) :
    (Text.isBlankText text = true ∧ (evaluate text frame).run e = ⟨0, [], e⟩) ∨
    Text.isBlankText text = false ∧
      ((∃ value, (e.atFrame frame).cache[Plug.normalize text]? = some value ∧
          (evaluate text frame).run e = ⟨value, [], e.atFrame frame⟩) ∨
        Plug.normalize text ∉ (e.atFrame frame).cache ∧
          let walk := (e.atFrame frame).walk (Plug.normalize text) frame
          (evaluate text frame).run e =
            ⟨walk.cache.getD (Plug.normalize text) 0, walk.events.toList,
              (e.atFrame frame).adopt walk⟩) := by
  cases blank : Text.isBlankText text with
  | true => exact .inl ⟨rfl, if_pos blank⟩
  | false =>
    refine .inr ⟨rfl, ?_⟩
    cases known : (e.atFrame frame).cache[Plug.normalize text]? with
    | some value => exact .inl ⟨value, rfl, evaluate_known blank known⟩
    | none =>
      have unknown : Plug.normalize text ∉ (e.atFrame frame).cache := by simpa using known
      exact .inr ⟨unknown, evaluate_unknown blank unknown⟩

/-- Resolving a name upholds what evaluating plugs upholds. -/
theorem Query.upholds_resolve (closed : Event.Closed q) {frame : α}
    (evaluate : ∀ text, (Query.evaluate text frame).Upholds p q) (name : String) :
    (Query.resolve name frame).Upholds p q := by
  intro e h
  simp only [Query.run, Query.resolve]
  split
  · exact evaluate _ e h
  · exact ⟨h, closed.nil⟩

/-- Whatever an expression asks for, answering it upholds what evaluating plugs upholds. -/
theorem Query.upholds_answer (closed : Event.Closed q) {frame : α}
    (evaluate : ∀ text, (Query.evaluate text frame).Upholds p q)
    (d : Dialogue String (Option α) ω) : (Query.answer frame d).Upholds p q := by
  induction d with
  | done => exact fun e h => ⟨h, closed.nil⟩
  | ask name next ih =>
    intro e h
    rw [Query.run_answer_ask]
    obtain ⟨first, reported⟩ := Query.upholds_resolve closed evaluate name e h
    obtain ⟨second, reported'⟩ := ih (some ((Query.resolve name frame).run e).value) _ first
    exact ⟨second, closed.append reported reported'⟩

/-- Operations uphold what evaluating plugs upholds, if it survives looking up programs, resets and
changes to nodes. -/
theorem Operation.upholds_perform (operation : Operation α) (closed : Event.Closed q)
    (evaluate : ∀ text frame, (Query.evaluate text frame).Upholds p q)
    (program : ∀ node e, p e → p ((Query.program node).run e).evaluator)
    (reset : ∀ e, p e → p e.reset)
    (setNode : ∀ name node, operation = .setNode name node → ∀ e, p e → p (e.setNode name node))
    (eraseNode : ∀ name e, p e → p (e.eraseNode name)) : operation.perform.Upholds p q := by
  intro e h
  cases operation <;> simp only [Operation.perform, Query.run_map]
  case evaluate text frame => exact evaluate text frame e h
  case resolve name frame =>
    exact Query.upholds_resolve closed (evaluate · frame) name e h
  case interpret text frame locals => exact Query.upholds_answer closed (evaluate · frame) _ e h
  case program node => exact ⟨program node e h, closed.nil⟩
  case reset => exact ⟨reset e h, closed.nil⟩
  case setNode name node => exact ⟨setNode name node rfl e h, closed.nil⟩
  case eraseNode name => exact ⟨eraseNode name e h, closed.nil⟩

/-- What every operation upholds, a session upholds. -/
theorem Evaluator.after_induction
    (perform : ∀ (operation : Operation α) e, p e → p (operation.perform.run e).evaluator)
    {e : Evaluator α} (h : p e) (session : List (Operation α)) : p (e.after session) := by
  induction session generalizing e with
  | nil => exact h
  | cons operation rest ih => exact ih (perform operation e h)

end Upholds

namespace Context

variable {α : Type}

/-- Nodes stand under their own names. -/
def Keyed (c : Context α) : Prop :=
  ∀ name node, c.graph.node? name = some node → node.name = name

theorem exists_node?_of_expressionNode? {c : Context α} {text : String} {node : Node}
    (used : c.expressionNode? text = some node) : ∃ name, c.graph.node? name = some node := by
  unfold expressionNode? at used
  obtain ⟨-, -, used⟩ := Option.bind_eq_some_iff.mp used
  obtain ⟨plug, -, used⟩ := Option.bind_eq_some_iff.mp used
  obtain ⟨-, -, used⟩ := Option.bind_eq_some_iff.mp used
  obtain ⟨node', found, used⟩ := Option.bind_eq_some_iff.mp used
  obtain ⟨-, -, used⟩ := Option.bind_eq_some_iff.mp used
  obtain ⟨-, -, same⟩ := Option.bind_eq_some_iff.mp used
  cases same
  exact ⟨plug.node, found⟩

theorem Keyed.keepProgramOf {c : Context α} (h : c.Keyed) (text : String) :
    (c.keepProgramOf text).Keyed := by
  unfold Context.keepProgramOf
  split <;> exact h

theorem Keyed.foldr_keepProgramOf {c : Context α} (h : c.Keyed) (texts : List String) :
    (texts.foldr (fun text c => c.keepProgramOf text) c).Keyed :=
  List.foldrRecOn (motive := Keyed) texts _ h fun _ keyed text _ => keyed.keepProgramOf text

theorem Keyed.setNode {c : Context α} (h : c.Keyed) (node : Node) :
    Keyed { c with graph := c.graph.setNode node.name node } := by
  intro name node' found
  simp only [Graph.node?, Graph.setNode, Std.ExtTreeMap.getElem?_insert] at found
  split at found
  · next same =>
    cases found
    exact Std.compare_eq_iff_eq.mp same
  · exact h _ _ found

theorem Keyed.eraseNode {c : Context α} (h : c.Keyed) (name : String) :
    Keyed { c with graph := c.graph.eraseNode name } := by
  intro other node found
  exact h _ _ (Graph.node?_of_node?_eraseNode found)

variable [Scalar α]

theorem CoveredBy.mono {c : Context α} {plugs plugs' : List String} (h : c.CoveredBy plugs)
    (subset : plugs ⊆ plugs') : c.CoveredBy plugs' where
  source found := subset (h.source found)
  node found kind := List.Subset.trans (h.node found kind) subset
  program known kind := List.Subset.trans (h.program known kind) subset

theorem CoveredBy.keepProgram {c : Context α} {plugs : List String} (h : c.CoveredBy plugs)
    {node : Node} (own : c.kindOf node.name = .expression → nodeVocabulary α node ⊆ plugs) :
    (c.keepProgram node).CoveredBy plugs where
  source := h.source
  node := h.node
  program := by
    intro name' program known kind
    rw [Context.keepProgram, Std.ExtTreeMap.getElem?_insert] at known
    split at known
    · next same =>
      cases known
      have kind : c.kindOf node.name = .expression := by
        rw [Std.compare_eq_iff_eq.mp same]
        exact kind
      exact h.programPlugs_subset (own kind) kind
    · exact h.program known kind

theorem CoveredBy.keepProgramOf {c : Context α} {plugs : List String} (h : c.CoveredBy plugs)
    (text : String) : (c.keepProgramOf text).CoveredBy plugs := by
  unfold Context.keepProgramOf
  split
  · next node used =>
    obtain ⟨name, found⟩ := exists_node?_of_expressionNode? used
    exact h.keepProgram (h.node found)
  · exact h

end Context

namespace Evaluator

variable {α : Type}

/-- Every plug of the vocabulary takes two steps at most, and so does the plug asked for. -/
theorem remaining_setOut (e : Evaluator α) (root : String) :
    (e.setOut root).remaining (root :: e.vocabulary) ≤ e.stepLimit := by
  have stack : (e.setOut root).stack.length = 1 := rfl
  have visited : (e.setOut root).visited.length = 1 := rfl
  simp only [Walk.remaining, stack, visited, List.length_cons, stepLimit]
  omega

variable [Scalar α]

/-- An evaluator between operations. -/
structure Sound (e : Evaluator α) : Prop where
  covered : e.context.CoveredBy e.vocabulary
  idle : e.current = none
  clear : e.underway = ∅

theorem kinds_ofGraph (graph : Graph) (curves : List (String × CurveShape α))
    (rotation : RotationBlend α) (name : String) :
    (ofGraph graph curves rotation).context.kinds[name]? =
      (graph.node? name).map fun node => Kind.ofType node.type :=
  Std.ExtTreeMap.getElem?_map

/-- The nodes of a graph built from records stand under their own names. -/
theorem keyed_ofGraph (nodes : List Node) (connections : List Connection)
    (curves : List (String × CurveShape α)) (rotation : RotationBlend α) :
    (ofGraph (.ofRecords nodes connections) curves rotation).context.Keyed :=
  fun _ _ found => Graph.name_of_node? found

/-- An evaluator of a graph built from records starts sound. -/
theorem sound_ofGraph (nodes : List Node) (connections : List Connection)
    (curves : List (String × CurveShape α)) (rotation : RotationBlend α) :
    (ofGraph (.ofRecords nodes connections) curves rotation).Sound where
  covered :=
    { source := by
        intro target source found
        obtain ⟨c, member, -, rfl⟩ := Graph.exists_connection_of_incoming? found
        exact List.mem_append_left _ (List.mem_map.mpr ⟨c, member, rfl⟩)
      node := by
        intro name node found kind plug mentioned
        refine List.mem_append_right _ (List.mem_flatMap.mpr ⟨node, ?_, mentioned⟩)
        exact List.mem_filter.mpr ⟨Graph.mem_nodes_of_node? found, decide_eq_true kind⟩
      program := by
        intro name program known
        simp [ofGraph] at known }
  idle := rfl
  clear := rfl

namespace Sound

variable {e : Evaluator α}

theorem reset (h : e.Sound) : e.reset.Sound := { h with clear := rfl }

theorem atFrame (h : e.Sound) (frame : α) : (e.atFrame frame).Sound := by
  unfold Evaluator.atFrame
  split
  · exact h
  · exact { h with clear := rfl }

theorem setNode (h : e.Sound) (name : String) (node : Node) : (e.setNode name node).Sound where
  covered :=
    have wider := h.covered.mono (List.subset_append_right (Context.nodeVocabulary α node) _)
    { wider with
      node := by
        intro other node' found kind
        simp only [Evaluator.setNode, Graph.node?, Graph.setNode,
          Std.ExtTreeMap.getElem?_insert] at found
        split at found
        · cases found
          exact List.subset_append_left _ _
        · exact wider.node found kind }
  idle := h.idle
  clear := h.clear

theorem eraseNode (h : e.Sound) (name : String) : (e.eraseNode name).Sound where
  covered :=
    { source := h.covered.source
      node := fun found => h.covered.node (Graph.node?_of_node?_eraseNode found)
      program := h.covered.program }
  idle := h.idle
  clear := h.clear

/-- A walk sets out coherent. -/
theorem setOut (h : e.Sound) {root : String} (unknown : root ∉ e.cache) :
    (e.setOut root).Coherent (root :: e.vocabulary) := by
  refine Walk.Coherent.push ?_ unknown ?_ List.mem_cons_self
  · refine ⟨⟨?_, ?_, ?_, h.idle⟩, ?_, ?_, ?_, ?_⟩ <;> simp [Notes.start, h.clear]
  · simp [h.clear]

theorem asksOnly (h : e.Sound) (root : String) (frame : α) (text : String) :
    (e.context.reading frame text).AsksOnly (· ∈ root :: e.vocabulary) :=
  (h.covered.asksOnly_reading frame text).mono fun _ => List.mem_cons_of_mem _

/-- The fuel of a walk suffices. -/
theorem walk_done (h : e.Sound) {root : String} (frame : α) (unknown : root ∉ e.cache) :
    (e.walk root frame).stack = [] := by
  have start := h.setOut unknown
  obtain ⟨n, bound, done, -⟩ := start.exists_done (h.asksOnly root frame)
  have enough := Nat.le_trans bound (e.remaining_setOut root)
  rw [Evaluator.walk, Walk.run_eq_iterate, Walk.iterate_eq_of_done done enough, done]

theorem walk_coherent (h : e.Sound) {root : String} (frame : α) (unknown : root ∉ e.cache) :
    (e.walk root frame).Coherent (root :: e.vocabulary) := by
  rw [Evaluator.walk, Walk.run_eq_iterate]
  exact (h.setOut unknown).iterate (h.asksOnly root frame) _

/-- A walk that is done leaves nothing under way. -/
theorem adopt (h : e.Sound) {plugs : List String} {walk : Walk α} (coherent : walk.Coherent plugs)
    (done : walk.stack = []) : (e.adopt walk).Sound where
  covered :=
    List.foldrRecOn (motive := fun c : Context α => c.CoveredBy e.vocabulary) walk.visited _
      h.covered fun _ before plug _ => before.keepProgramOf plug
  idle := coherent.idle
  clear := coherent.empty_underway done

theorem evaluate (h : e.Sound) (text : String) (frame : α) :
    ((Query.evaluate text frame).run e).evaluator.Sound := by
  have ready := h.atFrame frame
  rcases Query.evaluate_cases text frame e with ⟨-, same⟩ | ⟨-, ⟨_, -, same⟩ | ⟨unknown, same⟩⟩ <;>
    rw [same]
  · exact h
  · exact ready
  · exact ready.adopt (ready.walk_coherent frame unknown) (ready.walk_done frame unknown)

theorem program (h : e.Sound) (node : Node) : ((Query.program node).run e).evaluator.Sound where
  covered :=
    have wider := h.covered.mono (List.subset_append_right (Context.nodeVocabulary α node) _)
    wider.keepProgram fun _ => List.subset_append_left _ _
  idle := h.idle
  clear := h.clear

theorem resolve (h : e.Sound) (name : String) (frame : α) :
    ((Query.resolve name frame).run e).evaluator.Sound :=
  (Query.upholds_resolve .any (fun text _ h => ⟨h.evaluate text frame, trivial⟩) name e h).1

theorem perform (h : e.Sound) (operation : Operation α) :
    (operation.perform.run e).evaluator.Sound :=
  (operation.upholds_perform .any (fun text frame _ h => ⟨h.evaluate text frame, trivial⟩)
    (fun node _ h => h.program node) (fun _ h => h.reset)
    (fun name node _ _ h => h.setNode name node) (fun name _ h => h.eraseNode name) e h).1

/-- An evaluator is sound after every session. -/
theorem after (h : e.Sound) (session : List (Operation α)) : (e.after session).Sound :=
  after_induction (p := Sound) (fun operation _ h => h.perform operation) h session

end Sound

end Evaluator

end PlugGraph
