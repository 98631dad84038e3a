import PlugGraph.Proofs.Driven
import PlugGraph.Proofs.Flow
import PlugGraph.Proofs.History

/-!
# Reported cycles are cycles of the graph

While a plug is computed, each plug under way has come to it by readings: a path of `Graph.Reads`
leads from every caller to the plug. A cycle is reported at a plug under way that is read once more,
so that plug has come to read itself, and the flow of the graph has a cycle through it. Nothing of
this depends on values, frames or the nodes that stand behind the plugs, so it holds of every
session, whatever is replaced in it: `Evaluator.cycles_mem_cyclicPlugs`. Programs may read any plug
that they name, which the flow does not show; there must be none.
-/

namespace PlugGraph

open Relation Dialogue

variable {α : Type}

/-- Every cycle among the events is reported at a plug of a set. -/
def CyclesAt (p : String → Prop) (events : List (Event α)) : Prop :=
  ∀ d ∈ Event.diagnostics events, d.kind = .cycle → p d.plug

namespace CyclesAt

variable {p p' : String → Prop} {events events' : List (Event α)}

theorem nil : CyclesAt p ([] : List (Event α)) := by simp [CyclesAt, Event.diagnostics]

theorem append (h : CyclesAt p events) (h' : CyclesAt p events') :
    CyclesAt p (events ++ events') := by
  intro d member
  rw [Event.diagnostics, List.filterMap_append, List.mem_append] at member
  exact member.elim (h d) (h' d)

theorem mono (h : CyclesAt p events) (weaken : ∀ plug, p plug → p' plug) : CyclesAt p' events :=
  fun d member cycle => weaken _ (h d member cycle)

theorem of_acyclic (clean : Acyclic events) : CyclesAt p events :=
  fun d member cycle => absurd cycle (clean d member)

theorem acyclic (h : CyclesAt p events) (none : ∀ plug, ¬p plug) : Acyclic events :=
  fun d member cycle => none _ (h d member cycle)

theorem reportCycle {notes : Notes α} {reader plug : String}
    (h : CyclesAt p notes.events.toList) (at_plug : p plug) :
    CyclesAt p (notes.reportCycle reader plug).events.toList := by
  unfold Notes.reportCycle
  split
  · exact h
  · rw [Array.toList_push]
    refine h.append fun d member _ => ?_
    obtain rfl : d = ⟨plug, .beingResolved⟩ := by simpa [Event.diagnostics] using member
    exact at_plug

end CyclesAt

namespace Context

variable [Scalar α] {c : Context α} {text : String} {plug : Plug}

theorem asksOnly_reads_curve (free : c.graph.incoming? text = none)
    (split : Plug.ofText? text = some plug) (frame : α) (curve : CurveShape α) :
    AsksOnly (c.graph.Reads text) (c.curveReading frame plug.node curve) := by
  simp only [curveReading]
  split
  · next source connected =>
    obtain ⟨attr, member, found⟩ := List.exists_of_findSome?_eq_some connected
    have plain : ∀ attr ∈ curveInputs, Attr.isPlain attr = true := by decide
    have asked : AsksOnly (c.graph.Reads text) (Reading.plug (α := α) source) :=
      ⟨.inside free split (plain attr member) found, fun _ => trivial⟩
    exact asked.map _
  · trivial

theorem asksOnly_reads_node (free : c.graph.incoming? text = none)
    (split : Plug.ofText? text = some plug) (frame : α) {node : Node}
    (named : node.name = plug.node)
    (simple : c.kindOf node.name ≠ .expression) :
    AsksOnly (c.graph.Reads text) (c.nodeReading frame node plug.attr) := by
  simp only [nodeReading, if_neg simple]
  split
  · trivial
  · next formula computed =>
    split
    · trivial
    · have asked : AsksOnly (c.graph.Reads text) formula.run := by
        apply AsksOnly.mono (Formula.ReadsOnly.ofKind computed)
        rintro asked ⟨attr, source, plain, connected, rfl⟩
        rw [Inputs.source?, Inputs.plug, named] at connected
        exact .inside free split plain connected
      exact asked.map _

/-- Where there is no program, a plug asks only for what the graph says that it reads. -/
theorem asksOnly_reads (keyed : c.Keyed) (simple : ∀ name, c.kindOf name ≠ .expression)
    (frame : α) (text : String) : AsksOnly (c.graph.Reads text) (c.reading frame text) := by
  unfold reading
  split
  · next source found =>
    have asked : AsksOnly (c.graph.Reads text) (Reading.plug (α := α) source) :=
      ⟨.driven found, fun _ => trivial⟩
    exact asked.map _
  · next free =>
    split
    · trivial
    · next plug split =>
      split
      · exact asksOnly_reads_curve free split frame _
      · split
        · next node found =>
          exact asksOnly_reads_node free split frame (keyed _ _ found) (simple _)
        · trivial

end Context

namespace Descent

variable [Scalar α] {c : Context α} {frame : α} {callers : List String} {reader plug : String}
  {notes later : Notes α} {value : α} {reads : String → String → Prop}

/-- Cycles are reported at plugs that come to read themselves. -/
abbrev Traced (reads : String → String → Prop) (notes : Notes α) : Prop :=
  CyclesAt (fun plug => TransGen reads plug plug) notes.events.toList

theorem traced_visit (asks : ∀ text, (c.reading frame text).AsksOnly (reads text)) {depth : Nat}
    (callersRead : ∀ caller ∈ callers, TransGen reads caller plug) (traced : Traced reads notes)
    (visited : (visit c frame depth callers plug).run notes = some (value, later)) :
    Traced reads later := by
  induction depth generalizing callers plug notes value later with
  | zero => cases visited
  | succ depth ih =>
    obtain ⟨_, outcome, between, ⟨⟩, answered, rfl, rfl⟩ := exists_of_visit visited
    have underway : ∀ caller ∈ plug :: callers, ReflTransGen reads caller plug :=
      List.forall_mem_cons.mpr ⟨.refl, fun caller member =>
        (callersRead caller member).to_reflTransGen⟩
    have kept : Traced reads between :=
      related_of_answer (r := fun notes later => Traced reads notes → Traced reads later)
        (fun _ => id) (fun first second => second ∘ first)
        -- A caller that is read again has come to read itself.
        (fun reading stacked traced => traced.reportCycle (.tail' (underway _ stacked) reading))
        (fun reading _ _ went traced =>
          ih (fun caller member => .tail' (underway caller member) reading) traced went)
        (asks plug) answered traced
    have regular := ends_of_answer (c.endsIn_reading frame plug) answered
    rw [Traced, Notes.toList_events_keep]
    exact kept.append (.of_acyclic (c.acyclic_settle plug regular))

end Descent

/-- An operation that puts no node under another name than its own. -/
def Operation.KeepsNames : Operation α → Prop
  | .setNode name node => node.name = name
  | _ => True

namespace Evaluator

variable [Scalar α] {e : Evaluator α} {graph : Graph}

/-- An evaluator whose plugs read what a graph says that they read. -/
structure Follows (graph : Graph) (e : Evaluator α) : Prop where
  sound : e.Sound
  keyed : e.context.Keyed
  simple : ∀ name, e.context.kindOf name ≠ .expression
  incoming : ∀ text, e.context.graph.incoming? text = graph.incoming? text

namespace Follows

theorem of_wiring (h : e.Follows graph) {later : Evaluator α} (sound : later.Sound)
    (keyed : later.context.Keyed) (same : later.context.wiring = e.context.wiring) :
    later.Follows graph :=
  ⟨sound, keyed, fun name => Context.kindOf_congr same name ▸ h.simple name,
    fun text => (Context.incoming?_congr same text).trans (h.incoming text)⟩

theorem reads (h : e.Follows graph) {text asked : String}
    (reads : e.context.graph.Reads text asked) : graph.Reads text asked := by
  cases reads with
  | driven found => exact .driven (h.incoming text ▸ found)
  | inside free split plain found =>
    exact .inside (h.incoming text ▸ free) split plain (h.incoming _ ▸ found)

/-- A query reports cycles at plugs that come to read themselves. -/
theorem cyclesAt_evaluate (h : e.Follows graph) (text : String) (frame : α) :
    CyclesAt (fun plug => TransGen graph.Reads plug plug)
      ((Query.evaluate text frame).run e).events := by
  have asks (text : String) :
      (e.context.reading frame text).AsksOnly (graph.Reads text) :=
    (e.context.asksOnly_reads h.keyed h.simple frame text).mono fun _ => h.reads
  rcases h.sound.evaluate_cases text frame with ⟨-, same⟩ | ⟨-, ⟨value, -, same⟩ |
    ⟨depth, value, later, visited, same⟩⟩
  · rw [same]
    exact .nil
  · rw [same]
    exact .nil
  · rw [same]
    exact Descent.traced_visit asks (by simp) .nil visited

theorem upholds_perform (graph : Graph) {operation : Operation α}
    (keepsNames : operation.KeepsNames) :
    operation.perform.Upholds (Follows graph)
      (CyclesAt fun plug => TransGen graph.Reads plug plug) := by
  apply operation.upholds_perform ⟨.nil, .append⟩
  case evaluate =>
    intro text frame e h
    exact ⟨h.of_wiring (h.sound.evaluate text frame) (keyed_evaluate h.keyed text frame)
      (wiring_evaluate text frame e), h.cyclesAt_evaluate text frame⟩
  case program => exact fun node _ h => h.of_wiring (h.sound.program node) h.keyed rfl
  case reset => exact fun _ h => h.of_wiring h.sound.reset h.keyed rfl
  case setNode =>
    rintro name node rfl e h
    obtain rfl : node.name = name := keepsNames
    exact h.of_wiring (h.sound.setNode node.name node) (h.keyed.setNode node) rfl
  case eraseNode =>
    exact fun name _ h => h.of_wiring (h.sound.eraseNode name) (h.keyed.eraseNode name) rfl

theorem cyclesAt_performAll (h : e.Follows graph) {session : List (Operation α)}
    (keepNames : ∀ operation ∈ session, operation.KeepsNames) :
    CyclesAt (fun plug => TransGen graph.Reads plug plug)
      ((Operation.performAll session).run e).events :=
  (Operation.upholds_performAll ⟨.nil, .append⟩
    (fun operation member => upholds_perform graph (keepNames operation member)) e h).2

end Follows

theorem follows_ofGraph (nodes : List Node) (connections : List Connection)
    (curves : List (String × CurveShape α)) (rotation : RotationBlend α)
    (simple : ∀ node ∈ (Graph.ofRecords nodes connections).nodes,
      Kind.ofType node.type ≠ .expression) :
    (ofGraph (.ofRecords nodes connections) curves rotation).Follows
      (.ofRecords nodes connections) where
  sound := sound_ofGraph nodes connections curves rotation
  keyed := keyed_ofGraph nodes connections curves rotation
  incoming _ := rfl
  simple := by
    intro name expression
    rw [Context.kindOf, Std.ExtTreeMap.getD_eq_getD_getElem?] at expression
    cases found : (Graph.ofRecords nodes connections).node? name with
    | none =>
      rw [kinds_ofGraph, found] at expression
      cases expression
    | some node =>
      rw [kinds_ofGraph, found] at expression
      exact simple node (Graph.mem_nodes_of_node? found) expression

/-- Without programs, and if normalizing leaves the ends of all connections as they are, each plug
at which a session reports a cycle is among the cyclic plugs of the graph. If the graph has none, no
session reports a cycle. Nodes may be replaced meanwhile by others of their names. -/
theorem cycles_mem_cyclicPlugs (nodes : List Node) (connections : List Connection)
    (curves : List (String × CurveShape α)) (rotation : RotationBlend α)
    (session : List (Operation α)) :
    let graph := Graph.ofRecords nodes connections
    let events := ((Operation.performAll session).run (ofGraph graph curves rotation)).events
    (∀ node ∈ graph.nodes, Kind.ofType node.type ≠ .expression) →
    (∀ c ∈ graph.connections,
      Plug.normalize c.source = c.source ∧ Plug.normalize c.target = c.target) →
    (∀ operation ∈ session, operation.KeepsNames) →
    (∀ d ∈ Event.diagnostics events, d.kind = .cycle → d.plug ∈ graph.cyclicPlugs) ∧
      (graph.cyclicPlugs = [] → ∀ d ∈ Event.diagnostics events, d.kind ≠ .cycle) := by
  intro graph events simple normal keepNames
  have follows := follows_ofGraph nodes connections curves rotation simple
  have cycles : CyclesAt (· ∈ graph.cyclicPlugs) events :=
    (follows.cyclesAt_performAll keepNames).mono fun plug => Graph.mem_cyclicPlugs normal
  refine ⟨cycles, fun none => cycles.acyclic fun plug member => ?_⟩
  rw [none] at member
  cases member

/-- A sum that takes itself in may be reported, a product of a sum may not. -/
theorem cycles_mem_cyclicPlugs_sum :
    let nodes : List Node := [⟨"sum", "addDoubleLinear", []⟩, ⟨"product", "multDoubleLinear", []⟩]
    let start (connections : List Connection) : Evaluator Float :=
      ofGraph (.ofRecords nodes connections) [] slerpEuler
    let session := [.evaluate "sum.output" 1, .reset, .evaluate "product.output" 2]
    let reports (connections : List Connection) :=
      Event.diagnostics ((Operation.performAll session).run (start connections)).events
    (∀ d ∈ reports [⟨"sum.output", "sum.input1", false⟩], d.kind = .cycle →
      d.plug ∈ ["sum.input1", "sum.output"]) ∧
    ∀ d ∈ reports [⟨"sum.output", "product.input1", false⟩], d.kind ≠ .cycle := by
  intro nodes start session reports
  have cyclic : (Graph.ofRecords nodes [⟨"sum.output", "sum.input1", false⟩]).cyclicPlugs =
      ["sum.input1", "sum.output"] := by
    decide +kernel
  have keepNames : ∀ operation ∈ session, operation.KeepsNames := by
    simp [session, Operation.KeepsNames]
  have first := cycles_mem_cyclicPlugs (α := Float) nodes [⟨"sum.output", "sum.input1", false⟩] []
    slerpEuler session (by decide +kernel) (by decide +kernel) keepNames
  have second := cycles_mem_cyclicPlugs (α := Float) nodes
    [⟨"sum.output", "product.input1", false⟩] [] slerpEuler session (by decide +kernel)
    (by decide +kernel) keepNames
  rw [cyclic] at first
  exact ⟨first.1, second.2 (by decide +kernel)⟩

end Evaluator

end PlugGraph
