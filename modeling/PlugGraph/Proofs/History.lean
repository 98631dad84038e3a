import Mathlib.Data.List.Chain
import PlugGraph.Number.Double
import PlugGraph.Proofs.Agreement
import PlugGraph.Proofs.Anchor

/-!
# The past of an evaluator does not matter

Besides the values for its anchor an evaluator keeps programs, the pairs reported last and its
vocabulary. Programs are those of their nodes as long as nobody replaces a node or asks for the
program of a node that is not in the graph, and what has been reported is forgotten when a walk sets
out. Evaluators of one scene are therefore *alike* when they know the same values for the same
anchor, and no operation can tell them apart: `Query.Blind`.

A reset makes every evaluator of a scene like a fresh one, and so does the first question at a frame
at which the anchor does not hold. Sampling over frames that are far enough from each other thus
gives for each frame what a fresh evaluator gives: `Evaluator.history_forgotten`.
-/

namespace PlugGraph

variable {α ω υ : Type}

/-- An operation that leaves the nodes of a graph alone, and asks for the programs of no others. -/
def Operation.KeepsTo (graph : Graph) : Operation α → Prop
  | setNode .. | eraseNode _ => False
  | program node => graph.node? node.name = some node
  | evaluate .. | resolve .. | interpret .. | reset => True

variable [Scalar α]

def Operation.performAll (session : List (Operation α)) : Query α (List (Reply α)) :=
  session.mapM perform

/-- Walks depend on the context only by its readings and the way it settles them. -/
theorem Context.Akin.step {graph : Graph} {c c' : Context α} (h : c.Akin graph c') (frame : α) :
    Walk.step c frame = Walk.step c' frame := by
  funext walk
  simp only [Walk.step, Walk.attempt, h.reading, h.settle]

namespace Evaluator

/-- Evaluators of one scene, whose nodes are those of a graph. -/
structure Akin (graph : Graph) (e e' : Evaluator α) : Prop where
  sound : e.Sound
  sound' : e'.Sound
  context : e.context.Akin graph e'.context

/-- Evaluators of one scene that know the same values for the same anchor. -/
structure Alike (graph : Graph) (e e' : Evaluator α) : Prop extends e.Akin graph e' where
  anchor : e.anchor = e'.anchor
  cache : e.cache = e'.cache

variable {graph : Graph} {e e' : Evaluator α}

namespace Akin

theorem symm (h : e.Akin graph e') : e'.Akin graph e := ⟨h.sound', h.sound, h.context.symm⟩

theorem atFrame (h : e.Akin graph e') (frame : α) : (e.atFrame frame).Akin graph e' := by
  refine ⟨h.sound.atFrame frame, h.sound', ?_⟩
  unfold Evaluator.atFrame
  split <;> exact h.context

/-- After a reset, evaluators of one scene are alike. -/
theorem alike_reset (h : e.Akin graph e') : e.reset.Alike graph e'.reset :=
  ⟨⟨h.sound.reset, h.sound'.reset, h.context⟩, rfl, rfl⟩

end Akin

namespace Alike

theorem atFrame (h : e.Alike graph e') (frame : α) :
    (e.atFrame frame).Alike graph (e'.atFrame frame) := by
  have akin := ((h.toAkin.atFrame frame).symm.atFrame frame).symm
  have same : e.holds frame = e'.holds frame := by rw [Evaluator.holds, Evaluator.holds, h.anchor]
  by_cases holds : e.holds frame = true
  · rwa [atFrame_of_holds holds, atFrame_of_holds (same ▸ holds)]
  · refine ⟨akin, ?_, ?_⟩ <;> simp only [Evaluator.atFrame, ← same, if_neg holds]

/-- Walks of evaluators that are alike take the same steps, and each has fuel to its end. -/
theorem walk (h : e.Alike graph e') {plug : String} (frame : α) (unknown : plug ∉ e.cache) :
    e.walk plug frame = e'.walk plug frame := by
  have done := h.sound.walk_done frame unknown
  have done' := h.sound'.walk_done frame (h.cache ▸ unknown)
  have start : e.setOut plug = e'.setOut plug := by
    rw [h.sound.setOut_eq, h.sound'.setOut_eq, h.cache]
  simp only [Evaluator.walk, Walk.run_eq_iterate, ← h.context.step, ← start] at done done' ⊢
  exact Walk.iterate_unique done done'

end Alike

end Evaluator

/-- Answers that agree in all that can be seen of them, and leave the same known. -/
structure Answer.Agrees (answer answer' : Answer α ω) : Prop where
  value : answer.value = answer'.value
  events : answer.events = answer'.events
  anchor : answer.evaluator.anchor = answer'.evaluator.anchor
  cache : answer.evaluator.cache = answer'.evaluator.cache

/-- A query that cannot tell evaluators apart that are alike. -/
structure Query.Blind (graph : Graph) (query : Query α ω) : Prop where
  akin : ∀ {e e' : Evaluator α}, e.Akin graph e' → (query.run e).evaluator.Akin graph e'
  agrees : ∀ {e e' : Evaluator α}, e.Alike graph e' → (query.run e).Agrees (query.run e')

namespace Query

variable {graph : Graph} {query : Query α ω} {frame : α}

theorem Blind.alike (h : query.Blind graph) {e e' : Evaluator α} (alike : e.Alike graph e') :
    (query.run e).evaluator.Alike graph (query.run e').evaluator :=
  ⟨(h.akin (h.akin alike.toAkin).symm).symm, (h.agrees alike).anchor, (h.agrees alike).cache⟩

theorem Blind.pure (value : ω) : Blind graph (Pure.pure value : Query α ω) :=
  ⟨id, fun h => ⟨rfl, rfl, h.anchor, h.cache⟩⟩

theorem Blind.bind (h : query.Blind graph) {next : ω → Query α υ}
    (hn : ∀ value, (next value).Blind graph) :
    (query >>= next).Blind graph := by
  refine ⟨fun akin => (hn _).akin (h.akin akin), fun {e e'} alike => ?_⟩
  have first := h.agrees alike
  have second := (hn (query.run e).value).agrees (h.alike alike)
  simp only [run_bind, ← first.value, ← first.events]
  exact { second with events := congrArg ((query.run e).events ++ ·) second.events }

theorem Blind.map (h : query.Blind graph) (f : ω → υ) : (f <$> query).Blind graph := by
  rw [← bind_pure_comp]
  exact h.bind fun value => .pure (f value)

theorem Blind.mapM {ι : Type} {items : List ι} {act : ι → Query α ω}
    (h : ∀ item ∈ items, (act item).Blind graph) : (items.mapM act).Blind graph := by
  induction items with
  | nil => exact .pure []
  | cons item rest ih =>
    obtain ⟨first, others⟩ := List.forall_mem_cons.mp h
    rw [List.mapM_cons]
    exact first.bind fun _ => (ih others).bind fun _ => .pure _

theorem blind_evaluate (text : String) (frame : α) : (evaluate text frame).Blind graph where
  akin := by
    intro e e' h
    refine ⟨h.sound.evaluate text frame, h.sound', ?_⟩
    rcases h.sound.evaluate_cases text frame with ⟨-, same⟩ | ⟨-, ⟨_, -, same⟩ |
      ⟨_, _, later, -, same⟩⟩ <;> rw [same]
    · exact h.context
    · exact (h.atFrame frame).context
    · exact (h.atFrame frame).context.foldr_keepProgramOf later.visited
  agrees := by
    intro e e' h
    have ready := h.atFrame frame
    simp only [run, evaluate]
    split
    · exact ⟨rfl, rfl, h.anchor, h.cache⟩
    · rw [← ready.cache]
      split
      · exact ⟨rfl, rfl, ready.anchor, ready.cache⟩
      · next unknown =>
        rw [← ready.walk frame (by simpa using unknown)]
        exact ⟨rfl, rfl, ready.anchor, rfl⟩

theorem blind_resolve (name : String) (frame : α) : (resolve name frame).Blind graph where
  akin := by
    intro e e' h
    simp only [run, resolve]
    split
    · exact (blind_evaluate _ frame).akin h
    · exact h
  agrees := by
    intro e e' h
    simp only [run, resolve, h.context.tokenPlug?]
    split
    · exact (blind_evaluate _ frame).agrees h
    · exact ⟨rfl, rfl, h.anchor, h.cache⟩

theorem blind_answer (frame : α) (d : Dialogue String (Option α) ω) :
    (answer frame d).Blind graph := by
  induction d with
  | done result => exact .pure result
  | ask name next ih =>
    rw [answer_ask]
    exact (blind_resolve name frame).bind fun value => ih (some value)

theorem blind_program {node : Node} (own : graph.node? node.name = some node) :
    (program (α := α) node).Blind graph where
  akin := by
    intro e e' h
    have found := (h.context.nodes node.name).trans own
    exact ⟨h.sound.program node, h.sound', h.context.keepProgram found⟩
  agrees := by
    intro e e' h
    have found := (h.context.nodes node.name).trans own
    have found' := (h.context.graph.node? node.name).symm.trans found
    have same : e.context.program node = e'.context.program node :=
      (h.context.faithful _ _ found).trans (h.context.faithful' _ _ found').symm
    exact ⟨same, rfl, h.anchor, h.cache⟩

theorem blind_reset : (modify (α := α) .reset).Blind graph where
  akin h := ⟨h.sound.reset, h.sound', h.context⟩
  agrees _ := ⟨rfl, rfl, rfl, rfl⟩

theorem blind_evaluateAll (plugs : List String) (frame : α) :
    (evaluateAll plugs frame).Blind graph :=
  .mapM fun plug _ => blind_evaluate plug frame

end Query

namespace Operation

variable {graph : Graph} {operation : Operation α} {session : List (Operation α)}

theorem KeepsTo.blind_perform (h : operation.KeepsTo graph) : operation.perform.Blind graph := by
  cases operation
  case evaluate text frame => exact (Query.blind_evaluate text frame).map _
  case resolve name frame => exact (Query.blind_resolve name frame).map _
  case interpret text frame locals => exact (Query.blind_answer frame _).map _
  case program node => exact (Query.blind_program h).map _
  case reset => exact Query.blind_reset.map _
  case setNode | eraseNode => cases h

theorem blind_performAll (h : ∀ operation ∈ session, operation.KeepsTo graph) :
    (performAll session).Blind graph :=
  .mapM fun operation member => (h operation member).blind_perform

theorem performAll_cons (operation : Operation α) (rest : List (Operation α)) :
    performAll (operation :: rest) =
      operation.perform >>= fun reply => (reply :: ·) <$> performAll rest := by
  simp only [performAll, List.mapM_cons, bind_pure_comp]

/-- The evaluator after a session. -/
theorem evaluator_performAll (session : List (Operation α)) (e : Evaluator α) :
    ((performAll session).run e).evaluator = e.after session := by
  induction session generalizing e with
  | nil => rfl
  | cons operation rest ih =>
    rw [performAll_cons, Query.run_bind]
    simp only [Query.run_map, ih]
    rfl

/-- What every operation upholds, a session upholds. -/
theorem upholds_performAll {p : Evaluator α → Prop} {q : List (Event α) → Prop}
    (closed : Event.Closed q) {session : List (Operation α)}
    (perform : ∀ operation ∈ session, operation.perform.Upholds p q) :
    (performAll session).Upholds p q := by
  induction session with
  | nil => exact fun e h => ⟨h, closed.nil⟩
  | cons operation rest ih =>
    obtain ⟨first, others⟩ := List.forall_mem_cons.mp perform
    intro e h
    rw [performAll_cons, Query.run_bind]
    simp only [Query.run_map]
    obtain ⟨later, events⟩ := first e h
    obtain ⟨latest, events'⟩ := ih others _ later
    exact ⟨latest, closed.append events events'⟩

/-- The replies and events of a session are those after a reset, unless the first operation that
asks for a plug does so at a frame at which the anchor holds. -/
theorem performAll_forgets {e : Evaluator α}
    (away : ∀ frame, session.findSome? frame? = some frame → e.holds frame = false) :
    ((performAll session).run e).value = ((performAll session).run e.reset).value ∧
      ((performAll session).run e).events = ((performAll session).run e.reset).events := by
  induction session generalizing e with
  | nil => exact ⟨rfl, rfl⟩
  | cons operation rest ih =>
    simp only [performAll_cons, Query.run_bind, Query.run_map]
    cases asks : operation.frame? with
    | some frame =>
      have holds : e.holds frame = false := away frame (by rw [List.findSome?_cons, asks])
      rw [(turns_perform asks).forgets holds]
      exact ⟨rfl, rfl⟩
    | none =>
      by_cases noReset : operation = .reset
      · subst noReset
        exact ⟨rfl, rfl⟩
      · have quiet := quiet_perform asks noReset
        have still : ∀ frame, rest.findSome? frame? = some frame →
            (operation.perform.run e).evaluator.holds frame = false := by
          intro frame found
          rw [Evaluator.holds, quiet.anchor]
          exact away frame (by rwa [List.findSome?_cons, asks])
        obtain ⟨values, events⟩ := ih still
        rw [quiet.reset e]
        exact ⟨congrArg _ values, congrArg _ events⟩

end Operation

namespace Query

variable {e : Evaluator α} {plugs : List String} {frame : α}

theorem length_evaluateAll (plugs : List String) (frame : α) (e : Evaluator α) :
    ((evaluateAll plugs frame).run e).value.length = plugs.length := by
  induction plugs generalizing e with
  | nil => rfl
  | cons plug rest ih =>
    simp only [evaluateAll_cons, run_bind, run_map, List.length_cons, ih]

theorem evaluateAll_of_blank (blank : ∀ plug ∈ plugs, Text.isBlankText plug = true) (frame : α) :
    evaluateAll plugs frame = pure (plugs.map fun _ => 0) := by
  induction plugs with
  | nil => rfl
  | cons plug rest ih =>
    obtain ⟨first, others⟩ := List.forall_mem_cons.mp blank
    rw [evaluateAll_cons, evaluate_of_blank first, pure_bind, ih others]
    rfl

theorem turns_evaluateAll (asks : ∃ plug ∈ plugs, Text.isBlankText plug = false) (frame : α) :
    (evaluateAll plugs frame).Turns frame := by
  induction plugs with
  | nil => simp at asks
  | cons plug rest ih =>
    rw [evaluateAll_cons]
    cases blank : Text.isBlankText plug with
    | false => exact (turns_evaluate blank).bind _
    | true =>
      rw [evaluate_of_blank blank, pure_bind]
      exact (ih (by simpa [blank] using asks)).map _

end Query

namespace Evaluator

variable {e fresh : Evaluator α} {plugs : List String} {frame : α} {frames : List α}

namespace Sound

/-- Questions for several plugs move the anchor once at most, like one question. -/
theorem anchor_evaluateAll (h : e.Sound) (asks : ∃ plug ∈ plugs, Text.isBlankText plug = false)
    (frame : α) :
    ((Query.evaluateAll plugs frame).run e).evaluator.anchor = (e.atFrame frame).anchor := by
  induction plugs generalizing e with
  | nil => simp at asks
  | cons plug rest ih =>
    simp only [Query.evaluateAll_cons, Query.run_bind, Query.run_map]
    cases blank : Text.isBlankText plug with
    | true =>
      rw [Query.evaluate_of_blank blank]
      exact ih h (by simpa [blank] using asks)
    | false =>
      have first := (h.keeps_evaluate blank frame).anchor
      by_cases more : ∃ plug ∈ rest, Text.isBlankText plug = false
      · exact (ih (h.evaluate plug frame) more).trans (anchor_atFrame_of_eq first)
      · rw [Query.evaluateAll_of_blank (by simpa using more)]
        exact first

end Sound

/-- Rows at frames that are apart from each other are those that a fresh evaluator gives. -/
theorem Akin.rows (h : e.Akin graph fresh) (unused : fresh.reset = fresh)
    (asks : ∃ plug ∈ plugs, Text.isBlankText plug = false)
    (away : ∀ frame ∈ frames.head?, e.holds frame = false)
    (apart : frames.IsChain fun before frame => Scalar.approximately before frame = false) :
    ((frames.mapM (Query.evaluateAll plugs)).run e).value =
      frames.map fun frame => ((Query.evaluateAll plugs frame).run fresh).value := by
  induction frames generalizing e with
  | nil => rfl
  | cons frame rest ih =>
    have holds : e.holds frame = false := away frame rfl
    have blind : (Query.evaluateAll plugs frame).Blind graph :=
      Query.blind_evaluateAll plugs frame
    have row : ((Query.evaluateAll plugs frame).run e).value =
        ((Query.evaluateAll plugs frame).run fresh).value := by
      rw [(Query.turns_evaluateAll asks frame).forgets holds,
        (blind.agrees h.alike_reset).value, unused]
    have anchor : ((Query.evaluateAll plugs frame).run e).evaluator.anchor = some frame := by
      rw [h.sound.anchor_evaluateAll asks, anchor_atFrame, holds]
      rfl
    obtain ⟨near, apart⟩ := List.isChain_cons.mp apart
    simp only [List.mapM_cons, Query.run_bind, Query.run_pure, List.map_cons, row]
    refine congrArg _ (ih (blind.akin h) (fun next member => ?_) apart)
    rw [Evaluator.holds, anchor]
    exact near next member

/-- Samples at frames that are apart from each other hold what a fresh evaluator gives. -/
theorem Akin.sample (h : e.Akin graph fresh) (unused : fresh.reset = fresh) (idle : e.anchor = none)
    {first last step : α} (range : frameRange first last step = .ok frames)
    (apart : frames.IsChain fun before frame => Scalar.approximately before frame = false) :
    ∃ series : List (String × List α),
      ((Query.sample plugs first last step).run e).value = .ok ⟨frames, series⟩ ∧
      series.map Prod.fst = plugs.eraseDups ∧
      ∀ (i : Nat) plug values, series[i]? = some (plug, values) →
        values.map some = frames.map fun frame =>
          ((Query.evaluateAll plugs.eraseDups frame).run fresh).value[i]? := by
  let row (frame : α) := ((Query.evaluateAll plugs.eraseDups frame).run fresh).value
  have rows : ((frames.mapM (Query.evaluateAll plugs.eraseDups)).run e).value = frames.map row := by
    by_cases asks : ∃ plug ∈ plugs.eraseDups, Text.isBlankText plug = false
    · refine h.rows unused asks (fun frame _ => ?_) apart
      rw [Evaluator.holds, idle]
      rfl
    · have zeros : Query.evaluateAll (α := α) plugs.eraseDups =
          fun _ => pure (plugs.eraseDups.map fun _ => 0) :=
        funext (Query.evaluateAll_of_blank (by simpa using asks))
      simp only [row, zeros, List.mapM_pure, Query.run_pure]
  refine ⟨plugs.eraseDups.zipIdx.map fun entry => (entry.1, frames.map fun frame =>
    (row frame).getD entry.2 0), ?_, ?_, fun i plug values found => ?_⟩
  · simp only [Query.sample, range, Query.run_map, Query.sampleAt, Query.run_bind, Query.run_pure,
      rows, List.map_map, Function.comp_def]
  · simp [Function.comp_def]
  · simp only [List.getElem?_map, List.getElem?_zipIdx, Option.map_eq_some_iff] at found
    obtain ⟨_, ⟨asked, listed, rfl⟩, same⟩ := found
    obtain ⟨rfl, rfl⟩ := Prod.mk.inj same
    rw [List.map_map]
    refine List.map_congr_left fun frame _ => ?_
    have short : i < (row frame).length := by
      rw [Query.length_evaluateAll]
      exact (List.getElem?_eq_some_iff.mp listed).1
    simp [row, List.getD_eq_getElem?_getD, List.getElem?_eq_getElem short]

/-- A session gives the same replies and lets the same events be seen on two evaluators. -/
def SameReplies (session : List (Operation α)) (e e' : Evaluator α) : Prop :=
  ((Operation.performAll session).run e).value = ((Operation.performAll session).run e').value ∧
    ((Operation.performAll session).run e).events = ((Operation.performAll session).run e').events

/-- A session that leaves the nodes alone does not change the scene. -/
theorem Akin.after (h : e.Akin graph fresh) {session : List (Operation α)}
    (unmodified : ∀ operation ∈ session, operation.KeepsTo graph) :
    (e.after session).Akin graph fresh := by
  rw [← Operation.evaluator_performAll]
  exact (Operation.blind_performAll unmodified).akin h

theorem akin_ofGraph (nodes : List Node) (connections : List Connection)
    (curves : List (String × CurveShape α)) (rotation : RotationBlend α) :
    let fresh := ofGraph (.ofRecords nodes connections) curves rotation
    fresh.Akin (.ofRecords nodes connections) fresh := by
  intro fresh
  have sound : fresh.Sound := sound_ofGraph nodes connections curves rotation
  have keyed : fresh.context.Keyed := keyed_ofGraph nodes connections curves rotation
  have faithful : fresh.context.Faithful := fresh.context.bare_faithful
  exact ⟨sound, sound, ⟨keyed, fun _ => rfl, faithful, faithful, .refl _, rfl, rfl, rfl⟩⟩

/-- A reset erases what has happened to an evaluator. So does the first operation that asks for a
plug, if it does so at a frame at which the anchor does not hold: what follows cannot be told from
what it would be on a fresh evaluator. Samples at frames that are apart from each other hold, for
each frame, what a fresh evaluator gives. All this as long as the nodes of the graph stay as they
are and nobody asks for the program of another node. -/
theorem history_forgotten (nodes : List Node) (connections : List Connection)
    (curves : List (String × CurveShape α)) (rotation : RotationBlend α)
    (earlier : List (Operation α))
    (unmodified : ∀ operation ∈ earlier, operation.KeepsTo (.ofRecords nodes connections)) :
    let graph := Graph.ofRecords nodes connections
    let fresh := ofGraph graph curves rotation
    let e := fresh.after earlier
    (∀ following : List (Operation α), (∀ operation ∈ following, operation.KeepsTo graph) →
      SameReplies following e.reset fresh ∧
        ((∀ frame, following.findSome? Operation.frame? = some frame → e.holds frame = false) →
          SameReplies following e fresh)) ∧
    ∀ start, start = fresh ∨ start = e.reset → ∀ plugs first last step frames,
      frameRange first last step = .ok frames →
      frames.IsChain (fun before frame => Scalar.approximately before frame = false) →
      ∃ series : List (String × List α),
        ((Query.sample plugs first last step).run start).value = .ok ⟨frames, series⟩ ∧
        series.map Prod.fst = plugs.eraseDups ∧
        ∀ (i : Nat) plug values, series[i]? = some (plug, values) →
          values.map some = frames.map fun frame =>
            ((Query.evaluateAll plugs.eraseDups frame).run fresh).value[i]? := by
  intro graph fresh e
  have self : fresh.Akin graph fresh := akin_ofGraph nodes connections curves rotation
  have akin : e.Akin graph fresh := self.after unmodified
  have renewed : e.reset.Alike graph fresh := akin.alike_reset
  refine ⟨fun following unmodified => ?_, ?_⟩
  · have agrees := (Operation.blind_performAll unmodified).agrees renewed
    refine ⟨⟨agrees.value, agrees.events⟩, fun away => ?_⟩
    obtain ⟨values, events⟩ := Operation.performAll_forgets away
    exact ⟨values.trans agrees.value, events.trans agrees.events⟩
  · rintro start (rfl | rfl) plugs first last step frames range apart
    · exact self.sample rfl rfl range apart
    · exact renewed.toAkin.sample rfl rfl range apart

/-- Two plugs that drive each other and an expression that reads one of them. Its program is kept,
and then a frame is left at which a plug has been queried. -/
theorem history_forgotten_cycle :
    let node : Node := ⟨"n", "expression", [⟨"ixp", ["c.y = b.x + time;"]⟩]⟩
    let connections : List Connection := [⟨"a.x", "b.x", false⟩, ⟨"b.x", "a.x", false⟩]
    let fresh : Evaluator Float := ofGraph (.ofRecords [node] connections) [] slerpEuler
    let e := fresh.after [.program node, .evaluate "a.x" 1]
    let following := [.evaluate "n.output[0]" 5, .program node, .resolve "a.x" 5]
    fresh.context.programs.size = 0 ∧ (fresh.after [.program node]).context.programs.size = 1 ∧
      e.holds 5 = false ∧ SameReplies following e.reset fresh ∧ SameReplies following e fresh ∧
      ∃ frames series, frames.length = 2 ∧
        ((Query.sample ["n.output[0]", "a.x", "n.output[0]"] 1 2 1).run e.reset).value =
          .ok ⟨frames, series⟩ ∧
        series.map Prod.fst = ["n.output[0]", "a.x"] := by
  intro node connections fresh e following
  have own : (Graph.ofRecords [node] connections).node? node.name = some node := by decide +kernel
  have forgotten := history_forgotten [node] connections [] slerpEuler
    [.program node, .evaluate "a.x" (1 : Float)] (by simp [Operation.KeepsTo, own])
  have away : e.holds 5 = false := by decide +kernel
  have range : frameRange (1 : Float) 2 1 = .ok [1 + Scalar.ofInt 0 * 1, 1 + Scalar.ofInt 1 * 1] :=
    rfl
  obtain ⟨afterReset, afterTurn⟩ :=
    forgotten.1 following (by simp [following, Operation.KeepsTo, own])
  refine ⟨by decide +kernel, by decide +kernel, away, afterReset, afterTurn fun frame first => ?_,
    ?_⟩
  · obtain rfl : 5 = frame := Option.some.inj first
    exact away
  · obtain ⟨series, sampled, plugs, -⟩ := forgotten.2 e.reset (.inr rfl)
      ["n.output[0]", "a.x", "n.output[0]"] 1 2 1 _ range (by decide +kernel)
    exact ⟨_, series, rfl, sampled, plugs.trans (by decide)⟩

/-- A query for a blank text asks for no plug. Although its frame is one at which the anchor does
not hold, the query after it finds the value of its plug known and reports nothing, unlike the same
query on a fresh evaluator. And if the program of a record that the graph has dropped is asked for,
a reset does not bring back that of the node of its name. -/
theorem blank_query_keeps_history :
    (let fresh : Evaluator Float :=
      ofGraph (.ofRecords [⟨"a", "transform", [⟨"x", ["1"]⟩]⟩] []) [] slerpEuler
    let e := fresh.after [.evaluate "a.x" 1]
    let following := [.evaluate "" 5, .evaluate "a.x" 1]
    e.holds 5 = false ∧ ((Operation.performAll following).run e).events = [] ∧
      ((Operation.performAll following).run fresh).events ≠ []) ∧
    let node : Node := ⟨"n", "expression", [⟨"ixp", ["x.y = 1;"]⟩]⟩
    let dropped : Node := ⟨"n", "expression", [⟨"ixp", ["x.y = 2;"]⟩]⟩
    let fresh : Evaluator Float := ofGraph (.ofRecords [node, dropped] []) [] slerpEuler
    let e := (fresh.after [.program dropped]).reset
    ((Query.evaluate "n.output[0]" 1).run e).value == 2 ∧
      ((Query.evaluate "n.output[0]" 1).run fresh).value == 1 := by
  decide +kernel

end Evaluator

end PlugGraph
