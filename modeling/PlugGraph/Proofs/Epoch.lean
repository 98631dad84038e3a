import PlugGraph.Proofs.History
import PlugGraph.Proofs.Reports

/-!
# Nothing is reported twice

An *epoch* is a session without a reset all of whose questions are asked near one anchor, the frame
that the known values belong to. Within an epoch known values are never lost. A plug that has made a
report in one walk has its value afterwards, so that no later walk reads or settles it again, and
forgetting which pairs have been reported when a walk sets out does no harm.

`Evaluator.reports` takes down what a session reports, each time with the plug that was being
computed. `Evaluator.reported_once` says that within an epoch none of it is repeated, however often
readings are attempted and however much the questions have in common.
-/

namespace PlugGraph

open Std (ExtTreeMap)

variable {α ω : Type}

/-! ### Taking down what a session reports -/

namespace Query

variable [Scalar α]

/-- What a query for a plug reports. -/
def evaluateReports (text : String) (frame : α) (e : Evaluator α) : List Report :=
  if Text.isBlankText text then []
  else
    let e := e.atFrame frame
    let plug := Plug.normalize text
    if plug ∈ e.cache then [] else Walk.reports e.context frame e.stepLimit (e.setOut plug)

theorem evaluateReports_of_blank {text : String} (blank : Text.isBlankText text = true) (frame : α)
    (e : Evaluator α) : evaluateReports text frame e = [] :=
  if_pos blank

theorem evaluateReports_of_mem {text : String} {frame : α} {e : Evaluator α}
    (known : Plug.normalize text ∈ (e.atFrame frame).cache) :
    evaluateReports text frame e = [] := by
  simp only [evaluateReports, known, if_true, ite_self]

theorem evaluateReports_of_not_mem {text : String} {frame : α} {e : Evaluator α}
    (notBlank : Text.isBlankText text = false)
    (unknown : Plug.normalize text ∉ (e.atFrame frame).cache) :
    evaluateReports text frame e =
      Walk.reports (e.atFrame frame).context frame (e.atFrame frame).stepLimit
        ((e.atFrame frame).setOut (Plug.normalize text)) := by
  simp only [evaluateReports, notBlank, Bool.false_eq_true, if_false, unknown]

def resolveReports (name : String) (frame : α) (e : Evaluator α) : List Report :=
  match e.context.tokenPlug? name with
  | some plug => evaluateReports plug frame e
  | none => []

def answerReports (frame : α) : Dialogue String (Option α) ω → Evaluator α → List Report
  | .done _, _ => []
  | .ask name next, e =>
    let first := (resolve name frame).run e
    resolveReports name frame e ++ answerReports frame (next (some first.value)) first.evaluator

end Query

def Operation.reports [Scalar α] : Operation α → Evaluator α → List Report
  | evaluate text frame, e => Query.evaluateReports text frame e
  | resolve name frame, e => Query.resolveReports name frame e
  | interpret text frame locals, e => Query.answerReports frame (Expr.evaluate frame locals text) e
  | program _, _ | reset, _ | setNode .., _ | eraseNode _, _ => []

def Evaluator.reports [Scalar α] : List (Operation α) → Evaluator α → List Report
  | [], _ => []
  | operation :: rest, e => operation.reports e ++ reports rest (operation.perform.run e).evaluator

theorem Event.diagnostics_append (events later : List (Event α)) :
    diagnostics (events ++ later) = diagnostics events ++ diagnostics later :=
  List.filterMap_append

/-! ### Reports between two stages of knowledge -/

/-- Reports taken down while the known values have grown from `before` to `after`. -/
structure Report.Between (before after : ExtTreeMap String α) (log : List Report) : Prop where
  grows : ∀ plug, plug ∈ before → plug ∈ after
  fresh : ∀ r ∈ log, r.reader ∉ before
  known : ∀ r ∈ log, r.reader ∈ after
  own : ∀ r ∈ log, r.diagnostic.kind ≠ .cycle → r.diagnostic.plug = r.reader
  nodup : (log.map Report.key).Nodup

namespace Report.Between

variable {before between after : ExtTreeMap String α} {log later : List Report}

theorem nothing (grows : ∀ plug, plug ∈ before → plug ∈ after) : Between before after [] :=
  ⟨grows, List.forall_mem_nil _, List.forall_mem_nil _, List.forall_mem_nil _, List.nodup_nil⟩

theorem append (h : Between before between log) (h' : Between between after later) :
    Between before after (log ++ later) where
  grows plug known := h'.grows plug (h.grows plug known)
  fresh := List.forall_mem_append.mpr
    ⟨h.fresh, fun r member known => h'.fresh r member (h.grows _ known)⟩
  known := List.forall_mem_append.mpr ⟨fun r member => h'.grows _ (h.known r member), h'.known⟩
  own := List.forall_mem_append.mpr ⟨h.own, h'.own⟩
  nodup := by
    refine Report.nodup_append h.nodup h'.nodup fun r member r' member' same => ?_
    -- The reader of the first report is known in between, that of the second one is not.
    have reader : r'.reader = r.reader := congrArg (·.1) same
    exact h'.fresh r' member' (reader ▸ h.known r member)

/-- A plug makes a report of a kind about itself once. -/
theorem countP_le_one (h : Between before after log) (plug : String) {kind : DiagnosticKind}
    (regular : kind ≠ .cycle) :
    (log.map Report.diagnostic).countP (fun d => d.plug = plug ∧ d.kind = kind) ≤ 1 := by
  have same : ∀ r ∈ log,
      decide (r.diagnostic.plug = plug ∧ r.diagnostic.kind = kind) = true ↔
        (r.key == (plug, plug, kind)) = true := by
    intro r member
    simp only [decide_eq_true_eq, beq_iff_eq, Report.key, Prod.mk.injEq]
    constructor
    · rintro ⟨about, is⟩
      exact ⟨(h.own r member (is ▸ regular)).symm.trans about, about, is⟩
    · rintro ⟨-, about, is⟩
      exact ⟨about, is⟩
  rw [List.countP_map, Function.comp_def, List.countP_congr same]
  have once := List.nodup_iff_count_le_one.mp h.nodup (plug, plug, kind)
  rwa [List.count, List.countP_map] at once

/-- A plug reports that it reads a plug under way once. -/
theorem count_cycle_le_one (h : Between before after log) (reader plug : String) :
    log.count (.cycle reader plug) ≤ 1 :=
  List.nodup_iff_count_le_one.mp (.of_map _ h.nodup) _

end Report.Between

/-- The reports of a walk that is done. -/
theorem Logged.between {before cache : ExtTreeMap String α}
    {reported : Std.ExtHashSet (String × String)} {log : List Report}
    (h : Logged before cache [] reported log) : Report.Between before cache log where
  grows := h.grows
  fresh := h.fresh
  known r member := (h.met r member).resolve_left List.not_mem_nil
  own r member regular := (h.settled r member regular).1
  nodup := h.nodup

theorem Evaluator.Keeps.grows {e later : Evaluator α} (h : e.Keeps later) (plug : String)
    (known : plug ∈ e.cache) : plug ∈ later.cache := by
  rw [ExtTreeMap.mem_iff_isSome_getElem?] at known ⊢
  obtain ⟨value, found⟩ := Option.isSome_iff_exists.mp known
  rw [h.known found]
  rfl

variable [Scalar α]

/-! ### What is taken down is what is reported -/

namespace Query

theorem diagnostics_evaluate (text : String) (frame : α) (e : Evaluator α) :
    (evaluateReports text frame e).map Report.diagnostic =
      Event.diagnostics ((evaluate text frame).run e).events := by
  rcases evaluate_cases text frame e with ⟨blank, same⟩ | ⟨notBlank, ⟨_, known, same⟩ |
    ⟨unknown, same⟩⟩ <;> rw [same]
  · rw [evaluateReports_of_blank blank]
    rfl
  · rw [evaluateReports_of_mem (ExtTreeMap.mem_iff_isSome_getElem?.mpr (by rw [known]; rfl))]
    rfl
  · rw [evaluateReports_of_not_mem notBlank unknown]
    simp only [Evaluator.walk, Walk.diagnostics_run]
    rfl

theorem diagnostics_resolve (name : String) (frame : α) (e : Evaluator α) :
    (resolveReports name frame e).map Report.diagnostic =
      Event.diagnostics ((resolve name frame).run e).events := by
  cases denotes : e.context.tokenPlug? name with
  | some plug =>
    simp only [run, resolve, resolveReports, denotes]
    exact diagnostics_evaluate plug frame e
  | none =>
    simp only [run, resolve, resolveReports, denotes]
    rfl

theorem diagnostics_answer (frame : α) (d : Dialogue String (Option α) ω) (e : Evaluator α) :
    (answerReports frame d e).map Report.diagnostic =
      Event.diagnostics ((answer frame d).run e).events := by
  induction d generalizing e with
  | done => rfl
  | ask name next ih =>
    rw [run_answer_ask, answerReports, List.map_append, Event.diagnostics_append]
    rw [diagnostics_resolve, ih]

end Query

theorem Operation.diagnostics_perform (operation : Operation α) (e : Evaluator α) :
    (operation.reports e).map Report.diagnostic =
      Event.diagnostics (operation.perform.run e).events := by
  cases operation <;> simp only [Operation.reports, Operation.perform, Query.run_map]
  case evaluate text frame => exact Query.diagnostics_evaluate text frame e
  case resolve name frame => exact Query.diagnostics_resolve name frame e
  case interpret text frame locals => exact Query.diagnostics_answer frame _ e
  all_goals rfl

theorem Evaluator.diagnostics_reports (session : List (Operation α)) (e : Evaluator α) :
    (reports session e).map Report.diagnostic =
      Event.diagnostics ((Operation.performAll session).run e).events := by
  induction session generalizing e with
  | nil => rfl
  | cons operation rest ih =>
    simp only [reports, List.map_append, operation.diagnostics_perform, ih, Query.run_bind,
      Operation.performAll_cons, Query.run_map, Event.diagnostics_append]

/-! ### Turning to a frame first -/

namespace Query

variable {frame : α} {text name : String}

theorem evaluateReports_atFrame (text : String) (frame : α) (e : Evaluator α) :
    evaluateReports text frame (e.atFrame frame) = evaluateReports text frame e := by
  simp only [evaluateReports, Evaluator.atFrame_atFrame]

theorem resolveReports_atFrame (name : String) (frame : α) (e : Evaluator α) :
    resolveReports name frame (e.atFrame frame) = resolveReports name frame e := by
  simp only [resolveReports, Evaluator.atFrame_context, evaluateReports_atFrame]

theorem resolveReports_of_nameless (nameless : (Plug.ofPath? name).isSome = false) (frame : α)
    (e : Evaluator α) : resolveReports name frame e = [] := by
  rw [← Context.isSome_tokenPlug? e.context, Option.isSome_eq_false_iff,
    Option.isNone_iff_eq_none] at nameless
  simp only [resolveReports, nameless]

theorem answerReports_of_silent {d : Dialogue String (Option α) ω}
    (silent : asksForPlug d = false) (frame : α) (e : Evaluator α) :
    answerReports frame d e = [] := by
  induction d with
  | done => rfl
  | ask name next ih =>
    obtain ⟨nameless, silent⟩ := Bool.or_eq_false_iff.mp silent
    rw [answerReports, resolveReports_of_nameless nameless, resolve_of_nameless nameless]
    exact ih (some 0) silent

theorem answerReports_atFrame {d : Dialogue String (Option α) ω} (asks : asksForPlug d = true)
    (frame : α) (e : Evaluator α) :
    answerReports frame d (e.atFrame frame) = answerReports frame d e := by
  induction d with
  | done => cases asks
  | ask name next ih =>
    simp only [answerReports, resolveReports_atFrame]
    cases named : (Plug.ofPath? name).isSome with
    | true => rw [← turns_resolve named e]
    | false =>
      rw [resolve_of_nameless named]
      exact congrArg _ (ih (some 0) (by simpa [asksForPlug, named] using asks))

end Query

namespace Operation

variable {operation : Operation α} {frame : α}

theorem reports_of_silent (silent : operation.frame? = none) (e : Evaluator α) :
    operation.reports e = [] := by
  cases operation <;> simp only [frame?, ite_eq_left_iff, ite_eq_right_iff, reduceCtorEq, imp_false,
    Bool.not_eq_true, Bool.not_eq_false] at silent
  case evaluate text frame => exact if_pos silent
  case resolve name frame => exact Query.resolveReports_of_nameless silent frame e
  case interpret text frame locals => exact Query.answerReports_of_silent silent frame e
  all_goals rfl

theorem reports_atFrame (asks : operation.frame? = some frame) (e : Evaluator α) :
    operation.reports (e.atFrame frame) = operation.reports e := by
  rcases frame?_cases asks with ⟨text, rfl, -⟩ | ⟨name, rfl, -⟩ |
    ⟨text, locals, rfl, refers⟩
  · exact Query.evaluateReports_atFrame text frame e
  · exact Query.resolveReports_atFrame name frame e
  · exact Query.answerReports_atFrame refers frame e

end Operation

/-- A relation between what is known before, what is known after and the reports in between. It
holds where nothing happens, of one part after another, and of every query at a frame at which the
anchor holds, asked of an evaluator with a property that operations keep. -/
structure Report.Chain (p : Evaluator α → Prop)
    (r : ExtTreeMap String α → ExtTreeMap String α → List Report → Prop) : Prop where
  sound : ∀ {e}, p e → e.Sound
  perform : ∀ (operation : Operation α) {e}, p e → p (operation.perform.run e).evaluator
  atFrame : ∀ (frame : α) {e}, p e → p (e.atFrame frame)
  nothing : ∀ known, r known known []
  append : ∀ {before between after log later}, r before between log → r between after later →
    r before after (log ++ later)
  evaluate : ∀ {text frame e}, p e → Text.isBlankText text = false → e.holds frame = true →
    r e.cache ((Query.evaluate text frame).run e).evaluator.cache
      (Query.evaluateReports text frame e)

namespace Report.Chain

variable {p : Evaluator α → Prop}
  {r : ExtTreeMap String α → ExtTreeMap String α → List Report → Prop}
  {e : Evaluator α} {frame : α} {operation : Operation α} {session : List (Operation α)}

theorem after (h : Chain p r) (start : p e) (session : List (Operation α)) : p (e.after session) :=
  Evaluator.after_induction (p := p) (fun operation _ => h.perform operation) start session

theorem of_resolve (h : Chain p r) (start : p e) (name : String)
    (holds : (Plug.ofPath? name).isSome = true → e.holds frame = true) :
    r e.cache ((Query.resolve name frame).run e).evaluator.cache
      (Query.resolveReports name frame e) := by
  cases named : (Plug.ofPath? name).isSome with
  | false =>
    rw [Query.resolve_of_nameless named, Query.resolveReports_of_nameless named]
    exact h.nothing e.cache
  | true =>
    obtain ⟨plug, notBlank, denotes, same⟩ := Query.exists_resolve_eq named frame e
    simp only [same, Query.resolveReports, denotes]
    exact h.evaluate start notBlank (holds named)

theorem of_answer (h : Chain p r) (start : p e) {d : Dialogue String (Option α) ω}
    (holds : e.holds frame = true) :
    r e.cache ((Query.answer frame d).run e).evaluator.cache (Query.answerReports frame d e) := by
  induction d generalizing e with
  | done => exact h.nothing e.cache
  | ask name next ih =>
    rw [Query.run_answer_ask, Query.answerReports]
    have keeps := (h.sound start).keeps_resolve name fun _ => holds
    have resolved := h.perform (.resolve name frame) start
    simp only [Operation.perform, Query.run_map] at resolved
    exact h.append (h.of_resolve start name fun _ => holds)
      (ih _ resolved ((keeps.holds frame).trans holds))

theorem of_perform (h : Chain p r) (start : p e) (stays : operation.Stays e) :
    r e.cache (operation.perform.run e).evaluator.cache (operation.reports e) := by
  obtain ⟨noReset, holds⟩ := stays
  cases asks : operation.frame? with
  | none =>
    rw [Operation.reports_of_silent asks, (Operation.quiet_perform asks noReset).cache e]
    exact h.nothing e.cache
  | some frame =>
    have current := holds frame asks
    rcases Operation.frame?_cases asks with ⟨text, rfl, notBlank⟩ | ⟨name, rfl, -⟩ |
      ⟨text, locals, rfl, -⟩ <;> simp only [Operation.perform, Query.run_map]
    · exact h.evaluate start notBlank current
    · exact h.of_resolve start name fun _ => current
    · exact h.of_answer start current

/-- What holds of one operation after another holds of a session. -/
theorem of_session (h : Chain p r) (start : p e)
    (stays : ∀ operation ∈ session, operation.Stays e) :
    r e.cache (e.after session).cache (Evaluator.reports session e) := by
  induction session generalizing e with
  | nil => exact h.nothing e.cache
  | cons operation rest ih =>
    obtain ⟨first, others⟩ := List.forall_mem_cons.mp stays
    have keeps := (h.sound start).keeps_perform first
    exact h.append (h.of_perform start first) (ih (h.perform operation start) fun other member =>
      keeps.stays (others other member))

end Report.Chain

namespace Evaluator

variable {e : Evaluator α} {text name : String} {frame anchor : α} {operation : Operation α}
  {session : List (Operation α)}

open Report in
theorem Sound.between_evaluate (h : e.Sound) (notBlank : Text.isBlankText text = false)
    (holds : e.holds frame = true) :
    Between e.cache ((Query.evaluate text frame).run e).evaluator.cache
      (Query.evaluateReports text frame e) := by
  by_cases known : Plug.normalize text ∈ (e.atFrame frame).cache
  · have keeps := h.keeps_evaluate notBlank frame
    rw [atFrame_of_holds holds] at keeps
    rw [Query.evaluateReports_of_mem known]
    exact .nothing keeps.grows
  · rw [Query.evaluateReports_of_not_mem notBlank known, Query.evaluate_unknown notBlank known]
    rw [atFrame_of_holds holds] at known ⊢
    have start := Logged.start e.cache (e.setOut (Plug.normalize text)).stack ∅
    have logged := start.run (h.setOut known) (h.asksOnly _ frame) e.stepLimit
    have done := h.walk_done frame known
    rw [Evaluator.walk] at done
    rw [done] at logged
    exact logged.between

theorem chain_between : Report.Chain (Sound (α := α)) Report.Between where
  sound := id
  perform operation _ h := h.perform operation
  atFrame frame _ h := h.atFrame frame
  nothing _ := .nothing fun _ => id
  append := .append
  evaluate h notBlank holds := h.between_evaluate notBlank holds

/-! ### Epochs -/

/-- A session without a reset all of whose questions are asked near an anchor. The anchor is the
frame that the values belong to from the first question on, be it that they do so already or that
the question moves it there. -/
structure Epoch (e : Evaluator α) (anchor : α) (session : List (Operation α)) : Prop where
  noReset : ∀ operation ∈ session, operation ≠ .reset
  near : ∀ operation ∈ session, ∀ frame, operation.frame? = some frame →
    Scalar.approximately anchor frame = true
  anchored : ∀ frame, session.findSome? Operation.frame? = some frame →
    (e.atFrame frame).anchor = some anchor

theorem Epoch.stays (h : e.Epoch anchor session) (anchored : e.anchor = some anchor) :
    ∀ operation ∈ session, operation.Stays e := by
  intro operation member
  refine ⟨h.noReset operation member, fun frame asks => ?_⟩
  rw [Evaluator.holds, anchored]
  exact h.near operation member frame asks

theorem reports_of_silent (silent : ∀ operation ∈ session, operation.frame? = none)
    (e : Evaluator α) : reports session e = [] := by
  induction session generalizing e with
  | nil => rfl
  | cons operation rest ih =>
    obtain ⟨first, others⟩ := List.forall_mem_cons.mp silent
    rw [reports, Operation.reports_of_silent first, ih others, List.append_nil]

/-- From its first question on, an epoch is a session all of whose operations stay where they are
once the evaluator has been turned to the frame of that question. -/
theorem Epoch.exists_start (h : e.Epoch anchor session)
    (first : session.findSome? Operation.frame? = some frame) :
    ∃ front back, session = front ++ back ∧ (∀ operation ∈ front, operation.frame? = none) ∧
      let start := (e.after front).atFrame frame
      start.cache = (e.atFrame frame).cache ∧ (∀ operation ∈ back, operation.Stays start) ∧
        start.after back = e.after session ∧ reports back start = reports session e := by
  induction session generalizing e with
  | nil => cases first
  | cons operation rest ih =>
    cases asks : operation.frame? with
    | none =>
      rw [List.findSome?_cons, asks] at first
      have quiet := Operation.quiet_perform asks (h.noReset _ List.mem_cons_self)
      have holds (frame : α) : (operation.perform.run e).evaluator.holds frame = e.holds frame := by
        simp only [Evaluator.holds, quiet.anchor e]
      have later : (operation.perform.run e).evaluator.Epoch anchor rest := {
        noReset := fun other member => h.noReset other (List.mem_cons_of_mem _ member)
        near := fun other member => h.near other (List.mem_cons_of_mem _ member)
        anchored := by
          intro frame first
          have before := h.anchored frame (by rw [List.findSome?_cons, asks]; exact first)
          rwa [anchor_atFrame, holds, quiet.anchor e, ← anchor_atFrame] }
      obtain ⟨front, back, rfl, silent, cache, stays, same, taken⟩ := ih later first
      refine ⟨operation :: front, back, rfl, List.forall_mem_cons.mpr ⟨asks, silent⟩, ?_, stays,
        same, ?_⟩
      · refine cache.trans ?_
        cases near : e.holds frame with
        | true =>
          rw [atFrame_of_holds near, atFrame_of_holds ((holds frame).trans near), quiet.cache]
        | false => rw [cache_atFrame near, cache_atFrame ((holds frame).trans near)]
      · rw [reports, Operation.reports_of_silent asks]
        exact taken
    | some frame' =>
      obtain rfl : frame' = frame := by simpa [List.findSome?_cons, asks] using first
      have anchored := h.anchored frame' (by rw [List.findSome?_cons, asks])
      have turned : (e.atFrame frame').Epoch anchor (operation :: rest) := by
        refine ⟨h.noReset, h.near, fun other first => ?_⟩
        obtain rfl : frame' = other := by simpa [List.findSome?_cons, asks] using first
        rw [atFrame_atFrame, anchored]
      refine ⟨[], operation :: rest, rfl, List.forall_mem_nil _, rfl, turned.stays anchored, ?_, ?_⟩
      · exact congrArg (fun answer => answer.evaluator.after rest)
          (Operation.turns_perform asks e).symm
      · change reports (operation :: rest) (e.atFrame frame') = _
        rw [reports, reports, Operation.reports_atFrame asks, ← Operation.turns_perform asks e]

/-- The reports of an epoch fit between two stages of knowledge: the first one is what is known when
the evaluator has been turned to the frame of the first question. -/
theorem Sound.exists_between (h : e.Sound) (epoch : e.Epoch anchor session) :
    ∃ before : ExtTreeMap String α,
      Report.Between before (e.after session).cache (reports session e) := by
  cases first : session.findSome? Operation.frame? with
  | none =>
    rw [reports_of_silent (List.findSome?_eq_none_iff.mp first)]
    exact ⟨_, .nothing fun _ => id⟩
  | some frame =>
    obtain ⟨front, back, -, -, -, stays, same, taken⟩ := epoch.exists_start first
    rw [← same, ← taken]
    exact ⟨_, chain_between.of_session ((h.after front).atFrame frame) stays⟩

/-- Within an epoch a plug is reported once at most with each cause of its own, and once at most by
each plug that reads it while it is under way. -/
theorem reported_once (nodes : List Node) (connections : List Connection)
    (curves : List (String × CurveShape α)) (rotation : RotationBlend α)
    (earlier session : List (Operation α)) (anchor : α) :
    let e := (ofGraph (.ofRecords nodes connections) curves rotation).after earlier
    let diagnostics := Event.diagnostics ((Operation.performAll session).run e).events
    e.Epoch anchor session →
      (reports session e).map Report.diagnostic = diagnostics ∧
      (∀ plug kind, kind ≠ .cycle →
        diagnostics.countP (fun d => d.plug = plug ∧ d.kind = kind) ≤ 1) ∧
      ∀ reader plug, (reports session e).count (.cycle reader plug) ≤ 1 := by
  intro e diagnostics epoch
  have sound : e.Sound := (sound_ofGraph nodes connections curves rotation).after earlier
  have taken : (reports session e).map Report.diagnostic = diagnostics :=
    diagnostics_reports session e
  obtain ⟨before, between⟩ := sound.exists_between epoch
  refine ⟨taken, fun plug kind regular => ?_, between.count_cycle_le_one⟩
  rw [← taken]
  exact between.countP_le_one plug regular

/-- Two plugs that are connected in a ring and a plug of a node that is not there are asked for
again and again; the first question moves the anchor. -/
theorem reported_once_ring :
    let connections : List Connection :=
      [⟨"b.x", "a.x", false⟩, ⟨"a.x", "b.x", false⟩, ⟨"c.y", "c.x", false⟩]
    let e : Evaluator Float :=
      (ofGraph (.ofRecords [] connections) [] slerpEuler).after [.evaluate "a.x" 5]
    let session := [.evaluate "c.x" 1, .evaluate "a.x" 1, .evaluate "b.x" 1, .evaluate "c.y" 1]
    let diagnostics := Event.diagnostics ((Operation.performAll session).run e).events
    e.Epoch 1 session ∧ (reports session e).map Report.diagnostic = diagnostics ∧
      diagnostics.countP (fun d => d.plug = "c.y" ∧ d.kind = .missingNode) ≤ 1 ∧
      (reports session e).count (.cycle "b.x" "a.x") ≤ 1 := by
  intro connections e session diagnostics
  have epoch : e.Epoch 1 session := by
    refine ⟨by simp [session], fun operation member frame asks => ?_, fun frame first => ?_⟩
    · have frames : session.filterMap Operation.frame? = [1, 1, 1, 1] := by decide +kernel
      have listed : frame ∈ [1, 1, 1, 1] :=
        frames ▸ List.mem_filterMap.mpr ⟨operation, member, asks⟩
      obtain rfl : frame = 1 := by simpa using listed
      decide +kernel
    · have asked : session.findSome? Operation.frame? = some 1 := by decide +kernel
      obtain rfl := Option.some.inj (asked.symm.trans first)
      decide +kernel
  obtain ⟨taken, own, cycles⟩ := reported_once [] connections [] slerpEuler
    [.evaluate "a.x" 5] session 1 epoch
  exact ⟨epoch, taken, own "c.y" .missingNode nofun, cycles "b.x" "a.x"⟩

end Evaluator

end PlugGraph
