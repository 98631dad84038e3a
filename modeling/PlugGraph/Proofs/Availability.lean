import PlugGraph.Proofs.Anchor
import PlugGraph.Proofs.Precision

/-!
# Queries always answer

A query could fail to answer in three ways: a plug is read whose value is lacking while no reading
is under way that could be put off, the walk to a plug does not end, or it ends without a value for
the plug. A *risky* query says so instead of making up a value. What the formulas, curves, programs
and the rotation blend run into is no such failure; it is reported for the plug that it concerns.

Whatever has happened to an evaluator, risky queries do not break down: they agree with the queries
that cannot fail. Every value that is known or given is a finite number in single precision:
`Evaluator.available`.
-/

namespace PlugGraph

variable {α ω : Type}

/-- What could keep a query from giving an answer. -/
inductive Breakdown where
  /-- The value of a plug is lacking, and no reading is being attempted that could be put off. -/
  | pending (plug : String)
  /-- The walk to a plug is not over. -/
  | endless (plug : String)
  /-- The walk to a plug is over, but there is no value for the plug. -/
  | lost (plug : String)
deriving DecidableEq, Repr

/-- A query that may break down. -/
abbrev Risky (α ω : Type) := ExceptT Breakdown (Query α) ω

namespace Risky

/-- A risky query that depends on the evaluator. -/
def ofState (f : Evaluator α → Risky α ω) : Risky α ω := ExceptT.mk fun e => (f e).run e

theorem run_ofState (f : Evaluator α → Risky α ω) (e : Evaluator α) :
    (ofState f).run.run e = (f e).run.run e := rfl

/-- Asked of an evaluator, a risky query agrees with a query that cannot fail. -/
def Agrees (risky : Risky α ω) (query : Query α ω) (e : Evaluator α) : Prop :=
  risky.run.run e = (Except.ok <$> query).run e

theorem Agrees.bind {e : Evaluator α} {υ : Type} {risky : Risky α ω} {query : Query α ω}
    {next : ω → Risky α υ} {next' : ω → Query α υ} (first : risky.Agrees query e)
    (rest : (next (query.run e).value).Agrees (next' (query.run e).value) (query.run e).evaluator) :
    (risky >>= next).Agrees (query >>= next') e := by
  simp only [Agrees, Query.run_map, ExceptT.run_bind, Query.run_bind] at first rest ⊢
  simp only [first, rest]

variable [Scalar α]

/-- Reads a plug on behalf of the reading that is being attempted. -/
def read (plug : String) : Risky α α := ExceptT.mk fun e =>
  let desk : Desk := { stack := [], underway := e.underway, current := e.current }
  let (ending, notes) := desk.read plug { Notes.start e.cache with reported := e.reported }
  { value := ending.mapError .pending
    events := notes.events.toList
    evaluator := { e with reported := notes.reported } }

/-- Looks a plug up, or walks to it. -/
def pull (plug : String) (frame : α) : Risky α α := ExceptT.mk fun e =>
  let e := e.atFrame frame
  match e.cache[plug]? with
  | some value => ⟨.ok value, [], e⟩
  | none =>
    let walk := e.walk plug frame
    let value :=
      if !walk.stack.isEmpty then .error (.endless plug)
      else match walk.cache[plug]? with
        | some value => .ok value
        | none => .error (.lost plug)
    ⟨value, walk.events.toList, e.adopt walk⟩

/-- The value of a plug at a frame; zero for a blank text, and for what is no text at all. While a
reading is being attempted this is part of it. -/
def evaluate (plug : Option String) (frame : α) : Risky α α :=
  match plug with
  | none => pure 0
  | some text =>
    if Text.isBlankText text then pure 0
    else ofState fun e =>
      if e.current.isSome then read (Plug.normalize text) else pull (Plug.normalize text) frame

def resolve (name : String) (frame : α) : Risky α α := ofState fun e =>
  match e.context.tokenPlug? name with
  | some plug => evaluate (some plug) frame
  | none => pure 0

/-- Answers the questions of an expression or a program at a frame. -/
def answer (frame : α) (d : Dialogue String (Option α) ω) : Risky α ω :=
  d.answerM fun name => some <$> resolve name frame

variable {e : Evaluator α} {text : String} {frame : α}

theorem run_pull_known {plug : String} {value : α}
    (known : (e.atFrame frame).cache[plug]? = some value) :
    (pull plug frame).run.run e = ⟨.ok value, [], e.atFrame frame⟩ := by
  change (match (e.atFrame frame).cache[plug]? with | some value => _ | none => _) = _
  rw [known]

theorem run_pull_walk {plug : String} {value : α} {walk : Walk α}
    (unknown : (e.atFrame frame).cache[plug]? = none)
    (walked : (e.atFrame frame).walk plug frame = walk) (done : walk.stack = [])
    (found : walk.cache[plug]? = some value) :
    (pull plug frame).run.run e =
      ⟨.ok value, walk.events.toList, (e.atFrame frame).adopt walk⟩ := by
  change (match (e.atFrame frame).cache[plug]? with | some value => _ | none => _) = _
  simp only [unknown, walked, done, found, List.isEmpty_nil, Bool.not_true, Bool.false_eq_true,
    if_false]

/-- The walk to a plug comes to its end with a value. -/
theorem agrees_pull (h : e.Sound) (notBlank : Text.isBlankText text = false) (frame : α) :
    (pull (Plug.normalize text) frame).Agrees (Query.evaluate text frame) e := by
  have ready := h.atFrame frame
  rw [Agrees, Query.run_map]
  cases known : (e.atFrame frame).cache[Plug.normalize text]? with
  | some value => rw [run_pull_known known, Query.evaluate_known notBlank known]
  | none =>
    obtain ⟨value, later, -, found, walked⟩ :=
      ready.exists_visit frame (by simpa using known) (Nat.lt_succ_self _)
    have kept : (Walk.along [] later).cache.getD (Plug.normalize text) 0 = value := by
      rw [Std.ExtTreeMap.getD_eq_getD_getElem?]
      exact congrArg (·.getD 0) found
    have unknown : Plug.normalize text ∉ (e.atFrame frame).cache := by simpa using known
    rw [run_pull_walk known walked rfl found, Query.evaluate_unknown notBlank unknown, walked, kept]

/-- Between queries nothing is put off. -/
theorem agrees_evaluate (h : e.Sound) (text : String) (frame : α) :
    (evaluate (some text) frame).Agrees (Query.evaluate text frame) e := by
  cases blank : Text.isBlankText text with
  | true =>
    rw [evaluate, if_pos blank, Query.evaluate_of_blank blank]
    rfl
  | false =>
    have pulls : (evaluate (some text) frame).run.run e =
        (pull (Plug.normalize text) frame).run.run e := by
      have idle : ¬ e.current.isSome = true := by simp [h.idle]
      rw [evaluate, if_neg (by simp [blank]), run_ofState, if_neg idle]
    exact pulls.trans (agrees_pull h blank frame)

theorem agrees_resolve (h : e.Sound) (name : String) (frame : α) :
    (resolve name frame).Agrees (Query.resolve name frame) e := by
  rw [Agrees, Query.run_map, resolve, run_ofState]
  simp only [Query.run, Query.resolve]
  cases e.context.tokenPlug? name with
  | some plug => exact (agrees_evaluate h plug frame).trans (Query.run_map ..)
  | none => rfl

/-- No name that an expression asks for breaks it down. -/
theorem agrees_answer (h : e.Sound) (frame : α) (d : Dialogue String (Option α) ω) :
    (answer frame d).Agrees (Query.answer frame d) e := by
  induction d generalizing e with
  | done result => rfl
  | ask name next ih =>
    have asks : answer frame (.ask name next) =
        resolve name frame >>= fun value => answer frame (next (some value)) := by
      simp only [answer, Dialogue.answerM_ask, bind_map_left]
    rw [asks, Query.answer_ask]
    exact (agrees_resolve h name frame).bind (ih _ (h.resolve name frame))

/-- Asked of an evaluator, a risky query gives a value of a kind and leaves the evaluator as a
session would. -/
def Returns (p : ω → Prop) (risky : Risky α ω) (e : Evaluator α) : Prop :=
  ∃ value events session, risky.run.run e = ⟨.ok value, events, e.after session⟩ ∧ p value

theorem Agrees.returns {p : ω → Prop} {risky : Risky α ω} {query : Query α ω}
    (agrees : risky.Agrees query e) {session : List (Operation α)}
    (after : (query.run e).evaluator = e.after session) (kind : p (query.run e).value) :
    risky.Returns p e := by
  refine ⟨(query.run e).value, (query.run e).events, session, ?_, kind⟩
  rw [← after]
  exact agrees.trans (Query.run_map ..)

end Risky

namespace Query

variable [Scalar α] {frame : α}

/-- Answering an expression does to an evaluator what resolving its names one by one does. -/
theorem exists_after_answer (frame : α) (d : Dialogue String (Option α) ω) (e : Evaluator α) :
    ∃ session, ((answer frame d).run e).evaluator = e.after session := by
  induction d generalizing e with
  | done => exact ⟨[], rfl⟩
  | ask name next ih =>
    obtain ⟨session, after⟩ := ih _ ((resolve name frame).run e).evaluator
    refine ⟨.resolve name frame :: session, ?_⟩
    rw [run_answer_ask, Evaluator.after_cons, Operation.perform, run_map]
    exact after

/-- What every result of a dialogue satisfies, its answer does. -/
theorem value_answer {p : ω → Prop} {d : Dialogue String (Option α) ω} (ends : d.EndsIn p)
    (frame : α) (e : Evaluator α) : p ((answer frame d).run e).value := by
  induction d generalizing e with
  | done => exact ends
  | ask name next ih =>
    rw [run_answer_ask]
    exact ih _ (ends _) _

end Query

namespace Evaluator

variable [Scalar α] [Scalar.LawfulSingle α]

/-- After any session, an evaluator holds finite numbers in single precision only, and whatever it
is asked next gives such numbers: a plug or anything in place of one, a name, an expression under
any variables, and the statements of a program, all together or one slot at a time. It is left as a
session leaves it, so that the same holds of what comes after. -/
theorem available (nodes : List Node) (connections : List Connection)
    (curves : List (String × CurveShape α)) (rotation : RotationBlend α)
    (session : List (Operation α)) :
    let e := (ofGraph (.ofRecords nodes connections) curves rotation).after session
    (∀ (plug : String) (value : α), e.cache[plug]? = some value → Scalar.IsSingle value) ∧
    (∀ plug frame, (Risky.evaluate plug frame).Returns Scalar.IsSingle e) ∧
    (∀ name frame, (Risky.resolve name frame).Returns Scalar.IsSingle e) ∧
    (∀ text locals frame,
      (Risky.answer frame (Expr.evaluate frame locals text)).Returns Scalar.IsSingle e) ∧
    (∀ (program : Expr.Program) frame, (Risky.answer frame (program.values frame)).Returns
      (∀ entry ∈ ·, Scalar.IsSingle entry.2) e) ∧
    ∀ (program : Expr.Program) frame slot,
      (Risky.answer frame (program.output frame slot)).Returns Scalar.IsSingle e := by
  intro e
  have sound : e.Sound := (sound_ofGraph nodes connections curves rotation).after session
  have rounded : Rounded e.cache := Rounded.empty.after session
  have answers {ω : Type} {p : ω → Prop} {d : Dialogue String (Option α) ω} (ends : d.EndsIn p)
      (frame : α) : (Risky.answer frame d).Returns p e := by
    obtain ⟨asked, after⟩ := Query.exists_after_answer frame d e
    exact (Risky.agrees_answer sound frame d).returns after (Query.value_answer ends frame e)
  refine ⟨rounded, fun plug frame => ?_, fun name frame => ?_, fun text locals frame => ?_,
    fun program frame => ?_, fun program frame slot => ?_⟩
  · cases plug with
    | none => exact ⟨0, [], [], rfl, Scalar.isSingle_zero⟩
    | some text =>
      have after : ((Query.evaluate text frame).run e).evaluator =
          e.after [.evaluate text frame] := by
        rw [after_cons, Operation.perform, Query.run_map]
        rfl
      exact (Risky.agrees_evaluate sound text frame).returns after (rounded.evaluate text frame).2
  · have after : ((Query.resolve name frame).run e).evaluator = e.after [.resolve name frame] := by
      rw [after_cons, Operation.perform, Query.run_map]
      rfl
    exact (Risky.agrees_resolve sound name frame).returns after (rounded.resolve name frame)
  · exact answers (Expr.endsIn_evaluate frame locals text) frame
  · exact answers (Expr.endsIn_valuesFrom frame [] program.assignments) frame
  · exact answers (Expr.endsIn_output program frame slot) frame

/-- A literal beyond single precision, a curve and a rotation blend that fail, and a frame that is
not a number. -/
theorem available_failing_parts :
    let nodes : List Node :=
      [⟨"n", "transform", [⟨"x", ["1e39"]⟩]⟩, ⟨"p", "pairBlend", [⟨"ri", ["1"]⟩]⟩]
    let curves : List (String × CurveShape Float) := [("c", fun _ => .error .outsideKeys)]
    let rotation : RotationBlend Float := fun _ _ _ _ => .error .zeroQuaternion
    let e := (ofGraph (.ofRecords nodes []) curves rotation).after [.evaluate "n.x" (0 / 0)]
    (Risky.evaluate (some "c.output") (1 / 0)).Returns Scalar.IsSingle e ∧
      (Risky.evaluate none 1).Returns Scalar.IsSingle e ∧
      (Risky.evaluate (some "p.outRotateX") (0 / 0)).Returns Scalar.IsSingle e := by
  intro nodes curves rotation e
  have asked := (available nodes [] curves rotation [.evaluate "n.x" (0 / 0)]).2.1
  exact ⟨asked _ _, asked _ _, asked _ _⟩

end Evaluator

end PlugGraph
