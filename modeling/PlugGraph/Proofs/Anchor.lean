import PlugGraph.Proofs.Order

/-!
# Values belong to the anchor

An operation *asks at a frame* if it comes to a plug to look up there; a blank text, a name that
denotes no plug and an expression without names ask for nothing. If the anchor holds at the frame,
such an operation keeps the anchor and every known value. If it does not, the operation forgets
them all: it gives the answer that it gives after a reset, and its frame is the new anchor.

The anchor therefore never drifts. Every value that is known has been computed by an operation whose
frame is the anchor itself or approximately equal to it: `Evaluator.anchored_after`.
-/

namespace PlugGraph

variable {α ω υ : Type}

/-- A later evaluator of the same anchor that has lost no value. -/
structure Evaluator.Keeps (e later : Evaluator α) : Prop where
  anchor : later.anchor = e.anchor
  known : ∀ {plug : String} {value : α}, e.cache[plug]? = some value →
    later.cache[plug]? = some value

namespace Evaluator.Keeps

theorem refl (e : Evaluator α) : e.Keeps e := ⟨rfl, id⟩

theorem trans {e later latest : Evaluator α} (h : e.Keeps later) (h' : later.Keeps latest) :
    e.Keeps latest :=
  ⟨h'.anchor.trans h.anchor, fun found => h'.known (h.known found)⟩

end Evaluator.Keeps

namespace Plug

theorem not_isBlankText_join (node attr : String) : Text.isBlankText (join node attr) = false := by
  have dot : Text.isBlank '.' = false := by decide
  simp [Text.isBlankText, join, dot]

theorem not_isBlankText_named (node attr : String) : Text.isBlankText (named node attr) = false :=
  not_isBlankText_join node (Attr.withoutDot attr)

end Plug

namespace Context

theorem isSome_tokenPlug? (c : Context α) (name : String) :
    (c.tokenPlug? name).isSome = (Plug.ofPath? name).isSome :=
  Option.isSome_map

/-- The plug that a name denotes is never blank. -/
theorem not_isBlankText_of_tokenPlug? {c : Context α} {name plug : String}
    (h : c.tokenPlug? name = some plug) : Text.isBlankText plug = false := by
  obtain ⟨parts, -, rfl⟩ := Option.map_eq_some_iff.mp h
  dsimp only
  split <;> exact Plug.not_isBlankText_named _ _

end Context

variable [Scalar α]

/-- Whether answering an expression's questions comes to a name that denotes a plug. The names
before it count as zero. -/
def Query.asksForPlug : Dialogue String (Option α) ω → Bool
  | .done _ => false
  | .ask name next => (Plug.ofPath? name).isSome || asksForPlug (next (some 0))

namespace Operation

/-- The frame at which an operation asks for plugs; `none` if it asks for none. -/
def frame? : Operation α → Option α
  | evaluate plug frame => if Text.isBlankText plug then none else some frame
  | resolve name frame => if (Plug.ofPath? name).isSome then some frame else none
  | interpret text frame locals =>
    if Query.asksForPlug (Expr.evaluate frame locals text) then some frame else none
  | program _ | reset | setNode .. | eraseNode _ => none

/-- The operations that ask at a frame. -/
theorem frame?_cases {operation : Operation α} {frame : α}
    (asks : operation.frame? = some frame) :
    (∃ text, operation = evaluate text frame ∧ Text.isBlankText text = false) ∨
      (∃ name, operation = resolve name frame ∧ (Plug.ofPath? name).isSome = true) ∨
      ∃ text locals, operation = interpret text frame locals ∧
        Query.asksForPlug (Expr.evaluate frame locals text) = true := by
  cases operation <;> simp only [frame?, Option.ite_none_right_eq_some,
    Option.ite_none_left_eq_some, reduceCtorEq, Option.some.injEq, Bool.not_eq_true] at asks
  case evaluate text frame =>
    obtain ⟨notBlank, rfl⟩ := asks
    exact .inl ⟨text, rfl, notBlank⟩
  case resolve name frame =>
    obtain ⟨named, rfl⟩ := asks
    exact .inr (.inl ⟨name, rfl, named⟩)
  case interpret text frame locals =>
    obtain ⟨asks, rfl⟩ := asks
    exact .inr (.inr ⟨text, locals, rfl, asks⟩)

/-- An operation that neither resets an evaluator nor asks at a frame at which its anchor does not
hold. -/
def Stays (operation : Operation α) (e : Evaluator α) : Prop :=
  operation ≠ reset ∧ ∀ frame, operation.frame? = some frame → e.holds frame = true

end Operation

namespace Evaluator

variable {e later : Evaluator α} {frame : α}

theorem Keeps.holds (h : e.Keeps later) (frame : α) : later.holds frame = e.holds frame := by
  simp only [Evaluator.holds, h.anchor]

theorem Keeps.stays (h : e.Keeps later) {operation : Operation α} (stays : operation.Stays e) :
    operation.Stays later :=
  ⟨stays.1, fun frame asked => (h.holds frame).trans (stays.2 frame asked)⟩

theorem atFrame_of_holds (h : e.holds frame = true) : e.atFrame frame = e := if_pos h

theorem anchor_atFrame (e : Evaluator α) (frame : α) :
    (e.atFrame frame).anchor = if e.holds frame then e.anchor else some frame := by
  unfold atFrame
  split <;> rfl

theorem cache_atFrame (away : e.holds frame = false) : (e.atFrame frame).cache = ∅ := by
  simp [atFrame, away]

/-- Turning to a frame a second time does nothing. -/
theorem atFrame_atFrame (e : Evaluator α) (frame : α) :
    (e.atFrame frame).atFrame frame = e.atFrame frame := by
  cases away : e.holds frame with
  | true => rw [atFrame_of_holds away, atFrame_of_holds away]
  | false =>
    simp only [atFrame, away, Bool.false_eq_true, if_false]
    split <;> rfl

/-- Turning away from the anchor forgets what a reset forgets. -/
theorem atFrame_eq_reset (away : e.holds frame = false) :
    e.atFrame frame = e.reset.atFrame frame := by
  have away' : e.reset.holds frame = false := rfl
  simp only [atFrame, away, away', Bool.false_eq_true, if_false]
  rfl

/-- Turning to a frame a second time does not move the anchor. -/
theorem anchor_atFrame_of_eq (h : later.anchor = (e.atFrame frame).anchor) :
    (later.atFrame frame).anchor = (e.atFrame frame).anchor := by
  rw [anchor_atFrame later, h]
  by_cases holds : e.holds frame = true
  · rw [atFrame_of_holds holds] at h ⊢
    have holds' : later.holds frame = true := by simpa only [Evaluator.holds, h] using holds
    rw [if_pos holds']
  · rw [anchor_atFrame e, if_neg holds, ite_self]

end Evaluator

namespace Query

variable {frame : α} {text name : String} {e : Evaluator α}

theorem evaluate_of_blank (blank : Text.isBlankText text = true) :
    evaluate text frame = pure 0 :=
  funext fun _ => if_pos blank

theorem resolve_of_nameless (nameless : (Plug.ofPath? name).isSome = false) :
    resolve name frame = pure 0 := by
  funext e
  have none : e.context.tokenPlug? name = none := by
    rw [← Option.not_isSome_iff_eq_none, Context.isSome_tokenPlug?, nameless]
    exact Bool.false_ne_true
  simp only [resolve, none]
  rfl

/-- A name that denotes a plug is resolved by evaluating it. -/
theorem exists_resolve_eq (named : (Plug.ofPath? name).isSome = true) (frame : α)
    (e : Evaluator α) :
    ∃ plug, Text.isBlankText plug = false ∧ e.context.tokenPlug? name = some plug ∧
      (resolve name frame).run e = (evaluate plug frame).run e := by
  rw [← Context.isSome_tokenPlug? e.context] at named
  obtain ⟨plug, denotes⟩ := Option.isSome_iff_exists.mp named
  refine ⟨plug, Context.not_isBlankText_of_tokenPlug? denotes, denotes, ?_⟩
  simp only [run, resolve, denotes]

theorem answer_ask (frame : α) (name : String) (next : Option α → Dialogue String (Option α) ω) :
    answer frame (.ask name next) =
      resolve name frame >>= fun value => answer frame (next (some value)) := by
  simp only [answer, Dialogue.answerM_ask, bind_map_left]

/-- An expression that asks for no plug leaves the evaluator alone. -/
theorem exists_answer_eq_pure {d : Dialogue String (Option α) ω} (asks : asksForPlug d = false)
    (frame : α) : ∃ result, answer frame d = pure result := by
  induction d with
  | done result => exact ⟨result, rfl⟩
  | ask name next ih =>
    obtain ⟨nameless, asks⟩ := Bool.or_eq_false_iff.mp asks
    obtain ⟨result, same⟩ := ih (some 0) asks
    exact ⟨result, by rw [answer_ask, resolve_of_nameless nameless, pure_bind, same]⟩

/-- What a query does depends on the evaluator only as it is turned to the frame. -/
theorem evaluate_congr {e' : Evaluator α} (notBlank : Text.isBlankText text = false)
    (same : e.atFrame frame = e'.atFrame frame) :
    (evaluate text frame).run e = (evaluate text frame).run e' := by
  simp only [run, evaluate, notBlank, Bool.false_eq_true, if_false, same]

/-! ### Queries that ask for nothing, and queries that forget -/

/-- A query that leaves the anchor and the values alone and does not depend on them. -/
structure Quiet (query : Query α ω) : Prop where
  anchor : ∀ e, (query.run e).evaluator.anchor = e.anchor
  cache : ∀ e, (query.run e).evaluator.cache = e.cache
  reset : ∀ e, query.run e.reset =
    { query.run e with evaluator := (query.run e).evaluator.reset }

omit [Scalar α] in
theorem Quiet.pure (value : ω) : Quiet (Pure.pure value : Query α ω) :=
  ⟨fun _ => rfl, fun _ => rfl, fun _ => rfl⟩

omit [Scalar α] in
theorem Quiet.map {query : Query α ω} (h : query.Quiet) (f : ω → υ) : (f <$> query).Quiet := by
  refine ⟨fun e => ?_, fun e => ?_, fun e => ?_⟩
  · rw [run_map]
    exact h.anchor e
  · rw [run_map]
    exact h.cache e
  · simp only [run_map, h.reset]

/-- A query that turns the evaluator to a frame before anything else. -/
def Turns (query : Query α ω) (frame : α) : Prop :=
  ∀ e, query.run e = query.run (e.atFrame frame)

/-- Turned away from the anchor, a query is like one after a reset. -/
theorem Turns.forgets {query : Query α ω} (h : query.Turns frame) (away : e.holds frame = false) :
    query.run e = query.run e.reset := by
  rw [h e, Evaluator.atFrame_eq_reset away, ← h e.reset]

theorem Turns.bind {query : Query α ω} (h : query.Turns frame) (next : ω → Query α υ) :
    (query >>= next).Turns frame := by
  intro e
  simp only [run_bind, h e]

theorem Turns.map {query : Query α ω} (h : query.Turns frame) (f : ω → υ) :
    (f <$> query).Turns frame := by
  intro e
  simp only [run_map, h e]

theorem turns_evaluate (notBlank : Text.isBlankText text = false) :
    (evaluate text frame).Turns frame :=
  fun e => evaluate_congr notBlank (e.atFrame_atFrame frame).symm

theorem turns_resolve (named : (Plug.ofPath? name).isSome = true) :
    (resolve name frame).Turns frame := by
  intro e
  obtain ⟨plug, notBlank, denotes, same⟩ := exists_resolve_eq named frame e
  obtain ⟨plug', -, denotes', same'⟩ := exists_resolve_eq named frame (e.atFrame frame)
  rw [Evaluator.atFrame_context] at denotes'
  obtain rfl : plug = plug' := Option.some.inj (denotes.symm.trans denotes')
  rw [same, same', turns_evaluate notBlank e]

theorem turns_answer {d : Dialogue String (Option α) ω} (asks : asksForPlug d = true) :
    (answer frame d).Turns frame := by
  induction d with
  | done => cases asks
  | ask name next ih =>
    rw [answer_ask]
    cases named : (Plug.ofPath? name).isSome with
    | true => exact (turns_resolve named).bind _
    | false =>
      rw [resolve_of_nameless named, pure_bind]
      exact ih (some 0) (by simpa [asksForPlug, named] using asks)

end Query

namespace Operation

variable {frame : α}

/-- An operation that asks for no plug is quiet, unless it is a reset. -/
theorem quiet_perform {operation : Operation α} (silent : operation.frame? = none)
    (noReset : operation ≠ .reset) : operation.perform.Quiet := by
  cases operation <;> simp only [frame?, ite_eq_left_iff, ite_eq_right_iff, reduceCtorEq, imp_false,
    Bool.not_eq_true, Bool.not_eq_false] at silent
  case evaluate text frame =>
    rw [perform, Query.evaluate_of_blank silent]
    exact (Query.Quiet.pure 0).map _
  case resolve name frame =>
    rw [perform, Query.resolve_of_nameless silent]
    exact (Query.Quiet.pure 0).map _
  case interpret text frame locals =>
    obtain ⟨result, same⟩ := Query.exists_answer_eq_pure silent frame
    rw [perform, Query.interpret, same]
    exact (Query.Quiet.pure result).map _
  case reset => exact absurd rfl noReset
  case program | setNode | eraseNode =>
    refine Query.Quiet.map ?_ _
    exact ⟨fun _ => rfl, fun _ => rfl, fun _ => rfl⟩

/-- An operation that asks at a frame turns to it. -/
theorem turns_perform {operation : Operation α} (asks : operation.frame? = some frame) :
    operation.perform.Turns frame := by
  rcases frame?_cases asks with ⟨text, rfl, notBlank⟩ | ⟨name, rfl, named⟩ |
    ⟨text, locals, rfl, refers⟩
  · exact (Query.turns_evaluate notBlank).map _
  · exact (Query.turns_resolve named).map _
  · exact (Query.turns_answer refers).map _

end Operation

namespace Descent

variable {c : Context α} {frame : α} {callers : List String} {plug : String}
  {notes later : Notes α} {value : α}

/-- A descent leaves the value that it has found. -/
theorem known_of_visit {depth : Nat}
    (visited : (visit c frame depth callers plug).run notes = some (value, later)) :
    later.cache[plug]? = some value := by
  obtain ⟨_, _, _, -, -, rfl, rfl⟩ := exists_of_visit visited
  exact Std.ExtTreeMap.getElem?_insert_self

end Descent

namespace Evaluator

variable {e : Evaluator α} {text : String} {frame : α}

namespace Sound

/-- A query for a plug keeps what is known once the evaluator is turned to its frame. -/
theorem keeps_evaluate (h : e.Sound) (notBlank : Text.isBlankText text = false) (frame : α) :
    (e.atFrame frame).Keeps ((Query.evaluate text frame).run e).evaluator := by
  rcases h.evaluate_cases_of_not_blank notBlank frame with ⟨value, -, same⟩ |
    ⟨depth, value, later, absent, visited, same⟩
  · rw [same]
    exact .refl _
  · have reached := Descent.reached_of_visit List.not_mem_nil absent visited
    rw [same]
    exact ⟨rfl, reached.follows.known⟩

/-- The answer of a query is known afterwards. -/
theorem known_evaluate (h : e.Sound) (notBlank : Text.isBlankText text = false) (frame : α) :
    ((Query.evaluate text frame).run e).evaluator.cache[Plug.normalize text]? =
      some ((Query.evaluate text frame).run e).value := by
  rcases h.evaluate_cases_of_not_blank notBlank frame with ⟨value, known, same⟩ |
    ⟨depth, value, later, -, visited, same⟩
  · rw [same]
    exact known
  · rw [same]
    exact Descent.known_of_visit visited

theorem keeps_resolve (h : e.Sound) (name : String)
    (holds : (Plug.ofPath? name).isSome = true → e.holds frame = true) :
    e.Keeps ((Query.resolve name frame).run e).evaluator := by
  cases named : (Plug.ofPath? name).isSome with
  | false =>
    rw [Query.resolve_of_nameless named]
    exact .refl e
  | true =>
    obtain ⟨plug, notBlank, -, same⟩ := Query.exists_resolve_eq named frame e
    have keeps := h.keeps_evaluate notBlank frame
    rw [atFrame_of_holds (holds named)] at keeps
    rwa [same]

theorem keeps_answer {ω : Type} (h : e.Sound) {d : Dialogue String (Option α) ω}
    (holds : Query.asksForPlug d = true → e.holds frame = true) :
    e.Keeps ((Query.answer frame d).run e).evaluator := by
  induction d generalizing e with
  | done => exact .refl e
  | ask name next ih =>
    rw [Query.run_answer_ask]
    cases named : (Plug.ofPath? name).isSome with
    | false =>
      rw [Query.resolve_of_nameless named]
      exact ih (some 0) h fun asks => holds (by simp [Query.asksForPlug, asks])
    | true =>
      have holds : e.holds frame = true := holds (by simp [Query.asksForPlug, named])
      have first := h.keeps_resolve name fun _ => holds
      exact first.trans (ih _ (h.resolve name frame) fun _ => (first.holds frame).trans holds)

/-- What stays keeps all values and the anchor. -/
theorem keeps_perform (h : e.Sound) {operation : Operation α} (stays : operation.Stays e) :
    e.Keeps (operation.perform.run e).evaluator := by
  obtain ⟨noReset, holds⟩ := stays
  cases asks : operation.frame? with
  | none =>
    have quiet := Operation.quiet_perform asks noReset
    exact ⟨quiet.anchor e, fun found => by rwa [quiet.cache e]⟩
  | some frame =>
    have current := holds frame asks
    rcases Operation.frame?_cases asks with ⟨text, rfl, notBlank⟩ | ⟨name, rfl, -⟩ |
      ⟨text, locals, rfl, -⟩ <;> simp only [Operation.perform, Query.run_map]
    · have keeps := h.keeps_evaluate notBlank frame
      rwa [atFrame_of_holds current] at keeps
    · exact h.keeps_resolve name fun _ => current
    · exact h.keeps_answer fun _ => current

theorem keeps_after (h : e.Sound) {session : List (Operation α)}
    (stays : ∀ operation ∈ session, operation.Stays e) : e.Keeps (e.after session) := by
  induction session generalizing e with
  | nil => exact .refl e
  | cons operation rest ih =>
    obtain ⟨first, others⟩ := List.forall_mem_cons.mp stays
    have keeps := h.keeps_perform first
    exact keeps.trans (ih (h.perform operation) fun other member =>
      keeps.stays (others other member))

theorem anchor_resolve (h : e.Sound) {name : String} (named : (Plug.ofPath? name).isSome = true)
    (frame : α) :
    ((Query.resolve name frame).run e).evaluator.anchor = (e.atFrame frame).anchor := by
  obtain ⟨plug, notBlank, -, same⟩ := Query.exists_resolve_eq named frame e
  rw [same]
  exact (h.keeps_evaluate notBlank frame).anchor

/-- Whatever an expression asks for, the anchor moves once at most. -/
theorem anchor_answer {ω : Type} (h : e.Sound) {d : Dialogue String (Option α) ω}
    (asks : Query.asksForPlug d = true) :
    ((Query.answer frame d).run e).evaluator.anchor = (e.atFrame frame).anchor := by
  induction d generalizing e with
  | done => cases asks
  | ask name next ih =>
    rw [Query.run_answer_ask]
    cases named : (Plug.ofPath? name).isSome with
    | false =>
      rw [Query.resolve_of_nameless named]
      exact ih (some 0) h (by simpa [Query.asksForPlug, named] using asks)
    | true =>
      have first := h.anchor_resolve named frame
      have sound := h.resolve name frame
      generalize (Query.resolve name frame).run e = resolved at first sound ⊢
      cases more : Query.asksForPlug (next (some resolved.value)) with
      | true => exact (ih _ sound more).trans (anchor_atFrame_of_eq first)
      | false =>
        obtain ⟨result, same⟩ := Query.exists_answer_eq_pure more frame
        dsimp only
        rw [same]
        exact first

/-- An operation that asks at a frame turns the evaluator to it. -/
theorem anchor_perform (h : e.Sound) {operation : Operation α}
    (asks : operation.frame? = some frame) :
    (operation.perform.run e).evaluator.anchor = (e.atFrame frame).anchor := by
  rcases Operation.frame?_cases asks with ⟨text, rfl, notBlank⟩ | ⟨name, rfl, named⟩ |
    ⟨text, locals, rfl, refers⟩ <;> simp only [Operation.perform, Query.run_map]
  · exact (h.keeps_evaluate notBlank frame).anchor
  · exact h.anchor_resolve named frame
  · exact h.anchor_answer refers

end Sound

end Evaluator

end PlugGraph
