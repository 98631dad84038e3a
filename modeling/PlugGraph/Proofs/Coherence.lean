import Mathlib.Data.List.Induction
import PlugGraph.Number.Double
import PlugGraph.Proofs.Anchor

/-!
# The known values cohere

`Evaluator.Anchored` is what holds of the known values after every session. A value that a plug has
got is given again, silently, until the evaluator is reset or asked for a plug at a frame at which
its anchor does not hold, whatever happens to the nodes in the meantime. After that nothing is left
of what was known before. And no value is far from the anchor: `Evaluator.ComputedAt` names the
operation that has computed it, and the frame of that operation is approximately the anchor.
-/

namespace PlugGraph.Evaluator

variable {α : Type} [Scalar α]

theorem after_append (e : Evaluator α) (session later : List (Operation α)) :
    e.after (session ++ later) = (e.after session).after later :=
  List.foldl_append

theorem after_concat (e : Evaluator α) (session : List (Operation α)) (operation : Operation α) :
    e.after (session ++ [operation]) = (operation.perform.run (e.after session)).evaluator :=
  e.after_append session [operation]

/-- An operation of a session that asked at a frame computed a plug, which was not known there
before, and the rest of the session has kept its value. -/
def ComputedAt (start : Evaluator α) (session : List (Operation α)) (plug : String)
    (value frame : α) : Prop :=
  ∃ earlier operation later, session = earlier ++ operation :: later ∧
    operation.frame? = some frame ∧
    plug ∉ ((start.after earlier).atFrame frame).cache ∧
    (start.after (earlier ++ [operation])).cache[plug]? = some value ∧
    ∀ other ∈ later, other.Stays (start.after (earlier ++ [operation]))

/-- A frame at which an anchor holds, or the anchor itself. -/
def Near (anchor frame : α) : Prop := frame = anchor ∨ Scalar.approximately anchor frame = true

/-- How the values that are known after a session depend on the anchor. -/
structure Anchored (start : Evaluator α) (session : List (Operation α)) : Prop where
  /-- The answer to a query for a plug is known afterwards. -/
  answered : ∀ text frame, Text.isBlankText text = false →
    let answer := (Query.evaluate text frame).run (start.after session)
    answer.evaluator.cache[Plug.normalize text]? = some answer.value
  /-- A known value is given again without a report, as long as operations stay. -/
  kept : ∀ plug value, (start.after session).cache[plug]? = some value →
    ∀ later, (∀ operation ∈ later, operation.Stays (start.after session)) →
    ∀ text frame, Plug.normalize text = plug → Text.isBlankText text = false →
    let e := start.after (session ++ later)
    e.holds frame = true → (Query.evaluate text frame).run e = ⟨value, [], e⟩
  /-- A reset forgets the anchor and all values. -/
  reset : (start.after (session ++ [.reset])).anchor = none ∧
    (start.after (session ++ [.reset])).cache = ∅
  /-- Asking at a frame at which the anchor does not hold is like asking after a reset. -/
  dropped : ∀ operation frame, Operation.frame? operation = some frame →
    (start.after session).holds frame = false →
    operation.perform.run (start.after session) =
      operation.perform.run (start.after (session ++ [.reset]))
  /-- Only asking at such a frame moves the anchor. -/
  anchor : ∀ operation frame, Operation.frame? operation = some frame →
    (start.after (session ++ [operation])).anchor =
      if (start.after session).holds frame then (start.after session).anchor else some frame
  /-- Every known value has been computed at a frame near the anchor. -/
  dated : ∀ plug value, (start.after session).cache[plug]? = some value →
    ∃ anchor frame, (start.after session).anchor = some anchor ∧ Near anchor frame ∧
      start.ComputedAt session plug value frame

variable {start e : Evaluator α} {operation : Operation α} {frame : α}

theorem exists_anchor_of_holds (h : e.holds frame = true) :
    ∃ anchor, e.anchor = some anchor ∧ Scalar.approximately anchor frame = true := by
  simpa only [Evaluator.holds, Option.any_eq_true] using h

/-- The anchor after an operation is near the frame at which it has asked. -/
theorem Sound.exists_near_anchor (h : e.Sound) (asks : operation.frame? = some frame) :
    ∃ anchor, (operation.perform.run e).evaluator.anchor = some anchor ∧ Near anchor frame := by
  rw [h.anchor_perform asks, anchor_atFrame]
  by_cases holds : e.holds frame = true
  · obtain ⟨anchor, found, near⟩ := exists_anchor_of_holds holds
    exact ⟨anchor, by rw [if_pos holds, found], .inr near⟩
  · exact ⟨frame, by rw [if_neg holds], .inl rfl⟩

/-- A value that is known after an operation but was not known before has been computed by it. -/
theorem asks_of_new {plug : String} (known : plug ∈ (operation.perform.run e).evaluator.cache)
    (new : operation.Stays e → plug ∉ e.cache) :
    ∃ frame, operation.frame? = some frame ∧ plug ∉ (e.atFrame frame).cache := by
  cases asks : operation.frame? with
  | none =>
    by_cases noReset : operation = .reset
    · subst noReset
      rw [Operation.perform, Query.run_map] at known
      exact absurd known Std.ExtTreeMap.not_mem_empty
    · rw [(Operation.quiet_perform asks noReset).cache e] at known
      exact absurd known (new ⟨noReset, by simp [asks]⟩)
  | some frame =>
    refine ⟨frame, rfl, ?_⟩
    by_cases holds : e.holds frame = true
    · rw [atFrame_of_holds holds]
      refine new ⟨?_, by simp [asks, holds]⟩
      rintro rfl
      cases asks
    · simp [cache_atFrame (Bool.not_eq_true _ ▸ holds)]

theorem ComputedAt.concat {session : List (Operation α)} {plug : String} {value : α}
    (h : start.ComputedAt session plug value frame) (sound : start.Sound)
    (stays : operation.Stays (start.after session)) :
    start.ComputedAt (session ++ [operation]) plug value frame := by
  obtain ⟨earlier, origin, later, rfl, asks, new, found, others⟩ := h
  refine ⟨earlier, origin, later ++ [operation], by simp, asks, new, found, ?_⟩
  have keeps := (sound.after (earlier ++ [origin])).keeps_after others
  have split : earlier ++ origin :: later = (earlier ++ [origin]) ++ later := by simp
  rw [split, after_append] at stays
  intro other member
  rcases List.mem_append.mp member with member | member
  · exact others other member
  · obtain rfl := List.mem_singleton.mp member
    exact ⟨stays.1, fun frame asked => (keeps.holds frame).symm.trans (stays.2 frame asked)⟩

/-- Every value that is known after a session has been computed near its anchor. -/
theorem Sound.exists_computedAt (h : start.Sound) (nothing : start.cache = ∅)
    (session : List (Operation α)) {plug : String} {value : α}
    (known : (start.after session).cache[plug]? = some value) :
    ∃ anchor frame, (start.after session).anchor = some anchor ∧ Near anchor frame ∧
      start.ComputedAt session plug value frame := by
  induction session using List.reverseRecOn generalizing value with
  | nil => simp [Evaluator.after, nothing] at known
  | append_singleton session operation ih =>
    have sound := h.after session
    rw [after_concat] at known ⊢
    by_cases old : operation.Stays (start.after session) ∧ plug ∈ (start.after session).cache
    · obtain ⟨stays, member⟩ := old
      have keeps := sound.keeps_perform stays
      rw [Std.ExtTreeMap.mem_iff_isSome_getElem?] at member
      obtain ⟨value', found⟩ := Option.isSome_iff_exists.mp member
      obtain rfl := Option.some.inj ((keeps.known found).symm.trans known)
      obtain ⟨anchor, frame, same, near, computed⟩ := ih found
      exact ⟨anchor, frame, keeps.anchor.trans same, near, computed.concat h stays⟩
    · have member : plug ∈ (operation.perform.run (start.after session)).evaluator.cache := by
        rw [Std.ExtTreeMap.mem_iff_isSome_getElem?, known]
        rfl
      obtain ⟨frame, asks, new⟩ := asks_of_new member fun stays known => old ⟨stays, known⟩
      obtain ⟨anchor, moved, near⟩ := sound.exists_near_anchor asks
      exact ⟨anchor, frame, moved, near, session, operation, [], rfl, asks, new,
        by rw [after_concat, known], by simp⟩

/-- After every session the known values depend on the anchor as they should. -/
theorem anchored_after (nodes : List Node) (connections : List Connection)
    (curves : List (String × CurveShape α)) (rotation : RotationBlend α)
    (session : List (Operation α)) :
    (ofGraph (.ofRecords nodes connections) curves rotation).Anchored session := by
  have fresh : (ofGraph (.ofRecords nodes connections) curves rotation).Sound :=
    sound_ofGraph nodes connections curves rotation
  have sound := fresh.after session
  exact {
    answered := fun text frame notBlank => sound.known_evaluate notBlank frame
    kept := by
      intro plug value known later stays text frame same notBlank e holds
      have keeps := sound.keeps_after stays
      rw [← after_append] at keeps
      have found : (e.atFrame frame).cache[Plug.normalize text]? = some value := by
        rw [atFrame_of_holds holds, same]
        exact keeps.known known
      rw [Query.evaluate_known notBlank found, atFrame_of_holds holds]
    reset := by
      rw [after_concat]
      exact ⟨rfl, rfl⟩
    dropped := by
      intro operation frame asks away
      rw [after_concat]
      exact (Operation.turns_perform asks).forgets away
    anchor := by
      intro operation frame asks
      rw [after_concat, sound.anchor_perform asks, anchor_atFrame]
    dated := fun plug value known => fresh.exists_computedAt rfl session known }

/-- A node is replaced after it has been queried, and the next query still gives its old value. -/
theorem anchored_after_replaced_node :
    let start : Evaluator Float :=
      ofGraph (.ofRecords [⟨"a", "transform", [⟨"x", ["1"]⟩]⟩] []) [] slerpEuler
    let session := [.evaluate "a.x" 1, .setNode "a" ⟨"a", "transform", [⟨"x", ["2"]⟩]⟩]
    let e := start.after (session ++ [.evaluate " a.x" 1])
    start.Anchored session ∧ e.holds 1 = true ∧ e.holds 5 = false ∧
      ∃ value, (start.after session).cache["a.x"]? = some value ∧
        (Query.evaluate "a.x" 1).run e = ⟨value, [], e⟩ := by
  intro start session e
  have anchored : start.Anchored session :=
    anchored_after [⟨"a", "transform", [⟨"x", ["1"]⟩]⟩] [] [] slerpEuler session
  have known : ((start.after session).cache["a.x"]?).isSome = true := by decide +kernel
  have stays : ∀ operation ∈ [Operation.evaluate " a.x" 1],
      operation.Stays (start.after session) := by
    intro operation member
    obtain rfl := List.mem_singleton.mp member
    refine ⟨nofun, fun frame asked => ?_⟩
    obtain rfl : 1 = frame := Option.some.inj asked
    decide +kernel
  have holds : e.holds 1 = true := by decide +kernel
  obtain ⟨value, found⟩ := Option.isSome_iff_exists.mp known
  exact ⟨anchored, holds, by decide +kernel, value, found,
    anchored.kept "a.x" value found _ stays "a.x" 1 (by decide +kernel) (by decide) holds⟩

/-- A query for a blank text asks for no plug. All values are still known after it, although its
frame is one at which the anchor does not hold. -/
theorem blank_query_keeps_values :
    let start : Evaluator Float :=
      ofGraph (.ofRecords [⟨"a", "transform", [⟨"x", ["1"]⟩]⟩] []) [] slerpEuler
    let e := start.after [.evaluate "a.x" 1]
    let later := ((Query.evaluate "" 5).run e).evaluator
    e.holds 5 = false ∧ "a.x" ∈ e.cache ∧ later.anchor = e.anchor ∧ later.cache = e.cache := by
  intro start e later
  exact ⟨by decide +kernel, by decide +kernel, rfl, rfl⟩

end PlugGraph.Evaluator
