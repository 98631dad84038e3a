import PlugGraph.Proofs.History

/-!
# Only the last connection to a plug counts

Of the connections that lead to one plug the last one drives it, and of the nodes of one name the
first one counts. The others are *shadowed*. Without them, and with the remaining connections in any
order, the records build a graph that agrees with the whole one in all that evaluation asks, so no
session can tell evaluators of the two scenes apart: `Evaluator.sameReplies_unshadowed`.
-/

namespace PlugGraph

/-- The nodes that have a name which no node before them has. -/
def Node.distinct : List Node → List Node
  | [] => []
  | node :: rest =>
    if node.name.isEmpty then distinct rest
    else node :: (distinct rest).filter (·.name ≠ node.name)

namespace Connection

/-- A connection is shadowed if a later one leads to the same plug. Only connections with two ends
count. -/
def isShadowed (c : Connection) (later : List Connection) : Bool :=
  c.normalized?.any fun kept =>
    (later.filterMap normalized?).any (·.target = kept.target)

/-- The connections that no later one shadows. -/
def unshadowed : List Connection → List Connection
  | [] => []
  | c :: rest => if c.isShadowed rest then unshadowed rest else c :: unshadowed rest

theorem isShadowed_iff {c kept : Connection} (ends : c.normalized? = some kept)
    (later : List Connection) :
    c.isShadowed later = true ↔
      (later.filterMap normalized?).filter (·.target = kept.target) ≠ [] := by
  rw [isShadowed, ends, Option.any_some, List.any_eq_true, ne_eq, List.filter_eq_nil_iff]
  push Not
  rfl

/-- Of the connections to a plug the last one is left. -/
theorem filter_unshadowed (connections : List Connection) (target : String) :
    ((unshadowed connections).filterMap normalized?).filter (·.target = target) =
      ((connections.filterMap normalized?).filter (·.target = target)).getLast?.toList := by
  induction connections with
  | nil => rfl
  | cons c rest ih =>
    cases ends : c.normalized? with
    | none => simp [unshadowed, isShadowed, ends, ih]
    | some kept =>
      have shadowed := isShadowed_iff ends rest
      by_cases leads : kept.target = target
      · rw [leads] at shadowed
        cases later : (rest.filterMap normalized?).filter (·.target = target) with
        | nil =>
          have last : ¬ c.isShadowed rest = true := by simpa [later] using shadowed
          simp [unshadowed, last, ends, ih, leads, later]
        | cons next others =>
          have hidden : c.isShadowed rest = true := shadowed.mpr (by simp [later])
          simp [unshadowed, hidden, ends, ih, leads, later]
      · by_cases hidden : c.isShadowed rest = true
        · simp [unshadowed, hidden, ends, ih, leads]
        · simp [unshadowed, hidden, ends, ih, leads]

end Connection

namespace Graph

/-- Nodes of a name that has been seen do not count. -/
theorem keepFirst_filter {seen : Std.ExtTreeMap String Node} {name : String} (h : name ∈ seen)
    (nodes : List Node) :
    keepFirst seen (nodes.filter (·.name ≠ name)) = keepFirst seen nodes := by
  induction nodes generalizing seen with
  | nil => rfl
  | cons node rest ih =>
    by_cases same : node.name = name
    · rw [List.filter_cons_of_neg (by simp [same]), ih h, keepFirst, same]
      simp [h]
    · simp only [ne_eq, same, not_false_eq_true, decide_true, List.filter_cons_of_pos, keepFirst]
      split
      · exact ih h
      · rw [ih (by simp [h])]

/-- The nodes that count are those of distinct names. -/
theorem keepFirst_distinct (seen : Std.ExtTreeMap String Node) (nodes : List Node) :
    keepFirst seen (Node.distinct nodes) = keepFirst seen nodes := by
  induction nodes generalizing seen with
  | nil => rfl
  | cons node rest ih =>
    by_cases nameless : node.name.isEmpty = true
    · simp only [Node.distinct, nameless, if_true, keepFirst, Bool.true_or, ih]
    · simp only [Node.distinct, nameless, Bool.false_eq_true, if_false, keepFirst, Bool.false_or]
      split
      · next known => rw [keepFirst_filter (by simpa using known), ih]
      · rw [keepFirst_filter (by simp), ih]

variable {nodes : List Node} {connections connections' : List Connection}

/-- Among the connections that are left one leads to a plug at most: the last of the whole list. -/
theorem filter_of_perm (h : connections'.Perm (Connection.unshadowed connections))
    (target : String) :
    (connections'.filterMap Connection.normalized?).filter (·.target = target) =
      ((connections.filterMap Connection.normalized?).filter
        (·.target = target)).getLast?.toList := by
  have perm := (h.filterMap Connection.normalized?).filter (·.target = target)
  rw [Connection.filter_unshadowed] at perm
  cases last : ((connections.filterMap Connection.normalized?).filter
      (·.target = target)).getLast? with
  | none => exact List.perm_nil.mp (by simpa [last] using perm)
  | some c => exact List.perm_singleton.mp (by simpa [last] using perm)

/-- The same plugs are led to. -/
theorem exists_target_iff (h : connections'.Perm (Connection.unshadowed connections))
    (p : String → Prop) :
    (∃ c ∈ (ofRecords nodes connections).connections, p c.target) ↔
      ∃ c ∈ connections'.filterMap Connection.normalized?, p c.target := by
  have leads (kept : List Connection) (target : String) :
      (∃ c ∈ kept, c.target = target) ↔ kept.filter (·.target = target) ≠ [] := by
    simp [List.filter_eq_nil_iff]
  have same (target : String) :
      (∃ c ∈ connections.filterMap Connection.normalized?, c.target = target) ↔
        ∃ c ∈ connections'.filterMap Connection.normalized?, c.target = target := by
    rw [leads, leads, filter_of_perm h]
    cases (connections.filterMap Connection.normalized?).filter (·.target = target) <;> simp
  constructor
  · rintro ⟨c, member, holds⟩
    obtain ⟨c', member', leads⟩ := (same c.target).mp ⟨c, member, rfl⟩
    exact ⟨c', member', leads ▸ holds⟩
  · rintro ⟨c, member, holds⟩
    obtain ⟨c', member', leads⟩ := (same c.target).mpr ⟨c, member, rfl⟩
    exact ⟨c', member', leads ▸ holds⟩

/-- Without what is shadowed the graph gives the same answers. -/
theorem agrees_unshadowed (h : connections'.Perm (Connection.unshadowed connections)) :
    (ofRecords nodes connections).Agrees (ofRecords (Node.distinct nodes) connections') where
  incoming? text := by
    rw [incoming?_eq, incoming?_eq]
    simp only [ofRecords, filter_of_perm h]
    cases List.getLast? _ <;> rfl
  arrayIndices node array := by
    refine Std.ExtTreeSet.ext_mem fun i => ?_
    rw [mem_arrayIndices, mem_arrayIndices, keepFirst_distinct]
    refine or_congr_left (exists_target_iff h fun target =>
      ∃ plug, Plug.ofText? target = some plug ∧
        plug.node = node ∧ Attr.Mentions plug.attr (Attr.withoutDot array) i)
  table := by simp only [ofRecords, keepFirst_distinct]

end Graph

namespace Evaluator

variable {α : Type} [Scalar α]

/-- What is shadowed does not matter, and neither does the order of the connections that are left: a
session of queries gets the same replies and sees the same reports, in the same order. -/
theorem sameReplies_unshadowed (nodes : List Node) (connections connections' : List Connection)
    (rest : connections'.Perm (Connection.unshadowed connections))
    (curves : List (String × CurveShape α)) (rotation : RotationBlend α)
    (session : List (Operation α))
    (unmodified : ∀ operation ∈ session, operation.KeepsTo (.ofRecords nodes connections)) :
    SameReplies session (ofGraph (.ofRecords nodes connections) curves rotation)
      (ofGraph (.ofRecords (Node.distinct nodes) connections') curves rotation) := by
  let e : Evaluator α := ofGraph (.ofRecords nodes connections) curves rotation
  let e' : Evaluator α := ofGraph (.ofRecords (Node.distinct nodes) connections') curves rotation
  have agrees : e.context.graph.Agrees e'.context.graph := Graph.agrees_unshadowed rest
  have akin : e.Alike (.ofRecords nodes connections) e' :=
    { sound := sound_ofGraph nodes connections curves rotation
      sound' := sound_ofGraph (Node.distinct nodes) connections' curves rotation
      context :=
        { keyed := keyed_ofGraph nodes connections curves rotation
          nodes := fun _ => rfl
          faithful := e.context.bare_faithful
          faithful' := e'.context.bare_faithful
          graph := agrees
          curves := rfl
          kinds := congrArg (Std.ExtTreeMap.map _) agrees.table
          rotation := rfl }
      anchor := rfl
      cache := rfl }
  have replies := (Operation.blind_performAll unmodified).agrees akin
  exact ⟨replies.value, replies.events⟩

/-- A sum with a driven element: a second node of its name and an earlier connection are dropped,
and the others change places. -/
theorem sameReplies_unshadowed_sum :
    let nodes : List Node :=
      [⟨"s", "plusMinusAverage", [⟨"input1D[2]", ["5"]⟩]⟩, ⟨"s", "choice", []⟩, ⟨"", "sin", []⟩]
    let connections : List Connection :=
      [⟨"a.x", "s.input1D[0]", false⟩, ⟨"b.x", "t.y", false⟩, ⟨"c.x", "s.input1D[0]", false⟩]
    let remaining : List Connection :=
      [⟨"c.x", "s.input1D[0]", false⟩, ⟨"b.x", "t.y", false⟩]
    let session : List (Operation Float) :=
      [.evaluate "s.output1D" 1, .resolve "t.y" 2, .interpret "s.output1D + $k" 1 [("$k", 1)]]
    remaining.Perm (Connection.unshadowed connections) ∧
      SameReplies session (ofGraph (.ofRecords nodes connections) [] slerpEuler)
        (ofGraph (.ofRecords [⟨"s", "plusMinusAverage", [⟨"input1D[2]", ["5"]⟩]⟩] remaining) []
          slerpEuler) := by
  intro nodes connections remaining session
  have distinct : [⟨"s", "plusMinusAverage", [⟨"input1D[2]", ["5"]⟩]⟩] = Node.distinct nodes := by
    decide
  have perm : remaining.Perm (Connection.unshadowed connections) := by decide +kernel
  rw [distinct]
  exact ⟨perm, sameReplies_unshadowed nodes connections remaining perm [] slerpEuler session
    (by simp [session, Operation.KeepsTo])⟩

end Evaluator

end PlugGraph
