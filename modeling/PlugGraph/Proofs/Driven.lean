import PlugGraph.Number.Double
import PlugGraph.Proofs.Anchor
import PlugGraph.Proofs.Plugs

/-!
# Driven plugs

The graph keeps connections under the normalized text of their target, and looks a text up under its
own normalized text. What has been stored is therefore found again if normalizing leaves it as it
is: `Evaluator.finds_driven`. Normalizing takes away one pair of quotes only, so a target in several
pairs is stored under a text that no look-up comes to: `Evaluator.nested_quotes_not_found`.
-/

namespace PlugGraph

namespace Graph

/-- The graph keeps no connection to nothing. -/
theorem target_ne_empty {nodes : List Node} {connections : List Connection} {c : Connection}
    (kept : c ∈ (ofRecords nodes connections).connections) : c.target ≠ "" := by
  obtain ⟨record, -, normalized⟩ := List.mem_filterMap.mp kept
  simp only [Connection.normalized?, Option.ite_none_left_eq_some, Bool.or_eq_true,
    not_or, Option.some.injEq] at normalized
  obtain ⟨⟨-, notEmpty⟩, rfl⟩ := normalized
  simpa using notEmpty

end Graph

namespace Context

variable {α : Type} [Scalar α]

/-- A driven plug is read by reading what drives it. -/
theorem reading_of_incoming? {c : Context α} {text source : String}
    (driven : c.graph.incoming? text = some source) (frame : α) :
    c.reading frame text =
      .ask (Plug.normalize source) fun value => .done (.result (.value value)) := by
  simp only [reading, driven]
  rfl

end Context

namespace Descent

variable {α : Type} [Scalar α] {c : Context α} {frame : α} {callers : List String}
  {target source : String} {notes later : Notes α} {value : α}

/-- Reading a plug gives a value that is known then, or zero for a caller without a value. -/
theorem known_of_read {depth : Nat} {reader asked : String}
    (answered : (read (visit c frame depth callers) callers reader asked).run notes =
      some (value, later)) :
    (asked ∈ callers ∧ value = 0) ∨
      later.cache[asked]? = some value ∧ (asked ∈ callers → asked ∈ notes.cache) := by
  rcases read_cases answered with ⟨known, rfl⟩ | ⟨-, ⟨stacked, zero, -⟩ | ⟨stacked, went⟩⟩
  · exact .inr ⟨known, fun _ => by simp [Std.ExtTreeMap.mem_iff_isSome_getElem?, known]⟩
  · exact .inl ⟨stacked, zero⟩
  · exact .inr ⟨known_of_visit went, fun member => absurd member stacked⟩

/-- The reading of a driven plug reads what drives it. -/
theorem exists_read_of_answer (driven : c.graph.incoming? target = some source)
    {descend : String → Descent α α} {reader : String} {outcome : Outcome α}
    (answered : ((c.reading frame target).answerM (read descend callers reader)).run notes =
      some (outcome, later)) :
    ∃ found, (read descend callers reader (Plug.normalize source)).run notes =
        some (found, later) ∧
      outcome = .result (.value found) := by
  rw [Context.reading_of_incoming? driven] at answered
  obtain ⟨found, _, replied, remaining⟩ := exists_of_answer_ask answered
  obtain ⟨rfl, rfl⟩ := Prod.mk.inj (Option.some.inj remaining)
  exact ⟨found, replied, rfl⟩

/-- Going down to a driven plug gives it the value that is known for its source then. The source may
be the plug itself or one of the callers, and counts as zero in that case. -/
theorem follows_of_visit {depth : Nat} (driven : c.graph.incoming? target = some source)
    (new : target ∉ notes.cache)
    (visited : (visit c frame depth callers target).run notes = some (value, later)) :
    (Plug.normalize source ∈ target :: callers ∧ value = (Context.round target 0).value) ∨
      Plug.normalize source ≠ target ∧
        ∃ found, later.cache[Plug.normalize source]? = some found ∧
          value = (Context.round target found).value := by
  obtain ⟨_, outcome, between, -, answered, rfl, rfl⟩ := exists_of_visit visited
  obtain ⟨found, replied, rfl⟩ := exists_read_of_answer driven answered
  rcases known_of_read replied with ⟨stacked, rfl⟩ | ⟨known, old⟩
  · exact .inl ⟨stacked, rfl⟩
  · have other : Plug.normalize source ≠ target := by
      intro same
      rw [same] at old
      exact new (old List.mem_cons_self)
    refine .inr ⟨other, found, ?_, rfl⟩
    rwa [Notes.keep, Std.ExtTreeMap.getElem?_insert, if_neg (by simpa using other.symm)]

end Descent

namespace Context

variable {α : Type}

/-- What drives which plug, and the kinds of the nodes: no operation changes these. -/
def wiring (c : Context α) : Std.ExtTreeMap String (List String) × Std.ExtTreeMap String Kind :=
  (c.graph.sources, c.kinds)

theorem incoming?_congr {c c' : Context α} (same : c.wiring = c'.wiring) (text : String) :
    c.graph.incoming? text = c'.graph.incoming? text :=
  congrArg (fun wiring => (wiring.1.getD (Plug.normalize text) []).head?) same

theorem kindOf_congr {c c' : Context α} (same : c.wiring = c'.wiring) (name : String) :
    c.kindOf name = c'.kindOf name :=
  congrArg (fun wiring => wiring.2.getD name .literal) same

theorem wiring_keepProgramOf (c : Context α) (text : String) :
    (c.keepProgramOf text).wiring = c.wiring := by
  unfold keepProgramOf
  split <;> rfl

theorem wiring_foldr_keepProgramOf (c : Context α) (texts : List String) :
    (texts.foldr (fun text c => c.keepProgramOf text) c).wiring = c.wiring :=
  List.foldrRecOn (motive := fun later : Context α => later.wiring = c.wiring) texts _ rfl
    fun _ same text _ => (wiring_keepProgramOf _ text).trans same

end Context

namespace Evaluator

variable {α : Type} [Scalar α] {e : Evaluator α} {text : String} {frame : α}

theorem wiring_evaluate (text : String) (frame : α) (e : Evaluator α) :
    ((Query.evaluate text frame).run e).evaluator.context.wiring = e.context.wiring := by
  rcases Query.evaluate_cases text frame e with ⟨-, same⟩ | ⟨-, ⟨_, -, same⟩ | ⟨-, same⟩⟩ <;>
    rw [same]
  · rw [atFrame_context]
  · exact (Context.wiring_foldr_keepProgramOf _ _).trans (by rw [atFrame_context])

theorem keyed_evaluate (keyed : e.context.Keyed) (text : String) (frame : α) :
    ((Query.evaluate text frame).run e).evaluator.context.Keyed := by
  have ready : (e.atFrame frame).context.Keyed := by rwa [atFrame_context]
  rcases Query.evaluate_cases text frame e with ⟨-, same⟩ | ⟨-, ⟨_, -, same⟩ | ⟨-, same⟩⟩ <;>
    rw [same]
  · exact keyed
  · exact ready
  · exact ready.foldr_keepProgramOf _

theorem wiring_after (session : List (Operation α)) (e : Evaluator α) :
    (e.after session).context.wiring = e.context.wiring :=
  after_induction (p := fun later => later.context.wiring = e.context.wiring)
    (fun operation later same => (operation.upholds_perform .any
      (fun text frame later same => ⟨(wiring_evaluate text frame later).trans same, trivial⟩)
      (fun _ _ same => same) (fun _ same => same) (fun _ _ _ _ same => same)
      (fun _ _ same => same) later same).1) rfl session

/-- An answer that the value of a source gives. A plug that is its own source counts as zero. -/
def FollowsSource (answer : Answer α α) (source target : String) : Prop :=
  (Plug.normalize source = target ∧ answer.value = (Context.round target 0).value) ∨
    Plug.normalize source ≠ target ∧
      ∃ value, answer.evaluator.cache[Plug.normalize source]? = some value ∧
        answer.value = (Context.round target value).value

/-- A query for a driven plug follows its connection, unless the value is known already. -/
theorem Sound.followsSource (h : e.Sound) {source target : String}
    (driven : e.context.graph.incoming? target = some source)
    (spelled : Plug.normalize text = target) (notBlank : Text.isBlankText text = false)
    (new : target ∉ (e.atFrame frame).cache) :
    FollowsSource ((Query.evaluate text frame).run e) source target := by
  subst spelled
  rcases h.evaluate_cases_of_not_blank notBlank frame with ⟨value, known, -⟩ |
    ⟨depth, value, later, -, visited, same⟩
  · simp [Std.ExtTreeMap.mem_iff_isSome_getElem?, known] at new
  · rw [same]
    refine (Descent.follows_of_visit driven new visited).imp_left fun ⟨self, zero⟩ => ?_
    exact ⟨List.mem_singleton.mp self, zero⟩

/-- A connection is found again by its target if normalizing leaves that as it is: the look-ups list
it, the last connection to the target drives it, and in every state that a session can leave an
evaluator in, a query for any spelling of the target follows that connection. -/
theorem finds_driven (nodes : List Node) (connections : List Connection)
    (curves : List (String × CurveShape α)) (rotation : RotationBlend α) (c : Connection) :
    let fresh := ofGraph (.ofRecords nodes connections) curves rotation
    let graph := fresh.context.graph
    let sources := (graph.connections.filter (·.target = c.target)).map (·.source)
    c ∈ graph.connections → Plug.normalize c.target = c.target →
    graph.incomingAll c.target = sources ∧ c.source ∈ sources ∧ c.target ∈ graph.drivenPlugs ∧
      ∃ source, sources.getLast? = some source ∧ graph.incoming? c.target = some source ∧
        ∀ session text frame, Plug.normalize text = c.target →
          let e := fresh.after session
          c.target ∉ (e.atFrame frame).cache →
          FollowsSource ((Query.evaluate text frame).run e) source c.target := by
  intro fresh graph sources kept fixed
  have all : graph.incomingAll c.target = sources := by
    have found : graph.incomingAll c.target =
        (graph.connections.filter (·.target = Plug.normalize c.target)).map (·.source) :=
      Graph.incomingAll_eq c.target
    rwa [fixed] at found
  have listed : c.source ∈ sources :=
    List.mem_map.mpr ⟨c, List.mem_filter.mpr ⟨kept, decide_eq_true rfl⟩, rfl⟩
  obtain ⟨source, last⟩ := Option.ne_none_iff_exists'.mp
    (mt List.getLast?_eq_none_iff.mp (List.ne_nil_of_mem listed))
  have driven : graph.incoming? c.target = some source := by
    rw [← last, ← all, Graph.incomingAll, Graph.incoming?, List.getLast?_reverse]
  refine ⟨all, listed, Graph.mem_drivenPlugs.mpr ⟨c, kept, rfl⟩, source, last, driven, ?_⟩
  intro session text frame spelled e new
  have sound : e.Sound := (sound_ofGraph nodes connections curves rotation).after session
  have driven' : e.context.graph.incoming? c.target = some source :=
    (Context.incoming?_congr (wiring_after session fresh) c.target).trans driven
  refine sound.followsSource driven' spelled (Bool.eq_false_iff.mpr fun blank => ?_) new
  exact Graph.target_ne_empty kept (spelled.symm.trans (Plug.normalize_of_blank blank))

/-- Two connections to one plug, of which one spells it with quotes. -/
theorem finds_driven_twice :
    let connections : List Connection := [⟨"a.x", " \"b.y\"", false⟩, ⟨"c.z", "b.y ", false⟩]
    let fresh : Evaluator Float := ofGraph (.ofRecords [] connections) [] slerpEuler
    fresh.context.graph.incomingAll "b.y" = ["a.x", "c.z"] ∧
      FollowsSource ((Query.evaluate "\"b.y\"" 1).run fresh) "c.z" "b.y" := by
  intro connections fresh
  have kept : (⟨"a.x", "b.y", false⟩ : Connection) ∈ fresh.context.graph.connections := by
    decide +kernel
  have sources : (fresh.context.graph.connections.filter (·.target = "b.y")).map (·.source) =
      ["a.x", "c.z"] := by
    decide +kernel
  have found := finds_driven (α := Float) [] connections [] slerpEuler ⟨"a.x", "b.y", false⟩ kept
    (by decide +kernel)
  refine ⟨found.1.trans sources, ?_⟩
  obtain ⟨source, last, -, follows⟩ := found.2.2.2
  obtain rfl : "c.z" = source := Option.some.inj ((congrArg List.getLast? sources).symm.trans last)
  exact follows [] "\"b.y\"" 1 (by decide +kernel) (by decide +kernel)

/-- A target in two pairs of quotes is stored with one pair, and listed among the driven plugs, but
no look-up finds it there. -/
theorem nested_quotes_not_found :
    let graph := Graph.ofRecords [] [⟨"a.x", "\"\"b.y\"\"", false⟩]
    graph.connections = [⟨"a.x", "\"b.y\"", false⟩] ∧ graph.drivenPlugs = ["\"b.y\""] ∧
      graph.incoming? "\"b.y\"" = none ∧ graph.incomingAll "\"b.y\"" = [] := by
  decide +kernel

end Evaluator

end PlugGraph
