import PlugGraph.Proofs.Blocked
import PlugGraph.Proofs.Cycles
import PlugGraph.Proofs.Epoch
import PlugGraph.Proofs.Precision

/-!
# Loops of connections

A plug is *endless* if the connections that drive it never lead back to a plug that nothing drives.
They lead to a loop then. Going down to a plug of a loop comes around to a caller, which counts as
zero, so all endless plugs are zero, whatever stands behind their nodes.

What drives a known plug is known as well, except for callers (`Graph.Steady`). A loop without a
caller is therefore known as a whole or not at all. It becomes known when something outside of it
reads one of its plugs, and the way around it reports one cycle: `Descent.rounds_of_visit`.
-/

namespace PlugGraph

open Relation
open Std (ExtTreeMap)

/-- The number of cycles that are reported at plugs of a list. -/
def Event.cycleCount {α : Type} (plugs : List String) (events : List (Event α)) : Nat :=
  (diagnostics events).countP fun d => d.kind = .cycle ∧ d.plug ∈ plugs

/-- Counts one if all plugs of a list are known. -/
def completed {α : Type} (plugs : List String) (cache : ExtTreeMap String α) : Nat :=
  if ∀ plug ∈ plugs, plug ∈ cache then 1 else 0

namespace Event

variable {α : Type} {plugs : List String} {events later : List (Event α)}

theorem cycleCount_append :
    cycleCount plugs (events ++ later) = cycleCount plugs events + cycleCount plugs later := by
  rw [cycleCount, diagnostics_append, List.countP_append]
  rfl

theorem cycleCount_of_acyclic (clean : Acyclic events) : cycleCount plugs events = 0 := by
  refine List.countP_eq_zero.mpr fun d member => ?_
  simpa using fun cycle => absurd cycle (clean d member)

theorem cycleCount_reportCycle {notes : Notes α} {reader plug : String}
    (new : (reader, plug) ∉ notes.reported) :
    cycleCount plugs (notes.reportCycle reader plug).events.toList =
      cycleCount plugs notes.events.toList + if plug ∈ plugs then 1 else 0 := by
  rw [Notes.reportCycle_of_not_mem new, Array.toList_push, cycleCount_append]
  simp [cycleCount, diagnostics, Diagnostic.kind, Cause.kind]

end Event

namespace Notes

variable {α : Type}

/-- Nothing has been read by a plug of a loop, unless one of them is known. -/
structure Unread (notes : Notes α) (loop : List String) : Prop where
  outside : (∀ plug ∈ loop, plug ∉ notes.cache) → ∀ pair ∈ notes.reported, pair.1 ∉ loop

/-- What a part of a descent does to a loop without a caller: a cycle is reported at it in the part
in which it becomes known. -/
structure Rounds (notes : Notes α) (loop : List String) (later : Notes α) : Prop where
  unread : later.Unread loop
  count : Event.cycleCount loop later.events.toList + completed loop notes.cache =
    Event.cycleCount loop notes.events.toList + completed loop later.cache

namespace Rounds

variable {loop : List String} {reader plug : String} {notes between later : Notes α}

theorem refl (unread : notes.Unread loop) : notes.Rounds loop notes := ⟨unread, rfl⟩

theorem trans (h : notes.Rounds loop between) (h' : between.Rounds loop later) :
    notes.Rounds loop later := by
  have first := h.count
  have second := h'.count
  exact ⟨h'.unread, by omega⟩

theorem visit (unread : notes.Unread loop) (plug : String) : notes.Rounds loop (notes.visit plug) :=
  ⟨⟨unread.outside⟩, rfl⟩

/-- A plug outside of the loop that reads another one makes no difference. -/
theorem reportCycle (unread : notes.Unread loop) (outside : reader ∉ loop) (other : plug ∉ loop) :
    notes.Rounds loop (notes.reportCycle reader plug) := by
  by_cases before : (reader, plug) ∈ notes.reported
  · rw [Notes.reportCycle_of_mem before]
    exact refl unread
  · refine ⟨⟨fun none pair marked => ?_⟩, ?_⟩
    · rw [Notes.reportCycle_cache] at none
      rw [Notes.reportCycle_of_not_mem before] at marked
      rcases Std.ExtHashSet.mem_insert.mp marked with same | marked
      · exact beq_iff_eq.mp same ▸ outside
      · exact unread.outside none pair marked
    · rw [Event.cycleCount_reportCycle before, if_neg other, Notes.reportCycle_cache]
      rfl

/-- Neither does settling such a plug. -/
theorem keep (unread : notes.Unread loop) (outside : plug ∉ loop)
    {settled : Context.Settled α} (clean : Acyclic settled.events) :
    notes.Rounds loop (notes.keep plug settled) := by
  have same (other : String) (inside : other ∈ loop) :
      other ∈ (notes.keep plug settled).cache ↔ other ∈ notes.cache := by
    have different : plug ≠ other := fun same => outside (same ▸ inside)
    simp [Notes.keep, different]
  refine ⟨⟨fun none => ?_⟩, ?_⟩
  · exact unread.outside fun other inside => mt (same other inside).mpr (none other inside)
  · have whole : completed loop (notes.keep plug settled).cache = completed loop notes.cache :=
      if_congr (forall₂_congr same) rfl rfl
    rw [whole, Notes.toList_events_keep, Event.cycleCount_append,
      Event.cycleCount_of_acyclic clean]
    rfl

end Rounds

end Notes

namespace Graph

def DrivenBy (graph : Graph) (plug source : String) : Prop := graph.incoming? plug = some source

instance (graph : Graph) (plug source : String) : Decidable (graph.DrivenBy plug source) :=
  inferInstanceAs (Decidable (graph.incoming? plug = some source))

/-- The connections that drive a plug never lead back to a plug that nothing drives. -/
def Endless (graph : Graph) (plug : String) : Prop :=
  ∀ origin, ReflTransGen graph.DrivenBy plug origin → (graph.incoming? origin).isSome = true

/-- Plugs that connections lead around: each is driven by one of them, and each comes from each. -/
structure IsLoop (graph : Graph) (loop : List String) : Prop where
  driven : ∀ plug ∈ loop, ∃ source ∈ loop, graph.DrivenBy plug source
  connected : ∀ plug ∈ loop, ∀ origin ∈ loop, ReflTransGen graph.DrivenBy plug origin

variable {graph : Graph} {plug source : String} {loop : List String}

theorem drivenBy_unique (graph : Graph) : Relator.RightUnique graph.DrivenBy :=
  fun _ _ _ driven driven' => Option.some.inj (driven.symm.trans driven')

/-- Whatever drives the plugs of a cycle is on it. -/
theorem reflTransGen_of_transGen_self (cycle : TransGen graph.DrivenBy plug plug)
    (leads : ReflTransGen graph.DrivenBy plug source) :
    ReflTransGen graph.DrivenBy source plug := by
  induction leads with
  | refl => exact .refl
  | tail _ driven ih =>
    rcases ReflTransGen.cases_head ih with rfl | ⟨next, first, rest⟩
    · obtain ⟨next, first, rest⟩ := TransGen.head'_iff.mp cycle
      rwa [graph.drivenBy_unique driven first]
    · rwa [graph.drivenBy_unique driven first]

namespace Endless

theorem of_drivenBy (h : graph.Endless plug) (driven : graph.DrivenBy plug source) :
    graph.Endless source :=
  fun origin leads => h origin (.head driven leads)

theorem exists_drivenBy (h : graph.Endless plug) : ∃ source, graph.DrivenBy plug source :=
  Option.isSome_iff_exists.mp (h plug .refl)

theorem not_isBlankText {nodes : List Node} {connections : List Connection}
    (h : (ofRecords nodes connections).Endless plug) :
    Text.isBlankText plug = false := by
  obtain ⟨source, driven⟩ := h.exists_drivenBy
  obtain ⟨c, kept, leads, -⟩ := exists_connection_of_incoming? driven
  refine Bool.eq_false_iff.mpr fun blank => target_ne_empty kept ?_
  rw [leads, Plug.normalize_of_blank blank]

/-- A plug that comes to itself by readings is on a loop if connections alone lead back from it. -/
theorem transGen_of_reads {origin : String} (h : graph.Endless plug)
    (reads : TransGen (fun plug asked => graph.Endless plug → graph.DrivenBy plug asked)
      plug origin) :
    TransGen graph.DrivenBy plug origin := by
  suffices TransGen graph.DrivenBy plug origin ∧ graph.Endless origin from this.1
  induction reads with
  | single read => exact ⟨.single (read h), h.of_drivenBy (read h)⟩
  | tail _ read ih => exact ⟨.tail ih.1 (read ih.2), ih.2.of_drivenBy (read ih.2)⟩

/-- There are finitely many sources, so the way back from a plug gets to a loop. -/
theorem exists_loop {nodes : List Node} {connections : List Connection}
    (h : (ofRecords nodes connections).Endless plug) :
    ∃ loop, (ofRecords nodes connections).IsLoop loop ∧
      ∃ first ∈ loop, ReflTransGen (ofRecords nodes connections).DrivenBy plug first := by
  classical
  let graph := ofRecords nodes connections
  let sources := graph.connections.map (·.source)
  have isSource {plug source : String} (driven : graph.DrivenBy plug source) :
      source ∈ sources := by
    obtain ⟨c, kept, -, rfl⟩ := exists_connection_of_incoming? driven
    exact List.mem_map_of_mem kept
  have finite : {origin | ReflTransGen graph.DrivenBy plug origin}.Finite := by
    refine (List.finite_toSet (plug :: sources)).subset fun origin leads => ?_
    rcases ReflTransGen.cases_tail leads with rfl | ⟨_, -, driven⟩
    · exact List.mem_cons_self
    · exact List.mem_cons_of_mem _ (isSource driven)
  have serial (origin : String) (leads : ReflTransGen graph.DrivenBy plug origin) :
      ∃ source, graph.DrivenBy origin source :=
    Option.isSome_iff_exists.mp (h origin leads)
  obtain ⟨first, leads, cycle⟩ := Blocked.exists_cycle finite (fun origin leads =>
    (serial origin leads).imp fun source driven => ⟨leads.tail driven, driven⟩) .refl
  -- The loop consists of what the connections to `first` come from.
  have listed {origin : String} :
      origin ∈ sources.filter (ReflTransGen graph.DrivenBy first ·) ↔
        ReflTransGen graph.DrivenBy first origin := by
    rw [List.mem_filter, decide_eq_true_eq, and_iff_right_iff_imp]
    intro leads
    rcases ReflTransGen.cases_tail leads with rfl | ⟨_, -, driven⟩
    · obtain ⟨_, -, driven⟩ := TransGen.tail'_iff.mp cycle
      exact isSource driven
    · exact isSource driven
  refine ⟨_, ⟨fun plug member => ?_, fun plug member origin member' => ?_⟩, first,
    listed.mpr .refl, leads⟩
  · obtain ⟨source, driven⟩ := serial plug (leads.trans (listed.mp member))
    exact ⟨source, listed.mpr (.tail (listed.mp member) driven), driven⟩
  · exact (reflTransGen_of_transGen_self cycle (listed.mp member)).trans (listed.mp member')

end Endless

namespace IsLoop

theorem mem_of_drivenBy (h : graph.IsLoop loop) (member : plug ∈ loop)
    (driven : graph.DrivenBy plug source) : source ∈ loop := by
  obtain ⟨source', member', driven'⟩ := h.driven plug member
  exact graph.drivenBy_unique driven' driven ▸ member'

/-- What a loop drives is endless. -/
theorem endless (h : graph.IsLoop loop) (member : source ∈ loop)
    (driven : graph.DrivenBy plug source) : graph.Endless plug := by
  intro origin leads
  rcases ReflTransGen.cases_head leads with rfl | ⟨next, first, rest⟩
  · exact Option.isSome_of_eq_some driven
  · have inside : origin ∈ loop := by
      induction rest with
      | refl => exact graph.drivenBy_unique driven first ▸ member
      | tail rest step ih => exact h.mem_of_drivenBy (ih (.head first rest)) step
    obtain ⟨source', -, driven'⟩ := h.driven origin inside
    exact Option.isSome_of_eq_some driven'

end IsLoop

/-- What is known of driven plugs while `callers` are under way: endless ones are zero, and what
drives a known plug is known as well, unless it is a caller. -/
structure Steady {α : Type} [Scalar α] (graph : Graph) (callers : List String)
    (cache : ExtTreeMap String α) : Prop where
  zero : ∀ plug value, graph.Endless plug → cache[plug]? = some value → value = 0
  source : ∀ plug source, graph.DrivenBy plug source → plug ∈ cache →
    source ∈ cache ∨ source ∈ callers

namespace Steady

variable {α : Type} [Scalar α] {callers : List String} {cache : ExtTreeMap String α}

theorem empty (graph : Graph) (callers : List String) :
    graph.Steady callers (∅ : ExtTreeMap String α) :=
  ⟨by simp, by simp⟩

theorem cons (h : graph.Steady callers cache) (plug : String) :
    graph.Steady (plug :: callers) cache where
  zero := h.zero
  source plug source driven known := (h.source plug source driven known).imp_right (.tail _)

/-- A plug that is settled is no caller any more. -/
theorem insert (h : graph.Steady (plug :: callers) cache) {value : α}
    (zero : graph.Endless plug → value = 0)
    (source : ∀ source, graph.DrivenBy plug source → source ∈ cache ∨ source ∈ plug :: callers) :
    graph.Steady callers (cache.insert plug value) where
  zero := by
    intro other value' endless known
    rw [ExtTreeMap.getElem?_insert] at known
    split at known
    · next same =>
      cases known
      exact zero (Std.compare_eq_iff_eq.mp same ▸ endless)
    · exact h.zero other value' endless known
  source := by
    intro other origin driven known
    have found : origin ∈ cache ∨ origin ∈ plug :: callers := by
      rcases ExtTreeMap.mem_insert.mp known with same | known
      · exact source origin (Std.compare_eq_iff_eq.mp same ▸ driven)
      · exact h.source other origin driven known
    simp only [ExtTreeMap.mem_insert, Std.compare_eq_iff_eq]
    rcases found with known | under
    · exact .inl (.inr known)
    · exact (List.mem_cons.mp under).imp_left fun same => .inl same.symm

/-- A loop without a caller is known as a whole or not at all. -/
theorem known_of_mem (h : graph.Steady callers cache) (isLoop : graph.IsLoop loop)
    (outside : ∀ plug ∈ loop, plug ∉ callers) (member : plug ∈ loop) (known : plug ∈ cache) :
    ∀ origin ∈ loop, origin ∈ cache := by
  have along {origin : String} (leads : ReflTransGen graph.DrivenBy plug origin) :
      origin ∈ loop ∧ origin ∈ cache := by
    induction leads with
    | refl => exact ⟨member, known⟩
    | tail _ driven ih =>
      have inside := isLoop.mem_of_drivenBy ih.1 driven
      exact ⟨inside, (h.source _ _ driven ih.2).resolve_right (outside _ inside)⟩
  exact fun origin inside => (along (isLoop.connected plug member origin inside)).2

theorem mem_of_leads (h : graph.Steady [] cache) (known : plug ∈ cache)
    (leads : ReflTransGen graph.DrivenBy plug source) : source ∈ cache := by
  induction leads with
  | refl => exact known
  | tail _ driven ih => exact (h.source _ _ driven ih).resolve_right List.not_mem_nil

end Steady

end Graph

namespace Context

variable {α : Type}

/-- Connections as a graph has them, whose sources normalizing leaves alone. -/
structure Wired (c : Context α) (graph : Graph) : Prop where
  incoming : ∀ text, c.graph.incoming? text = graph.incoming? text
  fixed : ∀ plug source, graph.DrivenBy plug source → Plug.normalize source = source

variable [Scalar α]

theorem Wired.reading {c : Context α} {graph : Graph} (h : c.Wired graph) {plug source : String}
    (driven : graph.DrivenBy plug source) (frame : α) :
    c.reading frame plug = .ask source fun value => .done (.result (.value value)) := by
  rw [reading_of_incoming? ((h.incoming plug).trans driven), h.fixed plug source driven]

end Context

namespace Descent

variable {α : Type} [Scalar α] {c : Context α} {frame : α} {graph : Graph}
  {callers : List String} {reader plug source : String} {notes later : Notes α} {value : α}

theorem exists_read_of_answer_wired (wired : c.Wired graph) (driven : graph.DrivenBy plug source)
    {descend : String → Descent α α} {outcome : Outcome α}
    (answered : ((c.reading frame plug).answerM (read descend callers reader)).run notes =
      some (outcome, later)) :
    ∃ found, (read descend callers reader source).run notes = some (found, later) ∧
      outcome = .result (.value found) := by
  have read := exists_read_of_answer ((wired.incoming plug).trans driven) answered
  rwa [wired.fixed plug source driven] at read

/-- Going down to a plug keeps the notes steady. -/
theorem steady_of_visit [Scalar.LawfulSingle α] (wired : c.Wired graph) {depth : Nat}
    (steady : graph.Steady callers notes.cache)
    (visited : (visit c frame depth callers plug).run notes = some (value, later)) :
    graph.Steady callers later.cache := by
  induction depth generalizing callers plug notes value later with
  | zero => cases visited
  | succ depth ih =>
    obtain ⟨_, outcome, between, ⟨⟩, answered, rfl, rfl⟩ := exists_of_visit visited
    have kept : graph.Steady (plug :: callers) between.cache := by
      refine related_of_answer
        (r := fun notes later => graph.Steady (plug :: callers) notes.cache →
          graph.Steady (plug :: callers) later.cache)
        (fun _ => id) (fun first second => second ∘ first) (fun _ _ steady => ?_)
        (fun _ _ _ went steady => ih steady went) (.any _) answered (steady.cons plug)
      rwa [Notes.reportCycle_cache]
    have settled {source : String} (driven : graph.DrivenBy plug source) :
        ∃ found, outcome = .result (.value found) ∧
          ((source ∈ plug :: callers ∧ found = 0) ∨ between.cache[source]? = some found) := by
      obtain ⟨found, replied, same⟩ := exists_read_of_answer_wired wired driven answered
      exact ⟨found, same, (known_of_read replied).imp_right And.left⟩
    refine kept.insert (fun endless => ?_) fun source driven => ?_
    · obtain ⟨source, driven⟩ := endless.exists_drivenBy
      obtain ⟨found, rfl, which⟩ := settled driven
      have zero : found = 0 := which.elim And.right
        (kept.zero source found (endless.of_drivenBy driven))
      rw [zero]
      exact congrArg Context.Settled.value (Context.round_of_isSingle plug Scalar.isSingle_zero)
    · obtain ⟨found, -, which⟩ := settled driven
      refine which.symm.imp (fun known => ?_) And.left
      rw [ExtTreeMap.mem_iff_isSome_getElem?, known]
      rfl

/-- Going down to a loop reports a cycle where the way around it has come to a caller. -/
theorem cycleCount_of_visit_loop (wired : c.Wired graph) {loop : List String}
    (isLoop : graph.IsLoop loop) (member : plug ∈ loop)
    (unknown : ∀ plug ∈ loop, plug ∉ notes.cache)
    (unread : ∀ pair ∈ notes.reported, pair.1 ∉ loop) {depth : Nat}
    (visited : (visit c frame depth callers plug).run notes = some (value, later)) :
    Event.cycleCount loop later.events.toList = Event.cycleCount loop notes.events.toList + 1 := by
  induction depth generalizing callers plug notes value later with
  | zero => cases visited
  | succ depth ih =>
    obtain ⟨_, outcome, between, ⟨⟩, answered, -, rfl⟩ := exists_of_visit visited
    obtain ⟨source, inside, driven⟩ := isLoop.driven plug member
    obtain ⟨found, replied, rfl⟩ := exists_read_of_answer_wired wired driven answered
    have before : Event.cycleCount loop between.events.toList =
        Event.cycleCount loop notes.events.toList + 1 := by
      rcases read_cases replied with ⟨known, -⟩ | ⟨-, ⟨-, -, rfl⟩ | ⟨-, went⟩⟩
      · refine absurd (ExtTreeMap.mem_iff_isSome_getElem?.mpr ?_) (unknown source inside)
        exact Option.isSome_of_eq_some known
      · have new : (plug, source) ∉ (notes.visit plug).reported := fun pair =>
          unread _ pair member
        rw [Event.cycleCount_reportCycle new, if_pos inside]
        rfl
      · have further : Event.cycleCount loop between.events.toList =
            Event.cycleCount loop (notes.visit plug).events.toList + 1 :=
          ih inside unknown unread went
        exact further
    have clean : Acyclic (c.settle plug (.result (.value found))).events :=
      c.acyclic_settle plug trivial
    rw [Notes.toList_events_keep, Event.cycleCount_append, before,
      Event.cycleCount_of_acyclic clean]

theorem rounds_of_visit [Scalar.LawfulSingle α] (wired : c.Wired graph) {loop : List String}
    (isLoop : graph.IsLoop loop) (outside : ∀ plug ∈ loop, plug ∉ callers)
    (steady : graph.Steady callers notes.cache) (unread : notes.Unread loop)
    (unknown : notes.cache[plug]? = none) {depth : Nat}
    (visited : (visit c frame depth callers plug).run notes = some (value, later)) :
    notes.Rounds loop later := by
  induction depth generalizing callers plug notes value later with
  | zero => cases visited
  | succ depth ih =>
    by_cases member : plug ∈ loop
    · have absent : ∀ other ∈ loop, other ∉ notes.cache := fun other inside known => by
        have all := steady.known_of_mem isLoop outside inside known plug member
        simp [ExtTreeMap.mem_iff_isSome_getElem?, unknown] at all
      have whole : ∀ other ∈ loop, other ∈ later.cache := by
        refine (steady_of_visit wired steady visited).known_of_mem isLoop outside member ?_
        exact ExtTreeMap.mem_iff_isSome_getElem?.mpr
          (Option.isSome_of_eq_some (known_of_visit visited))
      refine ⟨⟨fun none => absurd (whole plug member) (none plug member)⟩, ?_⟩
      rw [cycleCount_of_visit_loop wired isLoop member absent (unread.outside absent) visited,
        completed, completed, if_neg fun all => absent plug member (all plug member), if_pos whole]
    · obtain ⟨_, outcome, between, ⟨⟩, answered, -, rfl⟩ := exists_of_visit visited
      have outside' : ∀ other ∈ loop, other ∉ plug :: callers := fun other inside under =>
        (List.mem_cons.mp under).elim (fun same => member (same ▸ inside)) (outside other inside)
      have first : notes.Rounds loop (notes.visit plug) := .visit unread plug
      have kept : graph.Steady (plug :: callers) between.cache ∧
          (notes.visit plug).Rounds loop between := by
        refine related_of_answer
          (r := fun notes later => graph.Steady (plug :: callers) notes.cache →
            notes.Unread loop → graph.Steady (plug :: callers) later.cache ∧
              notes.Rounds loop later)
          (fun _ steady unread => ⟨steady, .refl unread⟩) (fun first second steady unread => ?_)
          (fun _ stacked steady unread => ?_) (fun _ unknown _ went steady unread => ?_)
          (.any _) answered (steady.cons plug) first.unread
        · obtain ⟨steady, there⟩ := first steady unread
          obtain ⟨steady, further⟩ := second steady there.unread
          exact ⟨steady, there.trans further⟩
        · rw [Notes.reportCycle_cache]
          exact ⟨steady, .reportCycle unread member fun inside => outside' _ inside stacked⟩
        · exact ⟨steady_of_visit wired steady went, ih outside' steady unread unknown went⟩
      have regular := ends_of_answer (c.endsIn_reading frame plug) answered
      exact (first.trans kept.2).trans (.keep kept.2.unread member (c.acyclic_settle plug regular))

end Descent

namespace Context

theorem Wired.congr {α : Type} {c c' : Context α} {graph : Graph} (h : c.Wired graph)
    (same : c'.wiring = c.wiring) : c'.Wired graph where
  incoming text := (incoming?_congr same text).trans (h.incoming text)
  fixed := h.fixed

end Context

namespace Evaluator

variable {α : Type} [Scalar α] [Scalar.LawfulSingle α] {e : Evaluator α} {graph : Graph}
  {loop : List String} {text : String}

/-- An evaluator between operations whose connections are those of a graph. -/
structure Steady (graph : Graph) (e : Evaluator α) : Prop where
  sound : e.Sound
  wired : e.context.Wired graph
  cache : graph.Steady [] e.cache

namespace Steady

omit [Scalar.LawfulSingle α] in
theorem atFrame (h : e.Steady graph) (frame : α) : (e.atFrame frame).Steady graph where
  sound := h.sound.atFrame frame
  wired := by
    rw [atFrame_context]
    exact h.wired
  cache := by
    unfold Evaluator.atFrame
    split
    · exact h.cache
    · exact .empty graph []

theorem evaluate (h : e.Steady graph) (text : String) (frame : α) :
    ((Query.evaluate text frame).run e).evaluator.Steady graph where
  sound := h.sound.evaluate text frame
  wired := h.wired.congr (wiring_evaluate text frame e)
  cache := by
    have turned := (h.atFrame frame).cache
    rcases h.sound.evaluate_cases text frame with ⟨-, same⟩ | ⟨-, ⟨_, -, same⟩ |
      ⟨depth, value, later, visited, same⟩⟩ <;> rw [same]
    · exact h.cache
    · exact turned
    · exact Descent.steady_of_visit h.wired turned visited

omit [Scalar.LawfulSingle α] in
/-- Cycles are reported at plugs of loops, as far as connections alone decide. -/
theorem cyclesAt_evaluate (h : e.Steady graph) (text : String) (frame : α) :
    CyclesAt (fun plug => graph.Endless plug → TransGen graph.DrivenBy plug plug)
      ((Query.evaluate text frame).run e).events := by
  have asks (plug : String) : (e.context.reading frame plug).AsksOnly
      fun asked => graph.Endless plug → graph.DrivenBy plug asked := by
    by_cases endless : graph.Endless plug
    · obtain ⟨source, driven⟩ := endless.exists_drivenBy
      rw [h.wired.reading driven]
      exact ⟨fun _ => driven, fun _ => trivial⟩
    · exact (h.sound.asksOnly plug frame plug).mono fun _ _ endless' => absurd endless' endless
  rcases h.sound.evaluate_cases text frame with ⟨-, same⟩ | ⟨-, ⟨_, -, same⟩ |
    ⟨depth, value, later, visited, same⟩⟩ <;> rw [same]
  · exact .nil
  · exact .nil
  · have traced := Descent.traced_visit asks (by simp) .nil visited
    exact traced.mono fun plug reads endless => endless.transGen_of_reads reads

theorem upholds_perform (graph : Graph) (operation : Operation α) :
    operation.perform.Upholds (Steady graph)
      (CyclesAt fun plug => graph.Endless plug → TransGen graph.DrivenBy plug plug) := by
  refine operation.upholds_perform ⟨.nil, .append⟩ ?evaluate ?program ?reset ?setNode ?eraseNode
  case evaluate =>
    exact fun text frame _ h => ⟨h.evaluate text frame, h.cyclesAt_evaluate text frame⟩
  case program => exact fun node _ h => ⟨h.sound.program node, h.wired.congr rfl, h.cache⟩
  case reset => exact fun _ h => ⟨h.sound.reset, h.wired.congr rfl, .empty graph []⟩
  case setNode =>
    exact fun name node _ _ h => ⟨h.sound.setNode name node, h.wired.congr rfl, h.cache⟩
  case eraseNode => exact fun name _ h => ⟨h.sound.eraseNode name, h.wired.congr rfl, h.cache⟩

theorem perform (h : e.Steady graph) (operation : Operation α) :
    (operation.perform.run e).evaluator.Steady graph :=
  (upholds_perform graph operation e h).1

/-- An endless plug is zero. -/
theorem value_evaluate (h : e.Steady graph) (endless : graph.Endless (Plug.normalize text))
    (frame : α) : ((Query.evaluate text frame).run e).value = 0 := by
  cases blank : Text.isBlankText text with
  | true =>
    rw [Query.evaluate_of_blank blank]
    rfl
  | false =>
    exact (h.evaluate text frame).cache.zero _ _ endless (h.sound.known_evaluate blank frame)

end Steady

omit [Scalar.LawfulSingle α] in
theorem steady_ofGraph (nodes : List Node) (connections : List Connection)
    (curves : List (String × CurveShape α)) (rotation : RotationBlend α)
    (normal : (Graph.ofRecords nodes connections).Normal) :
    (ofGraph (.ofRecords nodes connections) curves rotation).Steady
      (.ofRecords nodes connections) where
  sound := sound_ofGraph nodes connections curves rotation
  wired :=
    { incoming := fun _ => rfl
      fixed := by
        intro plug source driven
        obtain ⟨c, kept, -, rfl⟩ := Graph.exists_connection_of_incoming? driven
        exact (normal c kept).1 }
  cache := .empty _ []

/-- A loop is reported in the part of a session in which it becomes known. -/
theorem chain_rounds (isLoop : graph.IsLoop loop) :
    Report.Chain (Steady (α := α) graph) fun before after log =>
      (log.map Report.diagnostic).countP (fun d => d.kind = .cycle ∧ d.plug ∈ loop) +
        completed loop before = completed loop after where
  sound h := h.sound
  perform operation _ h := h.perform operation
  atFrame frame _ h := h.atFrame frame
  nothing _ := Nat.zero_add _
  append first second := by
    rw [List.map_append, List.countP_append]
    omega
  evaluate := by
    intro text frame e h notBlank holds
    have cases := h.sound.evaluate_cases_of_not_blank notBlank frame
    rw [atFrame_of_holds holds] at cases
    rw [Query.diagnostics_evaluate]
    rcases cases with ⟨_, -, same⟩ | ⟨depth, value, later, unknown, visited, same⟩ <;> rw [same]
    · exact Nat.zero_add _
    · have unread : (Notes.start e.cache).Unread loop :=
        ⟨fun _ pair marked => by simp [Notes.start] at marked⟩
      have rounds := Descent.rounds_of_visit h.wired isLoop (by simp) h.cache unread unknown visited
      exact rounds.count.trans (Nat.zero_add _)

omit [Scalar.LawfulSingle α] in
/-- What has been asked for is known while nothing is forgotten. -/
theorem Sound.mem_after (h : e.Sound) {session : List (Operation α)} {frame : α}
    (stays : ∀ operation ∈ session, operation.Stays e) (asked : .evaluate text frame ∈ session)
    (notBlank : Text.isBlankText text = false) :
    Plug.normalize text ∈ (e.after session).cache := by
  induction session generalizing e with
  | nil => cases asked
  | cons operation rest ih =>
    obtain ⟨first, others⟩ := List.forall_mem_cons.mp stays
    have keeps := h.keeps_perform first
    have sound := h.perform operation
    have others : ∀ other ∈ rest, other.Stays (operation.perform.run e).evaluator :=
      fun other member => keeps.stays (others other member)
    rcases List.mem_cons.mp asked with rfl | asked
    · refine (sound.keeps_after others).grows _ (ExtTreeMap.mem_iff_isSome_getElem?.mpr ?_)
      simp only [Operation.perform, Query.run_map]
      exact Option.isSome_of_eq_some (h.known_evaluate notBlank frame)
    · exact ih sound others asked

/-- A plug whose connections never lead back to an undriven plug is zero in every state that a
session can leave an evaluator in. They lead to a loop, and no cycle is ever reported at such a plug
outside of a loop. In an epoch that begins with a question at another frame than before, all plugs
of the loop become known or none, with one report of a cycle at them in the first case and no report
in the second. A query for the plug makes them known. -/
theorem loops_are_zero (nodes : List Node) (connections : List Connection)
    (curves : List (String × CurveShape α)) (rotation : RotationBlend α)
    (earlier : List (Operation α)) (plug : String) :
    let graph := Graph.ofRecords nodes connections
    let e := (ofGraph graph curves rotation).after earlier
    graph.Normal → Plug.normalize plug = plug → graph.Endless plug →
    (∀ frame, ((Query.evaluate plug frame).run e).value = 0) ∧
    (∃ loop, graph.IsLoop loop ∧ ∃ first ∈ loop, ReflTransGen graph.DrivenBy plug first) ∧
    (∀ session, CyclesAt (fun other => graph.Endless other → TransGen graph.DrivenBy other other)
      ((Operation.performAll session).run e).events) ∧
    ∀ loop, graph.IsLoop loop → (∃ first ∈ loop, ReflTransGen graph.DrivenBy plug first) →
    ∀ session anchor frame, e.Epoch anchor session →
      session.findSome? Operation.frame? = some frame → e.holds frame = false →
      let later := (e.after session).cache
      let cycles := Event.cycleCount loop ((Operation.performAll session).run e).events
      ((∀ origin ∈ loop, origin ∈ later) ∧ cycles = 1 ∨
        (∀ origin ∈ loop, origin ∉ later) ∧ cycles = 0) ∧
      ∀ frame, .evaluate plug frame ∈ session → ∀ origin ∈ loop, origin ∈ later := by
  intro graph e normal fixed endless
  have steady : e.Steady graph :=
    after_induction (p := Steady graph) (fun operation _ h => h.perform operation)
      (steady_ofGraph nodes connections curves rotation normal) earlier
  have cycles (session : List (Operation α)) :=
    have perform (operation) (_ : operation ∈ session) := Steady.upholds_perform graph operation
    (Operation.upholds_performAll ⟨.nil, .append⟩ perform e steady).2
  refine ⟨steady.value_evaluate (fixed.symm ▸ endless), endless.exists_loop, cycles, ?_⟩
  rintro loop isLoop ⟨first, inside, leads⟩ session anchor frame epoch asked away later cycles
  obtain ⟨front, back, rfl, silent, cleared, stays, same, taken⟩ := epoch.exists_start asked
  have chain := chain_rounds (α := α) isLoop
  have start := chain.atFrame frame (chain.after steady front)
  have known := (chain.after start back).cache
  have rounds := chain.of_session start stays
  rw [cleared, cache_atFrame away, taken, diagnostics_reports, same] at rounds
  rw [same] at known
  have nothing : completed loop (∅ : ExtTreeMap String α) = 0 :=
    if_neg fun all => by simpa using all first inside
  rw [nothing, Nat.add_zero] at rounds
  have outside : ∀ origin ∈ loop, origin ∉ ([] : List String) := fun _ _ => List.not_mem_nil
  refine ⟨?_, fun frame' asks => ?_⟩
  · by_cases whole : ∀ origin ∈ loop, origin ∈ later
    · exact .inl ⟨whole, rounds.trans (if_pos whole)⟩
    · refine .inr ⟨fun origin member there => whole ?_, rounds.trans (if_neg whole)⟩
      exact known.known_of_mem isLoop outside member there
  · have notBlank := endless.not_isBlankText
    have asks : .evaluate plug frame' ∈ back := by
      refine (List.mem_append.mp asks).resolve_left fun member => ?_
      simpa [Operation.frame?, notBlank] using silent _ member
    have there := start.sound.mem_after stays asks notBlank
    rw [same, fixed] at there
    exact known.known_of_mem isLoop outside inside (known.mem_of_leads there leads)

/-- A ring of two plugs is entered from a sum, and then asked for by way of a third plug. -/
theorem loops_are_zero_ring :
    let nodes : List Node := [⟨"sum", "addDoubleLinear", [⟨"input2", ["7"]⟩]⟩]
    let connections : List Connection := [⟨"b.x", "a.x", false⟩, ⟨"a.x", "b.x", false⟩,
      ⟨"a.x", "c.x", false⟩, ⟨"b.x", "sum.input1", false⟩]
    let e : Evaluator Float :=
      (ofGraph (.ofRecords nodes connections) [] slerpEuler).after [.evaluate "a.x" 5]
    let session := [.evaluate "sum.output" 1, .evaluate "c.x" 1, .evaluate "b.x" 1]
    ((Query.evaluate "c.x" 3).run e).value = 0 ∧
      Event.cycleCount ["a.x", "b.x"] ((Operation.performAll session).run e).events = 1 := by
  intro nodes connections e session
  let graph := Graph.ofRecords nodes connections
  have a : graph.DrivenBy "a.x" "b.x" := by decide +kernel
  have b : graph.DrivenBy "b.x" "a.x" := by decide +kernel
  have c : graph.DrivenBy "c.x" "a.x" := by decide +kernel
  have isLoop : graph.IsLoop ["a.x", "b.x"] := by
    refine ⟨by simpa using ⟨.inr a, .inl b⟩, ?_⟩
    simpa using ⟨⟨.refl, .single a⟩, .single b, .refl⟩
  have away : e.holds 1 = false := by decide +kernel
  have frames : session.filterMap Operation.frame? = [1, 1, 1] := by decide +kernel
  have asked : session.findSome? Operation.frame? = some 1 := by decide +kernel
  have epoch : e.Epoch 1 session := by
    refine ⟨by simp [session], fun operation member frame asks => ?_, fun frame first => ?_⟩
    · have listed : frame ∈ [1, 1, 1] :=
        frames ▸ List.mem_filterMap.mpr ⟨operation, member, asks⟩
      obtain rfl : frame = 1 := by simpa using listed
      decide +kernel
    · obtain rfl := Option.some.inj (asked.symm.trans first)
      rw [anchor_atFrame, away]
      rfl
  have normal : graph.Normal := by
    unfold Graph.Normal
    decide +kernel
  obtain ⟨zero, -, -, rounds⟩ := loops_are_zero (α := Float) nodes connections [] slerpEuler
    [.evaluate "a.x" 5] "c.x" normal (by decide +kernel) (isLoop.endless List.mem_cons_self c)
  obtain ⟨count, known⟩ := rounds _ isLoop ⟨"a.x", List.mem_cons_self, .single c⟩ session 1 1 epoch
    asked away
  have all := known 1 (by simp [session])
  rcases count with ⟨-, once⟩ | ⟨none, -⟩
  · exact ⟨zero 3, once⟩
  · exact absurd (all "a.x" List.mem_cons_self) (none "a.x" List.mem_cons_self)

end Evaluator

end PlugGraph
