import Mathlib.Data.List.Nodup
import PlugGraph.Proofs.Meaning

/-!
# What a walk reports

A reading is attempted again and again until all of its inputs are known, and a plug may be reached
from many others. A walk nevertheless reports nothing twice. What comes with the value of a plug is
reported when the plug is settled, and it is settled once. Plugs under way that it reads are
remembered in pairs with it.

To say so, every report is taken down with the plug that was being computed when it was made, the
topmost one of the walk: `Walk.reports`. `Logged` is what holds of the reports taken down so far.
-/

namespace PlugGraph

open Std (ExtTreeMap)

variable {α ω : Type}

/-- A report together with the plug that was being computed when it was made. -/
structure Report where
  reader : String
  diagnostic : Diagnostic
deriving DecidableEq, Repr

namespace Report

/-- The report of a plug under way that `reader` reads. -/
def cycle (reader plug : String) : Report := ⟨reader, ⟨plug, .beingResolved⟩⟩

/-- What tells reports apart. -/
def key (r : Report) : String × String × DiagnosticKind :=
  (r.reader, r.diagnostic.plug, r.diagnostic.kind)

/-- The reports that a query makes while a plug is being computed. -/
def within (reader : String) (events : List (Event α)) : List Report :=
  (Event.diagnostics events).map (⟨reader, ·⟩)

/-- Logs of which each tells its reports apart, and that share none. -/
theorem nodup_append {log later : List Report} (h : (log.map key).Nodup)
    (h' : (later.map key).Nodup) (apart : ∀ r ∈ log, ∀ r' ∈ later, r'.key ≠ r.key) :
    ((log ++ later).map key).Nodup := by
  rw [List.map_append]
  refine h.append h' fun key earlier after => ?_
  obtain ⟨r, member, rfl⟩ := List.mem_map.mp earlier
  obtain ⟨r', member', same⟩ := List.mem_map.mp after
  exact apart r member r' member' same

theorem within_append (reader : String) (events later : List (Event α)) :
    within reader (events ++ later) = within reader events ++ within reader later := by
  simp only [within, Event.diagnostics, List.filterMap_append, List.map_append]

theorem within_diagnostic (reader : String) (events : List (Event α)) :
    (within reader events).map diagnostic = Event.diagnostics events := by
  simp [within, Function.comp_def]

theorem within_cycles (reader : String) (plugs : List String) :
    within reader (plugs.map fun plug => (.diagnostic ⟨plug, .beingResolved⟩ : Event α)) =
      plugs.map (cycle reader) := by
  simp [within, Event.diagnostics, List.filterMap_map, cycle]

end Report

/-- A pair that has not been reported is. -/
theorem Notes.reportCycle_of_not_mem {notes : Notes α} {reader plug : String}
    (new : (reader, plug) ∉ notes.reported) :
    notes.reportCycle reader plug =
      { notes with
        reported := notes.reported.insert (reader, plug)
        events := notes.events.push (.diagnostic ⟨plug, .beingResolved⟩) } := by
  rw [reportCycle, if_neg (by simpa using new)]

/-- What holds of the reports taken down in a walk that set out when the values in `before` were
known. The values of `stack` are still lacking. -/
structure Logged (before cache : ExtTreeMap String α) (stack : List String)
    (reported : Std.ExtHashSet (String × String)) (log : List Report) : Prop where
  grows : ∀ plug, plug ∈ before → plug ∈ cache
  fresh : ∀ r ∈ log, r.reader ∉ before
  met : ∀ r ∈ log, r.reader ∈ stack ∨ r.reader ∈ cache
  paired : ∀ r ∈ log, r.diagnostic.kind = .cycle → (r.reader, r.diagnostic.plug) ∈ reported
  settled : ∀ r ∈ log, r.diagnostic.kind ≠ .cycle →
    r.diagnostic.plug = r.reader ∧ r.reader ∈ cache
  nodup : (log.map Report.key).Nodup

namespace Logged

variable {before cache : ExtTreeMap String α} {stack below : List String} {plug : String}
  {reported reported' : Std.ExtHashSet (String × String)} {log : List Report}

/-- Nothing has been reported when a walk sets out. -/
theorem start (cache : ExtTreeMap String α) (stack : List String)
    (reported : Std.ExtHashSet (String × String)) : Logged cache cache stack reported [] where
  grows _ known := known
  fresh := List.forall_mem_nil _
  met := List.forall_mem_nil _
  paired := List.forall_mem_nil _
  settled := List.forall_mem_nil _
  nodup := List.nodup_nil

/-- Pairs that have not been reported before. -/
theorem cycles (h : Logged before cache stack reported log) (stacked : plug ∈ stack)
    (unknown : plug ∉ cache) {read : List String} (nodup : read.Nodup)
    (new : ∀ asked ∈ read, (plug, asked) ∉ reported)
    (marked : ∀ pair, pair ∈ reported' ↔ pair ∈ reported ∨ ∃ asked ∈ read, pair = (plug, asked)) :
    Logged before cache stack reported' (log ++ read.map (.cycle plug)) where
  grows := h.grows
  fresh := by
    refine List.forall_mem_append.mpr ⟨h.fresh, List.forall_mem_map.mpr ?_⟩
    exact fun _ _ known => unknown (h.grows _ known)
  met := by
    refine List.forall_mem_append.mpr ⟨h.met, List.forall_mem_map.mpr ?_⟩
    exact fun _ _ => .inl stacked
  paired := by
    refine List.forall_mem_append.mpr ⟨fun r member kind => ?_, List.forall_mem_map.mpr ?_⟩
    · exact (marked _).mpr (.inl (h.paired r member kind))
    · exact fun asked member _ => (marked _).mpr (.inr ⟨asked, member, rfl⟩)
  settled := by
    refine List.forall_mem_append.mpr ⟨h.settled, List.forall_mem_map.mpr ?_⟩
    exact fun _ _ kind => absurd rfl kind
  nodup := by
    have injective : (Report.key ∘ Report.cycle plug).Injective :=
      fun asked asked' same => congrArg (·.2.1) same
    refine Report.nodup_append h.nodup (by rw [List.map_map]; exact nodup.map injective) ?_
    refine fun r member => List.forall_mem_map.mpr fun asked listed same => new asked listed ?_
    obtain ⟨reader, about, kind⟩ : plug = r.reader ∧ asked = r.diagnostic.plug ∧
        DiagnosticKind.cycle = r.diagnostic.kind := by
      simpa [Report.key, Report.cycle, Diagnostic.kind, Cause.kind] using same
    rw [reader, about]
    exact h.paired r member kind.symm

/-- The reports that come with a value. -/
theorem settle (h : Logged before cache (plug :: below) reported log) (unknown : plug ∉ cache)
    {diagnostics : List Diagnostic} (once : Context.OnceEach plug diagnostics) (value : α) :
    Logged before (cache.insert plug value) below reported
      (log ++ diagnostics.map (⟨plug, ·⟩)) := by
  obtain ⟨causes, rfl, kinds, noCycle⟩ := once
  rw [List.map_map]
  have known {other : String} :
      other ∈ cache.insert plug value ↔ other = plug ∨ other ∈ cache := by
    simp [@eq_comm _ plug]
  have regular : ∀ cause ∈ causes, cause.kind ≠ .cycle :=
    fun cause member same => noCycle (List.mem_map.mpr ⟨cause, member, same⟩)
  refine ⟨fun other member => known.mpr (.inr (h.grows other member)), ?_, ?_, ?_, ?_, ?_⟩
  · refine List.forall_mem_append.mpr ⟨h.fresh, List.forall_mem_map.mpr ?_⟩
    exact fun _ _ seen => unknown (h.grows _ seen)
  · refine List.forall_mem_append.mpr ⟨fun r member => ?_, List.forall_mem_map.mpr ?_⟩
    · rcases h.met r member with stacked | seen
      · exact (List.mem_cons.mp stacked).symm.imp_right fun same => known.mpr (.inl same)
      · exact .inr (known.mpr (.inr seen))
    · exact fun _ _ => .inr (known.mpr (.inl rfl))
  · refine List.forall_mem_append.mpr ⟨h.paired, List.forall_mem_map.mpr ?_⟩
    exact fun cause member kind => absurd kind (regular cause member)
  · refine List.forall_mem_append.mpr ⟨fun r member kind => ?_, List.forall_mem_map.mpr ?_⟩
    · exact (h.settled r member kind).imp_right fun seen => known.mpr (.inr seen)
    · exact fun _ _ _ => ⟨rfl, known.mpr (.inl rfl)⟩
  · refine Report.nodup_append h.nodup ?_ fun r member => List.forall_mem_map.mpr ?_
    · have keys : (causes.map (Report.key ∘ fun cause => ⟨plug, ⟨plug, cause⟩⟩)).map (·.2.2) =
          causes.map Cause.kind := List.map_map ..
      rw [List.map_map]
      exact .of_map _ (keys ▸ kinds)
    · intro cause listed same
      obtain ⟨reader, -, kind⟩ : plug = r.reader ∧ plug = r.diagnostic.plug ∧
          cause.kind = r.diagnostic.kind := by
        simpa [Report.key, Diagnostic.kind] using same
      apply unknown
      rw [reader]
      exact (h.settled r member (kind ▸ regular cause listed)).2

end Logged

namespace Walk

variable [Scalar α]

/-- What a step of a walk reports, with the topmost plug as the reader. -/
def stepReports (c : Context α) (frame : α) (walk : Walk α) : List Report :=
  match walk.stack with
  | [] => []
  | plug :: _ => Report.within plug ((walk.step c frame).events.toList.drop walk.events.size)

/-- What a walk reports within so many steps. -/
def reports (c : Context α) (frame : α) : (fuel : Nat) → Walk α → List Report
  | 0, _ => []
  | fuel + 1, walk =>
    if walk.stack.isEmpty then []
    else walk.stepReports c frame ++ reports c frame fuel (walk.step c frame)

end Walk

variable [Scalar α]

namespace Desk

/-- While the reading of a plug is attempted, each plug under way that it reads is reported unless
the pair has been reported before. -/
theorem exists_cycles_carry (desk : Desk) {reader : String}
    (current : desk.current = some reader) (reading : Reading α ω) (notes : Notes α) :
    ∃ plugs : List String, plugs.Nodup ∧ (∀ plug ∈ plugs, (reader, plug) ∉ notes.reported) ∧
      (desk.carry reading notes).2.events.toList =
        notes.events.toList ++ plugs.map (fun plug => .diagnostic ⟨plug, .beingResolved⟩) ∧
      ∀ pair, pair ∈ (desk.carry reading notes).2.reported ↔
        pair ∈ notes.reported ∨ ∃ plug ∈ plugs, pair = (reader, plug) := by
  induction reading generalizing notes with
  | done => exact ⟨[], by simp⟩
  | ask asked next ih =>
    cases known : notes.cache[asked]? with
    | some value =>
      rw [carry_known known]
      exact ih value notes
    | none =>
      by_cases underway : asked ∈ desk.underway
      · rw [carry_underway known underway, current, Option.getD_some]
        by_cases before : (reader, asked) ∈ notes.reported
        · rw [Notes.reportCycle_of_mem before]
          exact ih 0 notes
        · obtain ⟨plugs, nodup, new, events, reported⟩ := ih 0 (notes.reportCycle reader asked)
          have marked (pair : String × String) :
              pair ∈ (notes.reportCycle reader asked).reported ↔
                pair ∈ notes.reported ∨ pair = (reader, asked) := by
            rw [Notes.reportCycle_of_not_mem before]
            exact Std.ExtHashSet.mem_insert.trans (by rw [beq_iff_eq, or_comm, eq_comm])
          refine ⟨asked :: plugs, List.nodup_cons.mpr ⟨fun member => ?_, nodup⟩, ?_, ?_,
            fun pair => ?_⟩
          · exact new asked member ((marked _).mpr (.inr rfl))
          · exact List.forall_mem_cons.mpr ⟨before, fun plug member reported =>
              new plug member ((marked _).mpr (.inl reported))⟩
          · rw [events, Notes.reportCycle_of_not_mem before]
            simp
          · rw [reported, marked]
            simp [or_assoc]
      · rw [carry_missing known underway]
        exact ⟨[], by simp⟩

/-- What every end of a reading satisfies, the end of an attempt does. -/
theorem endsIn_of_carry {desk : Desk} {p : ω → Prop} {reading : Reading α ω} {notes : Notes α}
    {result : ω} (ends : reading.EndsIn p) (done : (desk.carry reading notes).1 = .ok result) :
    p result := by
  induction reading generalizing notes with
  | done =>
    cases done
    exact ends
  | ask asked next ih =>
    cases known : notes.cache[asked]? with
    | some value =>
      rw [carry_known known] at done
      exact ih value (ends value) done
    | none =>
      by_cases underway : asked ∈ desk.underway
      · rw [carry_underway known underway] at done
        exact ih 0 (ends 0) done
      · rw [carry_missing known underway] at done
        cases done

end Desk

namespace Walk

variable {c : Context α} {frame : α} {walk : Walk α} {plug : String} {below : List String}

theorem stepReports_eq {events : List (Event α)} (top : walk.stack = plug :: below)
    (appended : (walk.step c frame).events.toList = walk.events.toList ++ events) :
    walk.stepReports c frame = Report.within plug events := by
  simp only [stepReports, top, appended, ← Array.length_toList, List.drop_left]

theorem exists_cycles_attempted (c : Context α) (frame : α) (walk : Walk α) (plug : String) :
    ∃ read : List String, read.Nodup ∧ (∀ asked ∈ read, (plug, asked) ∉ walk.reported) ∧
      (walk.attempted c frame plug).events.toList =
        walk.events.toList ++ read.map (fun asked => .diagnostic ⟨asked, .beingResolved⟩) ∧
      ∀ pair, pair ∈ (walk.attempted c frame plug).reported ↔
        pair ∈ walk.reported ∨ ∃ asked ∈ read, pair = (plug, asked) :=
  Desk.exists_cycles_carry { walk.toDesk with current := some plug } rfl (c.reading frame plug)
    walk.toNotes

/-- A step reports plugs under way that the topmost plug reads, each pair for the first time. If it
settles the plug, what is reported then follows. -/
theorem step_reports_cases (c : Context α) (frame : α) (top : walk.stack = plug :: below) :
    ∃ read : List String, read.Nodup ∧ (∀ asked ∈ read, (plug, asked) ∉ walk.reported) ∧
      (∀ pair, pair ∈ (walk.step c frame).reported ↔
        pair ∈ walk.reported ∨ ∃ asked ∈ read, pair = (plug, asked)) ∧
      ((walk.stepReports c frame = read.map (.cycle plug) ∧
          (∃ missing, (walk.step c frame).stack = missing :: walk.stack) ∧
          (walk.step c frame).cache = walk.cache) ∨
        ∃ diagnostics value, Context.OnceEach plug diagnostics ∧
          walk.stepReports c frame = read.map (.cycle plug) ++ diagnostics.map (⟨plug, ·⟩) ∧
          (walk.step c frame).stack = below ∧
          (walk.step c frame).cache = walk.cache.insert plug value) := by
  obtain ⟨read, nodup, new, attempted, reported⟩ := walk.exists_cycles_attempted c frame plug
  refine ⟨read, nodup, new, ?_⟩
  cases ending : (walk.attempt c frame plug).1 with
  | error missing =>
    have next := step_missing top ending
    refine ⟨fun pair => ?_, .inl ⟨?_, ⟨missing, ?_⟩, ?_⟩⟩
    · rw [next]
      exact reported pair
    · rw [stepReports_eq top (by rw [next]; exact attempted), Report.within_cycles]
    · rw [next]
      rfl
    · rw [next, push_cache, attempted_cache]
  | ok outcome =>
    have next := step_settled top ending
    have regular := Desk.endsIn_of_carry (c.endsIn_reading frame plug) ending
    have appended : (walk.step c frame).events.toList = walk.events.toList ++
        (read.map (fun asked => .diagnostic ⟨asked, .beingResolved⟩) ++
          (c.settle plug outcome).events) := by
      rw [next, ← List.append_assoc, ← attempted]
      exact Notes.toList_events_keep _ _ _
    refine ⟨fun pair => ?_, .inr ⟨_, (c.settle plug outcome).value, c.onceEach_settle plug regular,
      ?_, ?_, ?_⟩⟩
    · rw [next]
      exact reported pair
    · rw [stepReports_eq top appended, Report.within_append, Report.within_cycles]
      rfl
    · rw [next, pop_stack, attempted_stack, top, List.tail_cons]
    · rw [next, pop_cache, attempted_cache]

/-- A step takes back no event. -/
theorem prefix_step (c : Context α) (frame : α) (top : walk.stack = plug :: below) :
    walk.events.toList <+: (walk.step c frame).events.toList := by
  obtain ⟨read, -, -, events, -⟩ := walk.exists_cycles_attempted c frame plug
  have attempted : walk.events.toList <+: (walk.attempted c frame plug).events.toList :=
    ⟨_, events.symm⟩
  cases ending : (walk.attempt c frame plug).1 with
  | error missing =>
    rw [step_missing top ending]
    exact attempted
  | ok outcome =>
    rw [step_settled top ending]
    exact attempted.trans ⟨_, (Notes.toList_events_keep _ _ _).symm⟩

/-- What is taken down is what is reported, in the same order. -/
theorem diagnostics_run (c : Context α) (frame : α) (fuel : Nat) (walk : Walk α) :
    Event.diagnostics (walk.run c frame fuel).events.toList =
      Event.diagnostics walk.events.toList ++
        (walk.reports c frame fuel).map Report.diagnostic := by
  induction fuel generalizing walk with
  | zero => simp [run, reports]
  | succ fuel ih =>
    cases top : walk.stack with
    | nil => simp [run, reports, top]
    | cons plug below =>
      obtain ⟨events, appended⟩ := prefix_step c frame top
      simp only [run, reports, top, List.isEmpty_cons, Bool.false_eq_true, if_false, ih,
        ← appended, stepReports_eq top appended.symm, List.map_append, Report.within_diagnostic]
      simp only [Event.diagnostics, List.filterMap_append, List.append_assoc]

end Walk

namespace Logged

variable {c : Context α} {frame : α} {walk : Walk α} {plugs : List String}
  {before : ExtTreeMap String α} {log : List Report}

theorem step (h : Logged before walk.cache walk.stack walk.reported log)
    (coherent : walk.Coherent plugs) (c : Context α) (frame : α) :
    Logged before (walk.step c frame).cache (walk.step c frame).stack (walk.step c frame).reported
      (log ++ walk.stepReports c frame) := by
  cases top : walk.stack with
  | nil => simpa [Walk.step_nil c frame top, Walk.stepReports, top] using h
  | cons plug below =>
    have stacked : plug ∈ walk.stack := top ▸ List.mem_cons_self
    have unknown := coherent.unknown plug stacked
    obtain ⟨read, nodup, new, marked, pushed | settled⟩ := Walk.step_reports_cases c frame top
    · obtain ⟨reports, ⟨missing, stack⟩, cache⟩ := pushed
      have cycles := h.cycles stacked unknown nodup new marked
      rw [reports, stack, cache]
      exact { cycles with met := fun r member =>
        (cycles.met r member).imp_left (List.mem_cons_of_mem _) }
    · obtain ⟨diagnostics, value, once, reports, stack, cache⟩ := settled
      have cycles := h.cycles stacked unknown nodup new marked
      rw [top] at cycles
      rw [reports, stack, cache, ← List.append_assoc]
      exact cycles.settle unknown once value

theorem run (h : Logged before walk.cache walk.stack walk.reported log)
    (coherent : walk.Coherent plugs) (asks : ∀ text, (c.reading frame text).AsksOnly (· ∈ plugs))
    (fuel : Nat) :
    Logged before (walk.run c frame fuel).cache (walk.run c frame fuel).stack
      (walk.run c frame fuel).reported (log ++ walk.reports c frame fuel) := by
  induction fuel generalizing walk log with
  | zero => simpa [Walk.run, Walk.reports] using h
  | succ fuel ih =>
    simp only [Walk.run, Walk.reports]
    split
    · simpa using h
    · rw [← List.append_assoc]
      exact ih (h.step coherent c frame) (coherent.step asks)

end Logged

end PlugGraph
