import PlugGraph.Eval.Samples
import PlugGraph.Proofs.Descent

/-!
# Values that do not depend on what was asked before

On cycles the value of a plug depends on where the walk comes from. Elsewhere it does not: it is
the *meaning* of the plug, which plain recursion finds without a cache and without a look at the
callers, if only it bottoms out. A descent that never reports a cycle finds meanings and keeps
nothing else. Conversely, wherever the cache holds meanings, a descent to a plug that has one finds
it, because none of its callers can be among what it reads: a plug that needs itself has no meaning.
-/

namespace PlugGraph

/-- No report of a cycle is among the events. -/
def Acyclic {α : Type} (events : List (Event α)) : Prop :=
  ∀ d ∈ Event.diagnostics events, d.kind ≠ .cycle

namespace Acyclic

variable {α : Type}

@[simp] theorem nil : Acyclic ([] : List (Event α)) := by simp [Acyclic, Event.diagnostics]

@[simp] theorem cons_diagnostic {d : Diagnostic} {events : List (Event α)} :
    Acyclic (.diagnostic d :: events) ↔ d.kind ≠ .cycle ∧ Acyclic events := by
  simp [Acyclic, Event.diagnostics]

@[simp] theorem cons_blended {start target : Vec3 α} {weight : α} {order : RotateOrder}
    {events : List (Event α)} :
    Acyclic (.blended start target weight order :: events) ↔ Acyclic events := by
  simp [Acyclic, Event.diagnostics]

@[simp] theorem append {events events' : List (Event α)} :
    Acyclic (events ++ events') ↔ Acyclic events ∧ Acyclic events' := by
  simp only [Acyclic, Event.diagnostics, List.filterMap_append, List.mem_append]
  grind

end Acyclic

/-- The outcomes that readings end in: a default has other causes than a cycle or a value that is
not finite. -/
def Outcome.Regular {α : Type} : Outcome α → Prop
  | .result _ => True
  | .fallback cause _ => cause.kind ≠ .cycle ∧ cause.kind ≠ .nonFinite

namespace Context

variable {α : Type} [Scalar α]

/-- The value of a plug that plain recursion finds within so many levels. -/
def meaning? (c : Context α) (frame : α) : (levels : Nat) → String → Option α
  | 0, _ => none
  | levels + 1, plug => do
    let outcome ← (c.reading frame plug).answerM (c.meaning? frame levels)
    return (c.settle plug outcome).value

variable {c : Context α} {frame : α} {plug : String} {value : α}

theorem meaning?_succ (levels : Nat) :
    c.meaning? frame (levels + 1) plug =
      ((c.reading frame plug).answerM (c.meaning? frame levels)).map fun outcome =>
        (c.settle plug outcome).value := by
  simp only [meaning?, Option.map_eq_bind]
  rfl

theorem meaning?_step {levels : Nat} (h : c.meaning? frame levels plug = some value) :
    c.meaning? frame (levels + 1) plug = some value := by
  induction levels generalizing plug value with
  | zero => cases h
  | succ levels ih =>
    rw [meaning?_succ] at h ⊢
    obtain ⟨outcome, answered, rfl⟩ := Option.map_eq_some_iff.mp h
    rw [Dialogue.answerM_mono ih answered]
    rfl

/-- A meaning stays the same when more levels are allowed. -/
theorem meaning?_mono {levels levels' : Nat} (le : levels ≤ levels')
    (h : c.meaning? frame levels plug = some value) :
    c.meaning? frame levels' plug = some value := by
  induction le with
  | refl => exact h
  | step _ ih => exact meaning?_step ih

theorem meaning?_unique {levels levels' : Nat} {value' : α}
    (h : c.meaning? frame levels plug = some value)
    (h' : c.meaning? frame levels' plug = some value') : value = value' := by
  have same := (meaning?_mono (Nat.le_max_left levels levels') h).symm.trans
    (meaning?_mono (Nat.le_max_right levels levels') h')
  exact Option.some.inj same

/-- A meaning is found at some level and not at the one before. -/
theorem exists_first_level {levels : Nat} (h : c.meaning? frame levels plug = some value) :
    ∃ first < levels, c.meaning? frame (first + 1) plug = some value ∧
      c.meaning? frame first plug = none := by
  induction levels with
  | zero => cases h
  | succ levels ih =>
    cases before : c.meaning? frame levels plug with
    | none => exact ⟨levels, Nat.lt_succ_self levels, h, before⟩
    | some value' =>
      obtain rfl := meaning?_unique before h
      obtain ⟨first, less, found⟩ := ih before
      exact ⟨first, Nat.lt_succ_of_lt less, found⟩

/-- Every value that is kept is a meaning. -/
def Justifies (c : Context α) (frame : α) (cache : Std.ExtTreeMap String α) : Prop :=
  ∀ plug value, cache[plug]? = some value → ∃ levels, c.meaning? frame levels plug = some value

theorem Justifies.insert {cache : Std.ExtTreeMap String α} (h : c.Justifies frame cache)
    {levels : Nat} (found : c.meaning? frame levels plug = some value) :
    c.Justifies frame (cache.insert plug value) := by
  intro other value' kept
  rw [Std.ExtTreeMap.getElem?_insert] at kept
  split at kept
  · next same =>
    cases kept
    rw [← Std.compare_eq_iff_eq.mp same]
    exact ⟨levels, found⟩
  · exact h other value' kept

/-- A reading itself never comes upon a cycle, and it leaves judging its value to others. -/
theorem endsIn_reading (c : Context α) (frame : α) (text : String) :
    (c.reading frame text).EndsIn Outcome.Regular := by
  have ofExcept (result : Except Fault (Result α)) : (Context.ofExcept result).Regular := by
    cases result with
    | ok => trivial
    | error => exact ⟨by simp [Cause.kind], by simp [Cause.kind]⟩
  unfold reading
  split
  · exact .map (fun _ => trivial) _
  · split
    · simp [Dialogue.EndsIn, Outcome.Regular, Cause.kind]
    · split
      · simp only [curveReading]
        split
        · exact .map (fun _ => ofExcept _) _
        · exact ofExcept _
      · split
        · simp only [nodeReading]
          split
          · exact .map (fun _ => trivial) _
          · split
            · simp only [Dialogue.EndsIn]
              split <;> simp [Outcome.Regular, Cause.kind]
            · split
              · trivial
              · exact .map ofExcept _
        · simp [Dialogue.EndsIn, Outcome.Regular, Cause.kind]

theorem diagnostics_round (plug : String) (value : α) :
    Event.diagnostics (round plug value).events = [] ∨
      ∃ nonFinite,
        Event.diagnostics (round plug value).events = [⟨plug, .notFinite nonFinite⟩] := by
  simp only [round]
  split
  · exact .inl rfl
  · next nonFinite _ => exact .inr ⟨nonFinite, rfl⟩

/-- Reports on one plug, none of a cycle and no two of one kind. -/
def OnceEach (plug : String) (diagnostics : List Diagnostic) : Prop :=
  ∃ causes : List Cause, diagnostics = causes.map (⟨plug, ·⟩) ∧ (causes.map Cause.kind).Nodup ∧
    DiagnosticKind.cycle ∉ causes.map Cause.kind

theorem onceEach_round (plug : String) (value : α) :
    OnceEach plug (Event.diagnostics (round plug value).events) := by
  rcases diagnostics_round plug value with none | ⟨nonFinite, one⟩
  · exact ⟨[], none, by simp⟩
  · exact ⟨[.notFinite nonFinite], one, by simp [Cause.kind]⟩

theorem onceEach_fallback (plug : String) {cause : Cause} (value : α)
    (regular : cause.kind ≠ .cycle ∧ cause.kind ≠ .nonFinite) :
    OnceEach plug (Event.diagnostics (fallback plug cause value).events) := by
  have split : Event.diagnostics (fallback plug cause value).events =
      ⟨plug, cause⟩ :: Event.diagnostics (round plug value).events := rfl
  rw [split]
  rcases diagnostics_round plug value with none | ⟨nonFinite, one⟩
  · exact ⟨[cause], by rw [none]; rfl, by simpa using regular.1.symm⟩
  · refine ⟨[cause, .notFinite nonFinite], by rw [one]; rfl, ?_⟩
    simpa [Cause.kind] using ⟨regular.2, regular.1.symm⟩

/-- When a plug is settled, no two reports of one kind are made, and none on another plug. -/
theorem onceEach_settle (c : Context α) (plug : String) {outcome : Outcome α}
    (regular : outcome.Regular) :
    OnceEach plug (Event.diagnostics (c.settle plug outcome).events) := by
  cases outcome with
  | fallback cause value => exact onceEach_fallback plug value regular
  | result result =>
    cases result with
    | value value => exact onceEach_round plug value
    | blend start target weight order axis =>
      simp only [settle]
      cases c.rotation start target weight order with
      | ok blended => exact onceEach_round plug _
      | error fault =>
        exact onceEach_fallback plug 0 ⟨by simp [Cause.kind], by simp [Cause.kind]⟩

theorem acyclic_settle (c : Context α) (plug : String) {outcome : Outcome α}
    (regular : outcome.Regular) : Acyclic (c.settle plug outcome).events := by
  obtain ⟨causes, reported, -, noCycle⟩ := c.onceEach_settle plug regular
  intro d member
  rw [reported] at member
  obtain ⟨cause, listed, rfl⟩ := List.mem_map.mp member
  exact fun same => noCycle (List.mem_map.mpr ⟨cause, listed, same⟩)

end Context

namespace Notes

variable {α : Type}

@[simp] theorem toList_events_keep (notes : Notes α) (plug : String)
    (settled : Context.Settled α) :
    (notes.keep plug settled).events.toList = notes.events.toList ++ settled.events := by
  simp [keep]

variable [Scalar α]

/-- As long as no cycle has been reported, none has been met, and only meanings have been kept. -/
def Trusty (c : Context α) (frame : α) (notes : Notes α) : Prop :=
  Acyclic notes.events.toList → notes.reported = ∅ ∧ c.Justifies frame notes.cache

/-- Meeting a cycle leaves a report. -/
theorem Trusty.not_acyclic_reportCycle {c : Context α} {frame : α} {notes : Notes α}
    (h : notes.Trusty c frame) (reader plug : String) :
    ¬Acyclic (notes.reportCycle reader plug).events.toList := by
  unfold reportCycle
  split
  · next reported =>
    intro clean
    rw [(h clean).1] at reported
    simp at reported
  · simp [Diagnostic.kind, Cause.kind]

end Notes

namespace Descent

variable {α : Type} [Scalar α] {c : Context α} {frame : α} {callers : List String}
  {reader plug : String} {notes later : Notes α} {value : α}

/-- What a descent that has reported no cycle has found. -/
structure Finds (c : Context α) (frame : α) (notes later : Notes α) (found : Nat → Prop) :
    Prop where
  trusty : later.Trusty c frame
  before : Acyclic later.events.toList → Acyclic notes.events.toList
  found : Acyclic later.events.toList → ∃ levels, found levels

theorem finds_answer {ω : Type} {descend : String → Descent α α}
    (down : ∀ {asked notes value later}, notes.Trusty c frame →
      (descend asked).run notes = some (value, later) →
      Finds c frame notes later fun levels => c.meaning? frame levels asked = some value)
    {reading : Reading α ω} {result : ω} (trusty : notes.Trusty c frame)
    (answered : (reading.answerM (read descend callers reader)).run notes = some (result, later)) :
    Finds c frame notes later fun levels =>
      reading.answerM (c.meaning? frame levels) = some result := by
  induction reading generalizing notes with
  | done result' =>
    obtain ⟨rfl, rfl⟩ : result' = result ∧ notes = later := by simpa using answered
    exact ⟨trusty, id, fun _ => ⟨0, rfl⟩⟩
  | ask asked next ih =>
    -- The levels that the first plug and the rest need are joined.
    have join {value : α} (first : ∃ levels, c.meaning? frame levels asked = some value)
        (rest : ∃ levels, (next value).answerM (c.meaning? frame levels) = some result) :
        ∃ levels, (Dialogue.ask asked next).answerM (c.meaning? frame levels) = some result := by
      obtain ⟨levels, first⟩ := first
      obtain ⟨levels', rest⟩ := rest
      refine ⟨max levels levels', Option.bind_eq_some_iff.mpr ⟨value, ?_, ?_⟩⟩
      · exact Context.meaning?_mono (Nat.le_max_left _ _) first
      · exact Dialogue.answerM_mono (Context.meaning?_mono (Nat.le_max_right _ _)) rest
    obtain ⟨value, between, replied, remaining⟩ := exists_of_answer_ask answered
    rcases read_cases replied with ⟨known, rfl⟩ | ⟨-, ⟨-, rfl, rfl⟩ | ⟨-, went⟩⟩
    · have rest := ih value trusty remaining
      refine ⟨rest.trusty, rest.before, fun clean => join ?_ (rest.found clean)⟩
      exact (trusty (rest.before clean)).2 asked value known
    · have cyclic := trusty.not_acyclic_reportCycle reader asked
      have rest := ih 0 (fun clean => absurd clean cyclic) remaining
      exact ⟨rest.trusty, fun clean => absurd (rest.before clean) cyclic,
        fun clean => absurd (rest.before clean) cyclic⟩
    · have first := down trusty went
      have rest := ih value first.trusty remaining
      exact ⟨rest.trusty, fun clean => first.before (rest.before clean),
        fun clean => join (first.found (rest.before clean)) (rest.found clean)⟩

/-- A descent that reports no cycle finds a meaning and keeps nothing else. -/
theorem finds_visit {depth : Nat} (trusty : notes.Trusty c frame)
    (visited : (visit c frame depth callers plug).run notes = some (value, later)) :
    Finds c frame notes later fun levels => c.meaning? frame levels plug = some value := by
  induction depth generalizing callers plug notes value later with
  | zero => cases visited
  | succ depth ih =>
    obtain ⟨_, outcome, between, ⟨⟩, answered, rfl, rfl⟩ := exists_of_visit visited
    have went : Finds c frame (notes.visit plug) between _ := finds_answer ih trusty answered
    have earlier (clean : Acyclic (between.keep plug (c.settle plug outcome)).events.toList) :
        Acyclic between.events.toList := by
      rw [Notes.toList_events_keep] at clean
      exact (Acyclic.append.mp clean).1
    have found (clean : Acyclic (between.keep plug (c.settle plug outcome)).events.toList) :
        ∃ levels, c.meaning? frame levels plug = some (c.settle plug outcome).value := by
      obtain ⟨levels, found⟩ := went.found (earlier clean)
      refine ⟨levels + 1, ?_⟩
      rw [Context.meaning?_succ, found]
      rfl
    refine ⟨fun clean => ?_, fun clean => went.before (earlier clean), found⟩
    obtain ⟨unreported, justified⟩ := went.trusty (earlier clean)
    obtain ⟨levels, found⟩ := found clean
    exact ⟨unreported, justified.insert found⟩

/-- What a descent comes to that has a meaning to find. -/
structure Meets (c : Context α) (frame : α) (notes later : Notes α) : Prop where
  justified : c.Justifies frame later.cache
  acyclic : Acyclic notes.events.toList → Acyclic later.events.toList

theorem meets_answer {ω : Type} {descend : String → Descent α α} {levels : Nat}
    (down : ∀ {asked notes value value' later}, c.Justifies frame notes.cache →
      c.meaning? frame levels asked = some value →
      (descend asked).run notes = some (value', later) →
      value' = value ∧ Meets c frame notes later)
    (apart : ∀ caller ∈ callers, c.meaning? frame levels caller = none)
    {reading : Reading α ω} {result result' : ω} (justified : c.Justifies frame notes.cache)
    (means : reading.answerM (c.meaning? frame levels) = some result)
    (answered : (reading.answerM (read descend callers reader)).run notes = some (result', later)) :
    result' = result ∧ Meets c frame notes later := by
  induction reading generalizing notes with
  | done =>
    cases means
    obtain ⟨rfl, rfl⟩ := Prod.mk.inj (Option.some.inj answered)
    exact ⟨rfl, justified, id⟩
  | ask asked next ih =>
    obtain ⟨value, first, rest⟩ := Option.bind_eq_some_iff.mp means
    obtain ⟨value', between, replied, remaining⟩ := exists_of_answer_ask answered
    rcases read_cases replied with ⟨known, rfl⟩ | ⟨-, ⟨stacked, -⟩ | ⟨-, went⟩⟩
    · obtain ⟨levels', means'⟩ := justified asked value' known
      obtain rfl := Context.meaning?_unique means' first
      exact ih value' justified rest remaining
    · rw [apart asked stacked] at first
      cases first
    · obtain ⟨rfl, met⟩ := down justified first went
      obtain ⟨same, met'⟩ := ih value' met.justified rest remaining
      exact ⟨same, met'.justified, fun clean => met'.acyclic (met.acyclic clean)⟩

/-- A descent to a plug with a meaning finds it, unless the meaning takes in one of the callers. A
caller has no meaning at the level at which the plug has none yet, so what the plug reads is not
among the callers. -/
theorem meets_visit {depth levels : Nat} {value' : α} (justified : c.Justifies frame notes.cache)
    (means : c.meaning? frame (levels + 1) plug = some value)
    (apart : ∀ caller ∈ plug :: callers, c.meaning? frame levels caller = none)
    (visited : (visit c frame depth callers plug).run notes = some (value', later)) :
    value' = value ∧ Meets c frame notes later := by
  induction depth generalizing callers plug notes value value' later levels with
  | zero => cases visited
  | succ depth ih =>
    obtain ⟨_, outcome', between, ⟨⟩, answered, rfl, rfl⟩ := exists_of_visit visited
    have computed := means
    rw [Context.meaning?_succ] at computed
    obtain ⟨outcome, replies, rfl⟩ := Option.map_eq_some_iff.mp computed
    have regular := (c.endsIn_reading frame plug).of_answerM replies
    have down {asked : String} {notes later : Notes α} {value value' : α}
        (justified : c.Justifies frame notes.cache)
        (means : c.meaning? frame levels asked = some value)
        (went : (visit c frame depth (plug :: callers) asked).run notes = some (value', later)) :
        value' = value ∧ Meets c frame notes later := by
      obtain ⟨first, less, found, before⟩ := Context.exists_first_level means
      refine ih justified found (fun caller member => ?_) went
      rcases List.mem_cons.mp member with rfl | member
      · exact before
      · cases earlier : c.meaning? frame first caller with
        | none => rfl
        | some _ =>
          have later := Context.meaning?_mono (Nat.le_of_lt less) earlier
          rw [apart caller member] at later
          cases later
    have start : c.Justifies frame (notes.visit plug).cache := justified
    obtain ⟨rfl, met⟩ := meets_answer down apart start replies answered
    refine ⟨rfl, met.justified.insert means, fun clean => ?_⟩
    rw [Notes.toList_events_keep]
    exact Acyclic.append.mpr ⟨met.acyclic clean, c.acyclic_settle plug regular⟩

end Descent

end PlugGraph
