import PlugGraph.Proofs.Session

/-!
# The walk is a recursive descent

The value of a plug can be found without a stack: read the plug's inputs one after the other, going
down to each that has no value yet, and take a plug for zero that is one of the callers. This is the
*descent*. It attempts every reading once, and the plugs under way are simply the callers.

A walk attempts a reading again each time the plug that it lacked has got its value. What the
reading had asked before then has an answer that stays the same, and every report that it had made
has been noted, so the repetition goes unseen: `Replays`. With that a walk takes the steps of the
descent in the same order, and a query gives the same answer as the descent in every respect.
-/

namespace PlugGraph

/-- Notes that follow others while the plugs of `stack` are under way. -/
structure Notes.Follows {α : Type} (stack : List String) (notes later : Notes α) : Prop where
  known : ∀ {plug : String} {value : α}, notes.cache[plug]? = some value →
    later.cache[plug]? = some value
  unknown : ∀ plug ∈ stack, notes.cache[plug]? = none → later.cache[plug]? = none
  reported : ∀ pair ∈ notes.reported, pair ∈ later.reported

namespace Notes.Follows

variable {α : Type} {stack : List String} {notes later latest : Notes α}

theorem refl (stack : List String) (notes : Notes α) : notes.Follows stack notes :=
  ⟨id, fun _ _ => id, fun _ => id⟩

theorem trans (h : notes.Follows stack later) (h' : later.Follows stack latest) :
    notes.Follows stack latest where
  known found := h'.known (h.known found)
  unknown plug member absent := h'.unknown plug member (h.unknown plug member absent)
  reported pair member := h'.reported pair (h.reported pair member)

theorem visit (notes : Notes α) (plug : String) : notes.Follows stack (notes.visit plug) :=
  ⟨id, fun _ _ => id, fun _ => id⟩

theorem reportCycle (notes : Notes α) (reader plug : String) :
    notes.Follows stack (notes.reportCycle reader plug) where
  known found := by simpa using found
  unknown _ _ absent := by simpa using absent
  reported pair member := by
    unfold Notes.reportCycle
    split
    · exact member
    · exact Std.ExtHashSet.mem_insert.mpr (.inr member)

/-- A plug without a value may get one when it is not under way any more. -/
theorem keep {plug : String} (absent : notes.cache[plug]? = none) (idle : plug ∉ stack)
    (settled : Context.Settled α) : notes.Follows stack (notes.keep plug settled) where
  known := by
    intro other value found
    rw [Notes.keep, Std.ExtTreeMap.getElem?_insert]
    split
    · next same =>
      rw [← Std.compare_eq_iff_eq.mp same, absent] at found
      cases found
    · exact found
  unknown := by
    intro other member unknown
    rw [Notes.keep, Std.ExtTreeMap.getElem?_insert]
    split
    · next same => exact absurd (Std.compare_eq_iff_eq.mp same ▸ member) idle
    · exact unknown
  reported _ := id

theorem tail {plug : String} (h : notes.Follows (plug :: stack) later) :
    notes.Follows stack later where
  known := h.known
  unknown other member := h.unknown other (List.mem_cons_of_mem _ member)
  reported := h.reported

end Notes.Follows

namespace Notes

variable {α : Type}

theorem mem_reported_reportCycle (notes : Notes α) (reader plug : String) :
    (reader, plug) ∈ (notes.reportCycle reader plug).reported := by
  unfold reportCycle
  split
  · next reported => exact reported
  · exact Std.ExtHashSet.mem_insert_self

/-- What has been reported is not reported again. -/
theorem reportCycle_of_mem {notes : Notes α} {reader plug : String}
    (reported : (reader, plug) ∈ notes.reported) : notes.reportCycle reader plug = notes :=
  if_pos reported

end Notes

def Evaluator.note {α : Type} (e : Evaluator α) (notes : Notes α) : Evaluator α :=
  { e with
    context := notes.visited.foldr (fun plug c => c.keepProgramOf plug) e.context
    cache := notes.cache
    reported := notes.reported }

/-- A part of a descent, which gives up when it would get too deep. -/
abbrev Descent (α ω : Type) := StateT (Notes α) Option ω

namespace Descent

variable {α : Type} [Scalar α]

/-- Reads a plug: gives its value if that is known, zero if it is one of the callers, and goes down
to it otherwise. -/
def read (descend : String → Descent α α) (callers : List String) (reader plug : String) :
    Descent α α := do
  match (← get).cache[plug]? with
  | some value => return value
  | none =>
    if plug ∈ callers then
      modify (·.reportCycle reader plug)
      return 0
    else descend plug

/-- Computes a plug that has no value yet, at most `depth` levels down. -/
def visit (c : Context α) (frame : α) : (depth : Nat) → (callers : List String) → String →
    Descent α α
  | 0, _, _ => failure
  | depth + 1, callers, plug => do
    let callers := plug :: callers
    modify (·.visit plug)
    let outcome ← (c.reading frame plug).answerM (read (visit c frame depth callers) callers plug)
    let settled := c.settle plug outcome
    modify (·.keep plug settled)
    return settled.value

/-- The value of a plug at a frame; zero for a blank text. -/
def evaluate (depth : Nat) (text : String) (frame : α) (e : Evaluator α) : Option (Answer α α) :=
  if Text.isBlankText text then some ⟨0, [], e⟩
  else
    let e := e.atFrame frame
    let plug := Plug.normalize text
    match e.cache[plug]? with
    | some value => some ⟨value, [], e⟩
    | none => do
      let (value, notes) ← (visit e.context frame depth [] plug).run (.start e.cache)
      return ⟨value, notes.events.toList, e.note notes⟩

section Equations

variable {descend : String → Descent α α} {callers : List String} {reader plug : String}
  {notes : Notes α}

theorem read_known {value : α} (known : notes.cache[plug]? = some value) :
    (read descend callers reader plug).run notes = some (value, notes) := by
  simp [read, known]

theorem read_caller (absent : notes.cache[plug]? = none) (member : plug ∈ callers) :
    (read descend callers reader plug).run notes = some (0, notes.reportCycle reader plug) := by
  simp [read, absent, member]

theorem read_down (absent : notes.cache[plug]? = none) (idle : plug ∉ callers) :
    (read descend callers reader plug).run notes = (descend plug).run notes := by
  simp [read, absent, idle]

theorem visit_succ (c : Context α) (frame : α) (depth : Nat) :
    (visit c frame (depth + 1) callers plug).run notes =
      (((c.reading frame plug).answerM
          (read (visit c frame depth (plug :: callers)) (plug :: callers) plug)).run
        (notes.visit plug)).map fun (outcome, later) =>
          ((c.settle plug outcome).value, later.keep plug (c.settle plug outcome)) := by
  rw [Option.map_eq_bind]
  rfl

/-- What reading a plug may come to. -/
theorem read_cases {value : α} {later : Notes α}
    (answered : (read descend callers reader plug).run notes = some (value, later)) :
    (notes.cache[plug]? = some value ∧ later = notes) ∨
      notes.cache[plug]? = none ∧
        ((plug ∈ callers ∧ value = 0 ∧ later = notes.reportCycle reader plug) ∨
          plug ∉ callers ∧ (descend plug).run notes = some (value, later)) := by
  cases known : notes.cache[plug]? with
  | some kept =>
    rw [read_known known] at answered
    cases answered
    exact .inl ⟨rfl, rfl⟩
  | none =>
    refine .inr ⟨rfl, ?_⟩
    by_cases stacked : plug ∈ callers
    · rw [read_caller known stacked] at answered
      cases answered
      exact .inl ⟨stacked, rfl, rfl⟩
    · rw [read_down known stacked] at answered
      exact .inr ⟨stacked, answered⟩

/-- A reading that asks for a plug has an answer if the plug is read and the rest has one. -/
theorem exists_of_answer_ask {ω : Type} {next : α → Reading α ω} {result : ω} {later : Notes α}
    (answered : ((Dialogue.ask plug next).answerM (read descend callers reader)).run notes =
      some (result, later)) :
    ∃ value between, (read descend callers reader plug).run notes = some (value, between) ∧
      ((next value).answerM (read descend callers reader)).run between = some (result, later) := by
  rw [Dialogue.answerM_ask, StateT.run_bind] at answered
  obtain ⟨⟨value, between⟩, first, rest⟩ := Option.bind_eq_some_iff.mp answered
  exact ⟨value, between, first, rest⟩

/-- A descent answers the reading of its plug one level further down and keeps the outcome. -/
theorem exists_of_visit {c : Context α} {frame : α} {depth : Nat} {value : α} {later : Notes α}
    (visited : (visit c frame depth callers plug).run notes = some (value, later)) :
    ∃ deeper outcome between, depth = deeper + 1 ∧
      ((c.reading frame plug).answerM
          (read (visit c frame deeper (plug :: callers)) (plug :: callers) plug)).run
        (notes.visit plug) = some (outcome, between) ∧
      value = (c.settle plug outcome).value ∧
      later = between.keep plug (c.settle plug outcome) := by
  cases depth with
  | zero => cases visited
  | succ deeper =>
    rw [visit_succ] at visited
    obtain ⟨⟨outcome, between⟩, answered, same⟩ := Option.map_eq_some_iff.mp visited
    obtain ⟨rfl, rfl⟩ := Prod.mk.inj same
    exact ⟨deeper, outcome, between, rfl, answered, rfl, rfl⟩

/-- What reading callers and going down to other plugs do to the notes, answering a reading does. -/
theorem related_of_answer {ω : Type} {p : String → Prop} {r : Notes α → Notes α → Prop}
    (refl : ∀ notes, r notes notes)
    (trans : ∀ {notes between later}, r notes between → r between later → r notes later)
    (report : ∀ {asked notes}, p asked → asked ∈ callers →
      r notes (notes.reportCycle reader asked))
    (down : ∀ {asked notes value later}, p asked → notes.cache[asked]? = none → asked ∉ callers →
      (descend asked).run notes = some (value, later) → r notes later)
    {reading : Reading α ω} (asks : reading.AsksOnly p) {result : ω} {later : Notes α}
    (answered : (reading.answerM (read descend callers reader)).run notes = some (result, later)) :
    r notes later := by
  induction reading generalizing notes with
  | done result' =>
    obtain ⟨-, rfl⟩ : result' = result ∧ notes = later := by simpa using answered
    exact refl notes
  | ask asked next ih =>
    obtain ⟨value, between, replied, remaining⟩ := exists_of_answer_ask answered
    rcases read_cases replied with ⟨-, rfl⟩ | ⟨unknown, ⟨stacked, -, rfl⟩ | ⟨idle, went⟩⟩
    · exact ih value (asks.2 value) remaining
    · exact trans (report asks.1 stacked) (ih value (asks.2 value) remaining)
    · exact trans (down asks.1 unknown idle went) (ih value (asks.2 value) remaining)

/-- What every end of a reading satisfies, its answer does. -/
theorem ends_of_answer {ω : Type} {p : ω → Prop} {reading : Reading α ω} (ends : reading.EndsIn p)
    {result : ω} {later : Notes α}
    (answered : (reading.answerM (read descend callers reader)).run notes = some (result, later)) :
    p result := by
  induction reading generalizing notes with
  | done =>
    cases answered
    exact ends
  | ask asked next ih =>
    obtain ⟨value, _, -, remaining⟩ := exists_of_answer_ask answered
    exact ih value (ends value) remaining

end Equations

end Descent

/-- After the notes taken so far a reading replays silently up to `rest`, whatever follows. -/
def Desk.Replays {α ω : Type} [Scalar α] (desk : Desk) (whole rest : Reading α ω)
    (notes : Notes α) : Prop :=
  ∀ later, notes.Follows desk.stack later → desk.carry whole later = desk.carry rest later

namespace Desk.Replays

variable {α ω : Type} [Scalar α] {desk : Desk} {whole : Reading α ω} {plug : String}
  {next : α → Reading α ω} {notes later : Notes α}

theorem refl (desk : Desk) (whole : Reading α ω) (notes : Notes α) :
    desk.Replays whole whole notes :=
  fun _ _ => rfl

theorem follow {rest : Reading α ω} (h : desk.Replays whole rest notes)
    (follows : notes.Follows desk.stack later) : desk.Replays whole rest later :=
  fun latest follows' => h latest (follows.trans follows')

theorem known {value : α} (h : desk.Replays whole (.ask plug next) notes)
    (known : notes.cache[plug]? = some value) : desk.Replays whole (next value) notes := by
  intro later follows
  rw [h later follows, Desk.carry_known (follows.known known)]

/-- The report of a plug under way is made once. -/
theorem underway (h : desk.Replays whole (.ask plug next) notes)
    (absent : notes.cache[plug]? = none) (stacked : plug ∈ desk.stack)
    (underway : plug ∈ desk.underway) :
    desk.Replays whole (next 0) (notes.reportCycle (desk.current.getD plug) plug) := by
  intro later follows
  have before := (Notes.Follows.reportCycle notes (desk.current.getD plug) plug).trans follows
  have reported := follows.reported _ (notes.mem_reported_reportCycle (desk.current.getD plug) plug)
  rw [h later before, Desk.carry_underway (before.unknown plug stacked absent) underway,
    Notes.reportCycle_of_mem reported]

end Desk.Replays

namespace Walk

variable {α : Type} {stack : List String} {plug : String} {notes : Notes α}

/-- The walk with the plugs of a stack under way, between two steps. -/
def along (stack : List String) (notes : Notes α) : Walk α :=
  { stack, underway := Std.ExtTreeSet.ofList stack, current := none, toNotes := notes }

theorem push_along : (along stack notes).push plug = along (plug :: stack) (notes.visit plug) := by
  have underway : (Std.ExtTreeSet.ofList stack).insert plug =
      (Std.ExtTreeSet.ofList (plug :: stack) : Std.ExtTreeSet String) := by
    refine Std.ExtTreeSet.ext_mem fun other => ?_
    simp [@eq_comm _ plug]
  simp only [push, along, underway]

theorem pop_along (fresh : plug ∉ stack) (settled : Context.Settled α) :
    (along (plug :: stack) notes).pop plug settled = along stack (notes.keep plug settled) := by
  have underway : (Std.ExtTreeSet.ofList (plug :: stack)).erase plug =
      (Std.ExtTreeSet.ofList stack : Std.ExtTreeSet String) := by
    refine Std.ExtTreeSet.ext_mem fun other => ?_
    simp [@eq_comm _ plug]
    grind
  simp only [pop, along, underway, List.tail_cons]

variable [Scalar α] {c : Context α} {frame : α} {callers : List String} {later : Notes α}

/-- The desk while the reading of a plug is attempted. -/
def desk (stack : List String) (plug : String) : Desk :=
  { stack, underway := Std.ExtTreeSet.ofList stack, current := some plug }

theorem attempt_along : (along stack notes).attempt c frame plug =
    ((desk stack plug).carry (c.reading frame plug) notes).map id (along stack) := rfl

theorem step_along_missing {missing : String}
    (ending : (desk (plug :: callers) plug).carry (c.reading frame plug) notes =
      (.error missing, later)) :
    (along (plug :: callers) notes).step c frame =
      along (missing :: plug :: callers) (later.visit missing) := by
  have tried : (along (plug :: callers) notes).attempt c frame plug =
      (.error missing, along (plug :: callers) later) := by
    rw [attempt_along, ending]
    rfl
  rw [step_missing rfl (congrArg Prod.fst tried), attempted, tried, push_along]

theorem step_along_settled {outcome : Outcome α} (fresh : plug ∉ callers)
    (ending : (desk (plug :: callers) plug).carry (c.reading frame plug) notes =
      (.ok outcome, later)) :
    (along (plug :: callers) notes).step c frame =
      along callers (later.keep plug (c.settle plug outcome)) := by
  have tried : (along (plug :: callers) notes).attempt c frame plug =
      (.ok outcome, along (plug :: callers) later) := by
    rw [attempt_along, ending]
    rfl
  rw [step_settled rfl (congrArg Prod.fst tried), attempted, tried, pop_along fresh]

end Walk

namespace Descent

variable {α : Type} [Scalar α] {c : Context α} {frame : α} {callers : List String} {plug : String}
  {notes later : Notes α}

/-- What a descent to a plug comes to: notes that follow and hold its value, and that a walk reaches
with the plug off the stack again. -/
structure Reached (c : Context α) (frame : α) (callers : List String) (plug : String)
    (notes : Notes α) (value : α) (later : Notes α) : Prop where
  follows : notes.Follows callers later
  known : later.cache[plug]? = some value
  steps : ∃ n, (Walk.step c frame)^[n] (.along (plug :: callers) (notes.visit plug)) =
    .along callers later

/-- The rest of a reading, once the walk has come as far. The step that begins at `start` gets to
`rest` with the notes that the descent has. -/
theorem exists_iterate_of_answer {descend : String → Descent α α}
    (reached : ∀ {asked notes value later}, asked ∉ plug :: callers →
      notes.cache[asked]? = none → (descend asked).run notes = some (value, later) →
      Reached c frame (plug :: callers) asked notes value later)
    (fresh : plug ∉ callers) {rest : Reading α (Outcome α)} {start : Notes α} {outcome : Outcome α}
    (arrives : (Walk.desk (plug :: callers) plug).carry (c.reading frame plug) start =
      (Walk.desk (plug :: callers) plug).carry rest notes)
    (replays : (Walk.desk (plug :: callers) plug).Replays (c.reading frame plug) rest notes)
    (answered : (rest.answerM (read descend (plug :: callers) plug)).run notes =
      some (outcome, later)) :
    notes.Follows (plug :: callers) later ∧
      ∃ n, (Walk.step c frame)^[n] (.along (plug :: callers) start) =
        .along callers (later.keep plug (c.settle plug outcome)) := by
  induction rest generalizing notes start with
  | done result =>
    obtain ⟨rfl, rfl⟩ : result = outcome ∧ notes = later := by simpa using answered
    exact ⟨.refl _ _, 1, Walk.step_along_settled fresh arrives⟩
  | ask asked next ih =>
    obtain ⟨value, between, replied, remaining⟩ := exists_of_answer_ask answered
    rcases read_cases replied with ⟨known, rfl⟩ | ⟨absent, ⟨stacked, rfl, rfl⟩ | ⟨stacked, went⟩⟩
    · exact ih value (arrives.trans (Desk.carry_known known _)) (replays.known known) remaining
    · -- Zero, after a report that later attempts do not repeat.
      have underway : asked ∈ (Walk.desk (plug :: callers) plug).underway := by
        simpa [Walk.desk] using stacked
      obtain ⟨follows, steps⟩ := ih 0 (arrives.trans (Desk.carry_underway absent underway _))
        (replays.underway absent stacked underway) remaining
      exact ⟨(Notes.Follows.reportCycle _ _ _).trans follows, steps⟩
    · -- The walk pushes the plug, gets its value and starts over.
      have idle : asked ∉ (Walk.desk (plug :: callers) plug).underway := by
        simpa [Walk.desk] using stacked
      have down := reached stacked absent went
      have replays := replays.follow down.follows
      obtain ⟨follows, n, rest⟩ := ih value ((replays _ (.refl _ _)).trans
        (Desk.carry_known down.known _)) (replays.known down.known) remaining
      obtain ⟨m, there⟩ := down.steps
      have missing := Walk.step_along_missing (arrives.trans (Desk.carry_missing absent idle _))
      refine ⟨down.follows.trans follows, n + (m + 1), ?_⟩
      rw [Function.iterate_add_apply, Function.iterate_succ_apply, missing, there, rest]

/-- A walk takes the way of the descent. -/
theorem reached_of_visit {depth : Nat} {value : α} (fresh : plug ∉ callers)
    (absent : notes.cache[plug]? = none)
    (visited : (visit c frame depth callers plug).run notes = some (value, later)) :
    Reached c frame callers plug notes value later := by
  induction depth generalizing callers plug notes value later with
  | zero => cases visited
  | succ depth ih =>
    obtain ⟨_, outcome, between, ⟨⟩, answered, rfl, rfl⟩ := exists_of_visit visited
    obtain ⟨follows, steps⟩ := exists_iterate_of_answer ih fresh rfl (.refl _ _ _) answered
    have unknown := follows.unknown plug List.mem_cons_self absent
    refine ⟨?_, ?_, steps⟩
    · exact ((Notes.Follows.visit notes plug).trans follows.tail).trans (.keep unknown fresh _)
    · exact Std.ExtTreeMap.getElem?_insert_self

/-- Answering a reading succeeds if going down does wherever it may be necessary. -/
theorem isSome_answer {ω : Type} {descend : String → Descent α α} {stack : List String}
    {p : String → Prop}
    (down : ∀ asked notes, p asked → asked ∉ stack → ((descend asked).run notes).isSome)
    {reading : Reading α ω} (asks : reading.AsksOnly p) :
    ((reading.answerM (read descend stack plug)).run notes).isSome := by
  induction reading generalizing notes with
  | done => rfl
  | ask asked next ih =>
    rw [Dialogue.answerM_ask, StateT.run_bind]
    cases known : notes.cache[asked]? with
    | some value =>
      rw [read_known known]
      exact ih value (asks.2 value)
    | none =>
      by_cases stacked : asked ∈ stack
      · rw [read_caller known stacked]
        exact ih 0 (asks.2 0)
      · rw [read_down known stacked]
        obtain ⟨⟨value, between⟩, went⟩ :=
          Option.isSome_iff_exists.mp (down asked notes asks.1 stacked)
        rw [went]
        exact ih value (asks.2 value)

/-- A descent succeeds that may go as deep as there are plugs. -/
theorem isSome_visit {plugs : List String}
    (asks : ∀ text, (c.reading frame text).AsksOnly (· ∈ plugs)) {depth : Nat}
    (nodup : (plug :: callers).Nodup) (subset : plug :: callers ⊆ plugs)
    (deep : plugs.length ≤ depth + callers.length) :
    ((visit c frame depth callers plug).run notes).isSome := by
  induction depth generalizing callers plug notes with
  | zero =>
    have room := (nodup.subperm subset).length_le
    simp only [List.length_cons] at room
    omega
  | succ depth ih =>
    rw [visit_succ, Option.isSome_map]
    refine isSome_answer (fun asked notes member idle => ?_) (asks plug)
    refine ih (List.nodup_cons.mpr ⟨idle, nodup⟩) (List.cons_subset.mpr ⟨member, subset⟩) ?_
    simp only [List.length_cons]
    omega

end Descent

namespace Evaluator

variable {α : Type} [Scalar α]

namespace Sound

variable {e : Evaluator α}

theorem setOut_eq (h : e.Sound) (root : String) :
    e.setOut root = .along [root] ((Notes.start e.cache).visit root) := by
  rw [← Walk.push_along, Evaluator.setOut, Walk.along, h.idle, h.clear]
  rfl

/-- Nothing under way is left to adopt. -/
theorem adopt_along (h : e.Sound) (notes : Notes α) : e.adopt (.along [] notes) = e.note notes := by
  have idle := h.idle
  have clear := h.clear
  cases e
  cases idle
  cases clear
  rfl

/-- A walk ends where the descent does. -/
theorem exists_visit (h : e.Sound) (frame : α) {root : String} (unknown : root ∉ e.cache)
    {depth : Nat} (deep : e.vocabulary.length < depth) :
    ∃ value later, (Descent.visit e.context frame depth [] root).run (.start e.cache) =
      some (value, later) ∧ later.cache[root]? = some value ∧
      e.walk root frame = .along [] later := by
  have absent : (Notes.start e.cache).cache[root]? = none := by simpa [Notes.start] using unknown
  have found : ((Descent.visit e.context frame depth [] root).run (.start e.cache)).isSome :=
    Descent.isSome_visit (h.asksOnly root frame) (List.pairwise_singleton _ _)
      (List.cons_subset.mpr ⟨List.mem_cons_self, List.nil_subset _⟩) deep
  obtain ⟨⟨value, later⟩, visited⟩ := Option.isSome_iff_exists.mp found
  have reached := Descent.reached_of_visit List.not_mem_nil absent visited
  obtain ⟨n, steps⟩ := reached.steps
  refine ⟨value, later, visited, reached.known, ?_⟩
  have done := h.walk_done frame unknown
  rw [Evaluator.walk, Walk.run_eq_iterate] at done ⊢
  rw [← h.setOut_eq] at steps
  rw [← steps]
  exact Walk.iterate_unique done (by rw [steps]; rfl)

/-- A query gives the answer of the descent. -/
theorem descent_eq (h : e.Sound) {depth : Nat} (deep : e.vocabulary.length < depth) (text : String)
    (frame : α) :
    Descent.evaluate depth text frame e = some ((Query.evaluate text frame).run e) := by
  have ready := h.atFrame frame
  have deep : (e.atFrame frame).vocabulary.length < depth := by
    unfold Evaluator.atFrame
    split <;> exact deep
  simp only [Descent.evaluate, Query.run, Query.evaluate]
  split
  · rfl
  · generalize e.atFrame frame = e at ready deep
    cases known : e.cache[Plug.normalize text]? with
    | some value => rfl
    | none =>
      obtain ⟨value, later, visited, found, walked⟩ :=
        ready.exists_visit frame (by simpa using known) deep
      have kept : later.cache.getD (Plug.normalize text) 0 = value := by
        rw [Std.ExtTreeMap.getD_eq_getD_getElem?, found]
        rfl
      simp only [visited, walked, ready.adopt_along]
      simp only [Walk.along, kept]
      rfl

end Sound

/-- In every state that a session can leave an evaluator in, a query gives the answer of the
descent: the same value, the same events in the same order and the same evaluator afterwards. -/
theorem descent_eq_evaluate (nodes : List Node) (connections : List Connection)
    (curves : List (String × CurveShape α)) (rotation : RotationBlend α)
    (session : List (Operation α)) (text : String) (frame : α) (extra : Nat) :
    let e := (ofGraph (.ofRecords nodes connections) curves rotation).after session
    Descent.evaluate (e.vocabulary.length + 1 + extra) text frame e =
      some ((Query.evaluate text frame).run e) := by
  intro e
  have sound : e.Sound := (sound_ofGraph nodes connections curves rotation).after session
  exact sound.descent_eq (by omega) text frame

end Evaluator

end PlugGraph
