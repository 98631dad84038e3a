import PlugGraph.Proofs.Exact
import PlugGraph.Proofs.Slots

/-!
# Three views of a program

A program can be run for the values of all statements, for one output slot, or for what it writes to
transform channels. The three agree about every statement they share, however the names are resolved
and whichever of them fail to be: a slot skips the statements that feed other slots, but these
assign to no variable, so the statements behind them see the same variables. The statement of this
is `Expr.Program.views_agree`.
-/

namespace PlugGraph

/-- The channels are found by their names. -/
theorem Channel.name_of_ofName? {name : String} {channel : Channel}
    (found : Channel.ofName? name = some channel) : channel.name = name := by
  have named := List.find?_some found
  exact beq_iff_eq.mp named

namespace Expr

/-- Whether the target of a statement is a transform channel of a node, in any letter case. -/
def Assignment.isWritten (a : Assignment) : Bool :=
  a.targetPlug?.any fun plug => (Channel.all.map Channel.name).contains (Text.lower plug.attr)

namespace Program

variable {α : Type}

/-- A write is that of a statement and its value. -/
structure Write.IsOf (write : Write α) (entry : Assignment × α) : Prop where
  target : ∃ attr, entry.1.targetPlug? = some ⟨write.node, attr⟩ ∧
    Text.lower attr = write.channel.name
  value : write.value = entry.2

/-- A statement makes a write if its target is a transform channel. -/
theorem write?_cases (entry : Assignment × α) :
    (entry.1.isWritten = true ∧ ∃ write, write? entry = some write ∧ write.IsOf entry) ∨
      (entry.1.isWritten = false ∧ write? entry = none) := by
  unfold Assignment.isWritten write?
  cases target : entry.1.targetPlug? with
  | none => exact .inr ⟨rfl, rfl⟩
  | some plug =>
    cases found : Channel.ofName? (Text.lower plug.attr) with
    | none =>
      have unknown := List.find?_eq_none.mp found
      refine .inr ⟨?_, by simp [found]⟩
      simpa using unknown
    | some channel =>
      have named := Channel.name_of_ofName? found
      have known : Text.lower plug.attr ∈ Channel.all.map Channel.name := by
        rw [← named]
        exact List.mem_map_of_mem (List.mem_of_find?_eq_some found)
      refine .inl ⟨by simpa using known, ⟨plug.node, channel, entry.2⟩, by simp [found], ?_⟩
      exact ⟨⟨plug.attr, target, named.symm⟩, rfl⟩

/-- The writes are those of the statements whose targets are transform channels. -/
theorem forall₂_isOf (entries : List (Assignment × α)) :
    List.Forall₂ Write.IsOf (entries.filterMap write?) (entries.filter (·.1.isWritten)) := by
  induction entries with
  | nil => exact .nil
  | cons entry rest ih =>
    rw [List.filter_cons]
    rcases write?_cases entry with ⟨written, write, made, isOf⟩ | ⟨unwritten, nothing⟩
    · rw [List.filterMap_cons_some made, if_pos written]
      exact .cons isOf ih
    · rw [List.filterMap_cons_none nothing, if_neg (Bool.eq_false_iff.mp unwritten)]
      exact ih

variable [Scalar α] {frame : α} {reply : String → Option α}

/-- Each statement gets one value, in source order. -/
theorem map_fst_valuesFrom (locals : Postfix.Variables α) (assignments : List Assignment) :
    ((valuesFrom frame locals assignments).result reply).map (·.1) = assignments := by
  induction assignments generalizing locals with
  | nil => rfl
  | cons a rest ih =>
    simp only [valuesFrom, Dialogue.bind_eq, Dialogue.result_bind, Dialogue.pure_eq,
      Dialogue.result_done, List.map_cons, ih]

/-- A slot has the value of its statement. -/
theorem result_output (program : Program) (slot : Nat) :
    (program.output frame slot).result reply =
      slotValue ((program.values frame).result reply) slot := by
  have whole := Dialogue.answerM_some reply (valuesFrom frame [] program.assignments)
  have alone := answerM_slotFrom whole slot
  rw [Dialogue.answerM_some] at alone
  exact Option.some.inj alone

/-- The statements of a run are those of the program, those that are not local feed the slots in
order, and a slot that none of them feeds is zero. What is written is what the run gives to the
statements whose targets are transform channels. -/
theorem views_agree (program : Program) (frame : α) (resolver : String → α → Option α) :
    let reply (name : String) := resolver name frame
    let entries := (program.values frame).result reply
    let fed := entries.filter (!·.1.isLocal)
    entries.map (·.1) = program.assignments ∧
      fed.map (·.1) = program.outputs ∧
      (∀ i : Int, (program.output frame i).result reply =
        if i < 0 then 0 else (fed[i.toNat]?.map (·.2)).getD 0) ∧
      List.Forall₂ Write.IsOf ((program.writes frame).result reply)
        (entries.filter (·.1.isWritten)) := by
  intro reply entries fed
  have statements : entries.map (·.1) = program.assignments :=
    map_fst_valuesFrom [] program.assignments
  refine ⟨statements, ?_, ?_, ?_⟩
  · rw [outputs, ← statements, List.filter_map]
    rfl
  · intro i
    cases i with
    | ofNat slot => exact result_output program slot
    | negSucc n => exact (if_pos (Int.negSucc_lt_zero n)).symm
  · have collected : (program.writes frame).result reply = entries.filterMap write? :=
      Dialogue.result_bind reply (program.values frame) _
    rw [collected]
    exact forall₂_isOf entries

/-- Only the second statement is written, and the slots are those of the last two. -/
example :
    let program := ofText "float $k = a.x * 2; b.tx = $k; c.weight = $k + 1;"
    let reply (name : String) : Option ℚ := if name = "a.x" then some 3 else none
    ((program.values 0).result reply).map (fun entry => (entry.1.isLocal, entry.2)) =
        [(true, 6), (false, 6), (false, 7)] ∧
      [0, 1, 2].map (fun slot => (program.output 0 slot).result reply) = [6, 7, 0] ∧
      ((program.writes 0).result reply).map (fun w => (w.node, w.channel.name, w.value)) =
        [("b", "tx", 6)] := by
  decide +kernel

end Program

end Expr

end PlugGraph
