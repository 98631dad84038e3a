import Std.Data.ExtTreeMap
import Std.Data.ExtTreeSet

/-!
# Vertices that cannot be ordered

Vertices of a directed graph are released one by one: those without predecessors first, and every
other one when the last of its predecessors has been released. What is never released lies on a
cycle or downstream of one.
-/

namespace PlugGraph.Blocked

variable {κ : Type} [Ord κ] [Std.TransOrd κ]

/-- A directed graph: the successors of each vertex, repeated ones included. Successors need not
be keys themselves. -/
abbrev Successors (κ : Type) [Ord κ] := Std.ExtTreeMap κ (List κ) compare

abbrev Indegrees (κ : Type) [Ord κ] := Std.ExtTreeMap κ Nat compare

def countEdge (degrees : Indegrees κ) (target : κ) : Indegrees κ :=
  degrees.insert target (degrees.getD target 0 + 1)

/-- Counts the edges out of a vertex, which is counted with none into it if it is new. -/
def countVertex (degrees : Indegrees κ) (entry : κ × List κ) : Indegrees κ :=
  entry.2.foldl countEdge (degrees.insert entry.1 (degrees.getD entry.1 0))

def indegrees (successors : Successors κ) : Indegrees κ :=
  successors.toList.foldl countVertex ∅

/-- How far releasing has come. -/
structure Progress (κ : Type) [Ord κ] where
  /-- The edges into each vertex that come from vertices not yet released. -/
  pending : Indegrees κ
  /-- Vertices without such edges that wait for their release. -/
  ready : List κ
  /-- Vertices already released. -/
  released : Std.ExtTreeSet κ compare

/-- Takes away one edge into a vertex, which gets ready when it was the last. -/
def removeEdge (progress : Progress κ) (target : κ) : Progress κ :=
  let left := progress.pending.getD target 0 - 1
  { progress with
    pending := progress.pending.insert target left
    ready := if left == 0 then target :: progress.ready else progress.ready }

/-- Releases ready vertices until none is left; `fuel` bounds their number. -/
def release (successors : Successors κ) : (fuel : Nat) → Progress κ → Progress κ
  | 0, progress => progress
  | fuel + 1, progress =>
    match progress.ready with
    | [] => progress
    | vertex :: rest =>
      let progress := { progress with ready := rest, released := progress.released.insert vertex }
      release successors fuel ((successors.getD vertex []).foldl removeEdge progress)

/-- Everything that can be released has been. -/
def released (successors : Successors κ) : Std.ExtTreeSet κ compare :=
  let degrees := indegrees successors
  let ready := (degrees.toList.filter (·.2 == 0)).map (·.1)
  (release successors degrees.size ⟨degrees, ready, ∅⟩).released

/-- The vertices on a cycle or downstream of one, in ascending order. -/
def vertices (successors : Successors κ) : List κ :=
  let released := released successors
  (indegrees successors).keys.filter (!released.contains ·)

end PlugGraph.Blocked
