import PlugGraph.Eval.Query
import PlugGraph.FrameRange
import PlugGraph.Scene.Binding

/-!
# Sampling

Samples are the values of several plugs over a range of frames. For each frame all plugs are
evaluated before the next frame is turned to, so that they share what is known for it.
-/

namespace PlugGraph

structure Samples (α : Type) where
  frames : List α
  /-- For each plug one value per frame. -/
  series : List (String × List α)

namespace Query

variable {α : Type} [Scalar α]

def evaluateAll (plugs : List String) (frame : α) : Query α (List α) :=
  plugs.mapM (evaluate · frame)

def sampleAt (plugs : List String) (frames : List α) : Query α (Samples α) := do
  let plugs := plugs.eraseDups
  let rows ← frames.mapM (evaluateAll plugs)
  return ⟨frames, plugs.zipIdx.map fun (plug, i) => (plug, rows.map fun row => row.getD i 0)⟩

def sample (plugs : List String) (first last step : α) :
    Query α (Except (FrameRangeError α) (Samples α)) :=
  match frameRange first last step with
  | .ok frames => .ok <$> sampleAt plugs frames
  | .error error => return .error error

def evaluateChannels (channels : List (Channel × String)) (frame : α) :
    Query α (List (Channel × α)) :=
  channels.mapM fun (channel, source) => return (channel, ← evaluate source frame)

/-- The values of bound channels by node. Of several bindings of one node the last one counts, in
the place of the first. -/
def sampleBindings (bindings : List Binding) (frame : α) :
    Query α (List (String × List (Channel × α))) :=
  bindings.foldlM (fun sampled binding =>
    return Assoc.put binding.node (← evaluateChannels binding.channels frame) sampled) []

end Query

end PlugGraph
