import PlugGraph.Curve
import PlugGraph.Eval.Walk

/-!
# Querying an evaluator

An evaluator keeps the values that it has computed for one frame, its *anchor*. A query at a frame
that is not approximately the anchor drops them and moves the anchor; any other query uses them and
leaves the anchor where it is.

An operation on an evaluator is a `Query`: it gives an answer made of a value, the events that the
outside gets to see, and the evaluator afterwards. Queries never fail.
-/

namespace PlugGraph

/-- A scene ready to be queried. -/
structure Evaluator (α : Type) where
  context : Context α
  /-- The plugs that computations may ever read; it bounds the length of a walk. -/
  vocabulary : List String
  /-- The frame that the known values belong to, if there are any. -/
  anchor : Option α
  /-- The values known for the anchor. -/
  cache : Std.ExtTreeMap String α
  /-- The plugs under way; there are none between queries. -/
  underway : Std.ExtTreeSet String
  /-- The plug whose reading is being attempted; there is none between queries. -/
  current : Option String
  /-- The pairs of a plug and a plug under way that the latest walk has reported. -/
  reported : Std.ExtHashSet (String × String)

structure Answer (α ω : Type) where
  value : ω
  /-- What the query lets be seen besides its value, in order. -/
  events : List (Event α)
  /-- The evaluator after the query. -/
  evaluator : Evaluator α

/-- An operation on an evaluator. -/
def Query (α ω : Type) := Evaluator α → Answer α ω

namespace Query

variable {α ω υ : Type}

def run (query : Query α ω) (e : Evaluator α) : Answer α ω := query e

def bind (query : Query α ω) (next : ω → Query α υ) : Query α υ := fun e =>
  let first := query e
  let second := next first.value first.evaluator
  { second with events := first.events ++ second.events }

instance : Monad (Query α) where
  pure value := fun e => ⟨value, [], e⟩
  bind := bind

@[simp] theorem run_pure (value : ω) (e : Evaluator α) :
    (pure value : Query α ω).run e = ⟨value, [], e⟩ := rfl

theorem run_bind (query : Query α ω) (next : ω → Query α υ) (e : Evaluator α) :
    (query >>= next).run e =
      let first := query.run e
      let second := (next first.value).run first.evaluator
      { second with events := first.events ++ second.events } := rfl

@[simp] theorem run_map (f : ω → υ) (query : Query α ω) (e : Evaluator α) :
    (f <$> query).run e = { query.run e with value := f (query.run e).value } := by
  change (query >>= fun value => pure (f value)).run e = _
  simp only [run_bind, run_pure, List.append_nil]

def modify (f : Evaluator α → Evaluator α) : Query α Unit := fun e => ⟨(), [], f e⟩

end Query

namespace Evaluator

variable {α : Type}

/-- Forgets all values and the anchor. -/
def reset (e : Evaluator α) : Evaluator α := { e with anchor := none, cache := ∅, underway := ∅ }

/-- Removes a node. The indices of the graph and the kinds of nodes stay as they are. -/
def eraseNode (e : Evaluator α) (name : String) : Evaluator α :=
  { e with context := { e.context with graph := e.context.graph.eraseNode name } }

variable [Scalar α]

/-- An evaluator of a graph with curves of any shape. Of several curves of one name the last one
counts. -/
def ofGraph (graph : Graph) (curves : List (String × CurveShape α)) (rotation : RotationBlend α) :
    Evaluator α :=
  let context : Context α :=
    { graph
      curves := curves.foldl (fun table (name, curve) => table.insert name curve) ∅
      kinds := graph.table.map fun _ node => .ofType node.type
      programs := ∅
      rotation }
  { context
    vocabulary := context.vocabulary
    anchor := none
    cache := ∅
    underway := ∅
    current := none
    reported := ∅ }

/-- An evaluator of a scene with curves that are given by keys. -/
def ofScene (graph : Graph) (curves : List (String × Curve α)) (rotation : RotationBlend α) :
    Evaluator α :=
  .ofGraph graph (curves.map fun (name, curve) => (name, curve.value)) rotation

/-- Puts a node under a name. The indices of the graph, the kinds of nodes and the programs already
parsed stay as they are. -/
def setNode (e : Evaluator α) (name : String) (node : Node) : Evaluator α :=
  { e with
    context := { e.context with graph := e.context.graph.setNode name node }
    vocabulary := Context.nodeVocabulary α node ++ e.vocabulary }

/-- Whether the known values may be used at a frame. -/
def holds (e : Evaluator α) (frame : α) : Bool := e.anchor.any (Scalar.approximately · frame)

def atFrame (e : Evaluator α) (frame : α) : Evaluator α :=
  if e.holds frame then e else { e with anchor := some frame, cache := ∅, underway := ∅ }

/-- A bound on the steps of a walk: every plug is pushed once and leaves the stack once. -/
def stepLimit (e : Evaluator α) : Nat := 2 * (e.vocabulary.length + 1)

/-- The beginning of a walk to a plug that has no value yet. -/
def setOut (e : Evaluator α) (plug : String) : Walk α :=
  Walk.push
    { toDesk := { stack := [], underway := e.underway, current := e.current }
      toNotes := .start e.cache } plug

/-- The walk to a plug that has no value yet. -/
def walk (e : Evaluator α) (plug : String) (frame : α) : Walk α :=
  Walk.run e.context frame e.stepLimit (e.setOut plug)

def adopt (e : Evaluator α) (walk : Walk α) : Evaluator α :=
  { e with
    context := walk.visited.foldr (fun plug c => c.keepProgramOf plug) e.context
    cache := walk.cache
    underway := walk.underway
    current := walk.current
    reported := walk.reported }

end Evaluator

namespace Query

variable {α : Type} [Scalar α]

/-- The value of a plug at a frame; zero for a blank text. -/
def evaluate (text : String) (frame : α) : Query α α := fun e =>
  if Text.isBlankText text then ⟨0, [], e⟩
  else
    let e := e.atFrame frame
    let plug := Plug.normalize text
    match e.cache[plug]? with
    | some value => ⟨value, [], e⟩
    | none =>
      let walk := e.walk plug frame
      { value := walk.cache.getD plug 0
        events := walk.events.toList
        evaluator := e.adopt walk }

/-- The value of a name in an expression. -/
def resolve (name : String) (frame : α) : Query α α := fun e =>
  match e.context.tokenPlug? name with
  | some plug => evaluate plug frame e
  | none => ⟨0, [], e⟩

/-- Answers the questions of an expression at a frame. -/
def answer {ω : Type} (frame : α) (d : Dialogue String (Option α) ω) : Query α ω :=
  d.answerM fun name => some <$> resolve name frame

@[simp] theorem run_answer_done {ω : Type} (frame : α) (result : ω) (e : Evaluator α) :
    (answer frame (.done result)).run e = ⟨result, [], e⟩ := rfl

@[simp] theorem run_answer_ask {ω : Type} (frame : α) (name : String)
    (next : Option α → Dialogue String (Option α) ω) (e : Evaluator α) :
    (answer frame (.ask name next)).run e =
      let first := (resolve name frame).run e
      let second := (answer frame (next (some first.value))).run first.evaluator
      { second with events := first.events ++ second.events } := by
  simp only [answer, Dialogue.answerM_ask, run_bind, run_map]

/-- The value of an expression whose variables are given. -/
def interpret (text : String) (frame : α) (locals : Expr.Postfix.Variables α) : Query α α :=
  answer frame (Expr.evaluate frame locals text)

/-- The program of a node, which need not be one of the graph: the one parsed for its name before,
or else its own, which is kept under its name. -/
def program (node : Node) : Query α Expr.Program := fun e =>
  { value := e.context.program node
    events := []
    evaluator :=
      { e with
        context := e.context.keepProgram node
        vocabulary := Context.nodeVocabulary α node ++ e.vocabulary } }

end Query

end PlugGraph
