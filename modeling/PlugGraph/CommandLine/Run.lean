import PlugGraph.CommandLine.Command
import PlugGraph.CommandLine.Report
import PlugGraph.Document.SampleFile

/-!
# Running commands

Each command loads a scene, evaluates something in it, and reports the results. Files are accessed
through a `FileSystem`, and reports are laid out for a terminal of `width` columns.
-/

namespace PlugGraph.CommandLine

open PlugGraph.Display
open PlugGraph.Text (Symbol)

def diagnosticPanel (diagnostics : List Diagnostic) : Except Markup.Flaw Panel := do
  let kinds ← column "Kind" .left (diagnostics.map (·.kind.name))
  let plugs ← column "Plug" .left (diagnostics.map (·.plug))
  let details ← column "Detail" .left (diagnostics.map (·.cause.message))
  return { table := ⟨[kinds, plugs, details], false⟩, title := Line.ofString "Diagnostics" }

def diagnosticReport (width : Nat) (diagnostics : List Diagnostic) : Report :=
  if diagnostics.isEmpty then { ending := .success }
  else .display width .errors ((diagnosticPanel diagnostics).map (Panel.lines width))

/-- An evaluator of a scene that blends rotations at constant speed. -/
def evaluatorOf (scene : Scene Float) : Evaluator Float :=
  .ofScene scene.graph scene.curves slerpEuler

def evaluateReport (width : Nat) (scene : Scene Float) (plug : String) (frame : Float)
    (diagnostics : Bool) : Report :=
  let answer := (Query.evaluate plug frame).run (evaluatorOf scene)
  (Report.print width .output (number answer.value)).andThen <|
    diagnosticReport width (if diagnostics then Event.diagnostics answer.events else [])

def valueTable (values : List (Expr.Assignment × Float)) : Except Markup.Flaw Table := do
  let targets ← column "Target" .left (values.map (·.1.target))
  let numbers ← column "Value" .right (values.map fun (_, value) => number value)
  return ⟨[targets, numbers], false⟩

/-- Reports the value of an expression, or those of the statements of a program. -/
def interpretReport (width : Nat) (scene : Scene Float) (text : String) (frame : Float) : Report :=
  let program := Expr.Program.ofText text
  let e := evaluatorOf scene
  if program.assignments.any fun a => !a.target.isEmpty then
    let values := ((Query.answer frame (program.values frame)).run e).value
    .display width .output ((valueTable values).map (Table.lines width))
  else .print width .output (number ((Query.interpret text frame []).run e).value)

/-- How many nodes there are of each type that occurs, in ascending order of the types. -/
def typeCounts (graph : Graph) : List (String × Nat) :=
  let counts : Std.ExtTreeMap String Nat := graph.nodes.foldl (fun counts node =>
    counts.insert node.type (counts.getD node.type 0 + 1)) ∅
  counts.toList

def isSupported (type : String) : Bool := (Kind.ofType type).hasFormula

def coveragePanel (graph : Graph) : Except Markup.Flaw Panel := do
  let counts := typeCounts graph
  let supported := counts.foldl (fun known (type, count) =>
    if isSupported type then known + count else known) 0
  let types ← column "Node type" .left (counts.map (·.1))
  let numbers ← column "Count" .right (counts.map fun (_, count) => toString count)
  let marks ← column "Supported" .left (counts.map fun (type, _) =>
    if isSupported type then "✓" else "-")
  return {
    table := ⟨[types, numbers, marks], true⟩
    title := Line.ofString "Node type coverage"
    subtitle := some <| Line.ofString <|
      toString supported ++ "/" ++ toString graph.size ++ " nodes computed" }

/-- Reports plugs that depend on a cycle, if there are any. -/
def cycleReport (width : Nat) (plugs : List String) : Report :=
  if plugs.isEmpty then { ending := .success }
  else
    let head := "[yellow]⚠ " ++ toString plugs.length ++
      " plug(s) on or downstream of a cycle:[/yellow]"
    let items := plugs.map fun plug => "  [yellow]•[/yellow] " ++ Markup.escape plug
    (head :: items).foldl (fun report line => report.andThen (.print width .errors line))
      { ending := .success }

/-- Reports which node types have a formula, and which plugs depend on a cycle. -/
def coverageReport (width : Nat) (scene : Scene Float) : Report :=
  (Report.display width .output ((coveragePanel scene.graph).map (Panel.lines width))).andThen <|
    cycleReport width scene.graph.cyclicPlugs

structure Plan where
  plugs : List String
  first : Float
  last : Float
  step : Float
  output : Option Path

/-- Fills what a command leaves open from settings and the scene: by default the driven channels of
transforms are sampled at frame zero. -/
def Plan.of (settings : Settings) (graph : Graph) (plugs : List String)
    (first last step : Option Float) (output : Option Path) : Plan :=
  let chosen := if plugs.isEmpty then settings.plugs else plugs
  let start := (first.or settings.first).getD 0
  { plugs := if chosen.isEmpty then Binding.drivenPlugs graph else chosen
    first := start
    last := (last.or settings.last).getD start
    step := (step.or settings.step).getD 1
    output := output.or settings.output }

/-- The table of samples, with a row for each frame. -/
def sampleTable (plugs : List String) (samples : Samples Float) : Except Markup.Flaw Table := do
  let frames ← column "Frame" .right (samples.frames.map number)
  let series ← plugs.mapM fun plug =>
    column plug .right (((samples.series.lookup plug).getD []).map number)
  return ⟨frames :: series, true⟩

def rangeMessage : FrameRangeError Float → String
  | .badStep step => "step must be a positive number, got " ++ Double.text step
  | .fault fault => fault.text

/-- Reports an error in a range of frames. An infinite number of frames ends the command out of
turn. -/
def rangeReport (width : Nat) (error : FrameRangeError Float) : Report :=
  match error with
  | .fault .integerOfInfinity => .breakdown (.fault .integerOfInfinity)
  | error => .fail width (rangeMessage error)

/-- Announces the loading of a scene. The path is taken as markup. -/
def loadingReport (width : Nat) (path : Path) : Report :=
  .print width .errors ("[cyan]Loading scene from:[/cyan] " ++ path.text)

def loadReport (width : Nat) (error : LoadError) : Report :=
  if error.isReport then .fail width error.message else .breakdown (.load error)

def settingsReport (width : Nat) (error : SettingsError) : Report :=
  if error.isReport then .fail width error.message else .breakdown (.settings error)

variable {m : Type → Type} [Monad m]

def withScene (files : FileSystem m) (width : Nat) (path : Path)
    (next : Scene Float → m Report) : m Report := do
  let loading := loadingReport width path
  match loading.ending with
  | .success =>
    match ← Scene.load files path with
    | .ok scene => return loading.andThen (← next scene)
    | .error error => return loading.andThen (loadReport width error)
  | _ => return loading

/-- Writes samples to a file. The path is taken as markup in the report. -/
def writeSamples (files : FileSystem m) (width : Nat) (path : Path) (samples : Samples Float) :
    m Report := do
  match ← SampleFile.save files path samples with
  | .ok () =>
    let count := toString samples.frames.length
    return .print width .errors
      ("[green]✓ Wrote " ++ count ++ " frame(s) to " ++ path.text ++ "[/green]")
  | .error error => return .breakdown (.file path error)

/-- Samples a scene as planned, into a file or onto the standard output. -/
def samplePlan (files : FileSystem m) (width : Nat) (scene : Scene Float) (plan : Plan) :
    m Report :=
  if plan.plugs.isEmpty then
    return .fail width "Nothing to sample: pass --plug or connect transform channels in the scene"
  else
    let query := Query.sample plan.plugs plan.first plan.last plan.step
    match (query.run (evaluatorOf scene)).value, plan.output with
    | .error error, _ => return rangeReport width error
    | .ok samples, some path => writeSamples files width path samples
    | .ok samples, none =>
      return .display width .output ((sampleTable plan.plugs samples).map (Table.lines width))

def Command.run (files : FileSystem m) (width : Nat) : Command → m Report
  | evaluate scene plug frame diagnostics =>
    withScene files width (.ofText scene) fun scene =>
      return evaluateReport width scene plug frame diagnostics
  | interpret scene text frame =>
    withScene files width (.ofText scene) fun scene =>
      return interpretReport width scene text frame
  | coverage scene =>
    withScene files width (.ofText scene) fun scene => return coverageReport width scene
  | sample scene plugs first last step output => do
    match ← Settings.current files with
    | .error error => return settingsReport width error
    | .ok settings =>
      match (scene.map Path.ofText).or settings.scene with
      | none => return .fail width "No scene given and no [tool.dgeval].scene configured"
      | some path =>
        withScene files width path fun scene =>
          samplePlan files width scene <|
            .of settings scene.graph plugs first last step (output.map Path.ofText)

def run (files : FileSystem m) (width : Nat) (arguments : List String) : m Report :=
  match Request.ofArguments arguments with
  | .error .misuse => return { ending := .misuse }
  | .error (.path text error) => return .breakdown (.file (.ofText text) error)
  | .ok .help => return { ending := .success }
  | .ok (.run command) => command.run files width

end PlugGraph.CommandLine
