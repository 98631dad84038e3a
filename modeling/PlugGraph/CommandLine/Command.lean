import PlugGraph.CommandLine.Options
import PlugGraph.FileSystem
import PlugGraph.Number.Spelled

/-!
# Commands

What the program can be asked for: to evaluate one plug, to sample plugs over a range of frames, to
evaluate an expression, and to report which node types of a scene have a formula.

The first operand of every command is the path of a scene. The values of options are checked in the
order in which the options are first given, the scene behind them, and the number of operands at
last; the first error counts.
-/

namespace PlugGraph.CommandLine

inductive Command where
  | evaluate (scene plug : String) (frame : Float) (diagnostics : Bool)
  | sample (scene : Option String) (plugs : List String) (first last step : Option Float)
      (output : Option String)
  | interpret (scene text : String) (frame : Float)
  | coverage (scene : String)

/-- What a command line asks for. -/
inductive Request where
  | help
  | run (command : Command)

/-- Why a command line asks for nothing. -/
inductive ArgumentError where
  | misuse
  /-- A text cannot be a path. -/
  | path (text : String) (error : FileError)
deriving DecidableEq, Repr

inductive OptionKey where
  | help
  | verbose
  | quiet
  | frame
  | diagnostics
  | plug
  | start
  | stop
  | step
  | output
deriving DecidableEq, Repr

def helpOption : OptionForm OptionKey := { key := .help, long := ["help"], takesValue := false }

def frameOption : OptionForm OptionKey := { key := .frame, long := ["frame"], short := some 'f' }

/-- The options in front of the name of a command. -/
def generalOptions : List (OptionForm OptionKey) :=
  [helpOption, { key := .verbose, long := ["verbose"], takesValue := false },
   { key := .quiet, long := ["no-verbose"], takesValue := false }]

def evaluateOptions : List (OptionForm OptionKey) :=
  [helpOption, frameOption, { key := .diagnostics, long := ["diagnostics"], takesValue := false }]

def sampleOptions : List (OptionForm OptionKey) :=
  [helpOption, { key := .plug, long := ["plug"], short := some 'p' },
   { key := .start, long := ["start"] }, { key := .stop, long := ["end"] },
   { key := .step, long := ["step"] }, { key := .output, long := ["output"], short := some 'o' }]

def checkPath (text : String) : Except ArgumentError Unit :=
  match (Path.mk "" [text]).bytes with
  | .ok _ => .ok ()
  | .error error => .error (.path text error)

def checkNumber (text : String) : Except ArgumentError Unit :=
  if (Spelled.number? text).isSome then .ok () else .error .misuse

def OptionKey.check (value : String) : OptionKey → Except ArgumentError Unit
  | frame | start | stop | step => checkNumber value
  | output => checkPath value
  | help | verbose | quiet | diagnostics | plug => .ok ()

/-- Checks the values of options, each at the place where it is first given, and then the scene. Of
several values of an option the last one is checked. -/
def checkValues (parsed : Parsed OptionKey) : Except ArgumentError Unit := do
  (parsed.options.map (·.1)).eraseDups.forM fun key =>
    key.check ((parsed.value? key).getD "")
  (parsed.operands.take 1).forM checkPath

def numberOption (parsed : Parsed OptionKey) (key : OptionKey) : Option Float :=
  (parsed.value? key).bind Spelled.number?

def readCommand (options : List (OptionForm OptionKey)) (arguments : List String)
    (command? : Parsed OptionKey → Option Command) : Except ArgumentError Request := do
  let some parsed := parse options true arguments | throw .misuse
  if parsed.has .help then return .help
  checkValues parsed
  match command? parsed with
  | some command => return .run command
  | none => throw .misuse

def evaluate? (parsed : Parsed OptionKey) : Option Command :=
  match parsed.operands with
  | [scene, plug] =>
    some (.evaluate scene plug ((numberOption parsed .frame).getD 0) (parsed.has .diagnostics))
  | _ => none

def sample? (parsed : Parsed OptionKey) : Option Command :=
  let sample (scene : Option String) : Command :=
    .sample scene (parsed.values .plug) (numberOption parsed .start) (numberOption parsed .stop)
      (numberOption parsed .step) (parsed.value? .output)
  match parsed.operands with
  | [] => some (sample none)
  | [scene] => some (sample (some scene))
  | _ => none

def interpret? (parsed : Parsed OptionKey) : Option Command :=
  match parsed.operands with
  | [scene, text] => some (.interpret scene text ((numberOption parsed .frame).getD 0))
  | _ => none

def coverage? (parsed : Parsed OptionKey) : Option Command :=
  match parsed.operands with
  | [scene] => some (.coverage scene)
  | _ => none

def Request.ofArguments (arguments : List String) : Except ArgumentError Request := do
  let some general := parse generalOptions false arguments | throw .misuse
  if general.has .help then return .help
  match general.operands with
  | "eval" :: rest => readCommand evaluateOptions rest evaluate?
  | "sample" :: rest => readCommand sampleOptions rest sample?
  | "expr" :: rest => readCommand [helpOption, frameOption] rest interpret?
  | "coverage" :: rest => readCommand [helpOption] rest coverage?
  | _ => throw .misuse

end PlugGraph.CommandLine
