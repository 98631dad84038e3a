import PlugGraph.CommandLine.Run

/-!
# The program

Connects the command line to the real file system and the standard streams.
-/

namespace PlugGraph.Machine

open PlugGraph.Text (Symbol)

def cause : IO.Error → FileError
  | .noFileOrDirectory .. => .notFound
  | .inappropriateType .. => .isDirectory
  | .permissionDenied .. => .denied
  | .resourceVanished .. => .notFound
  | .invalidArgument .. => .nameTooLong
  | _ => .notDirectory

def access {β : Type} (action : IO β) : IO (Except FileError β) := do
  try return .ok (← action) catch error => return .error (cause error)

/-- The characters of a text, without those that only spell a symbol. -/
def plain (text : String) : String :=
  .ofList ((Symbol.ofText text).map fun
    | .char c => c
    | .half _ => '\uFFFD')

/-- The text that characters are. -/
def spelled (characters : String) : String := Symbol.text (characters.toList.map .char)

def files : FileSystem IO where
  fetch path := access do
    return (← IO.FS.readBinFile (plain path.text)).toList.map UInt8.toNat
  store path bytes := access do
    IO.FS.writeBinFile (plain path.text) (.mk (bytes.map UInt8.ofNat).toArray)
  holds path := access do
    let _ ← IO.FS.readBinFile (plain path.text)
    return true
  workingDirectory := return .ofText (spelled (← IO.currentDir).toString)

def width : IO Nat := do
  match (← IO.getEnv "COLUMNS").bind String.toNat? with
  | some columns => return columns
  | none => return 80

end PlugGraph.Machine

open PlugGraph

def main (arguments : List String) : IO UInt32 := do
  let arguments := arguments.map Machine.spelled
  let report ← CommandLine.run Machine.files (← Machine.width) arguments
  report.errors.forM fun line => IO.eprintln (Machine.plain line)
  report.output.forM fun line => IO.println (Machine.plain line)
  match report.ending with
  | .breakdown cause => IO.eprintln cause.message
  | .misuse => IO.eprintln "usage: eval | sample | expr | coverage"
  | _ => pure ()
  return report.ending.exitCode.toUInt32
