import PlugGraph.Path
import PlugGraph.Text.Encoding

/-!
# File systems

What the program needs of a file system, in any monad: a real one is accessed in `IO`, and a model
of one can be a value. A path is checked before it reaches the file system, since not every text is
the name of a file.
-/

namespace PlugGraph

inductive FileError where
  | notFound
  | denied
  | notDirectory
  | isDirectory
  | nameTooLong
  /-- The path holds a null character. -/
  | nullCharacter
  /-- A directory on the way to the working directory holds a null character in its name. -/
  | nullInDirectory
  /-- The path, or the text to be written, cannot be encoded. -/
  | encoding (error : Text.HalfError)
deriving DecidableEq, Repr

namespace FileError

/-- The number and the wording of an error that the file system reports. -/
def report? : FileError → Option (Nat × String)
  | notFound => some (2, "No such file or directory")
  | denied => some (13, "Permission denied")
  | notDirectory => some (20, "Not a directory")
  | isDirectory => some (21, "Is a directory")
  | nameTooLong => some (36, "File name too long")
  | nullCharacter | nullInDirectory | encoding _ => none

/-- Whether the file system reports the error. The others arise before it is asked. -/
def isReported (error : FileError) : Bool := error.report?.isSome

/-- Whether the error says that there is no file at a path that could have one. -/
def isAbsence : FileError → Bool
  | notFound | notDirectory | isDirectory | nullCharacter | encoding _ => true
  | denied | nameTooLong | nullInDirectory => false

/-- An error, with its number and the path that it is about if the file system reports it. -/
def describe (error : FileError) (path : Path) : String :=
  match error with
  | nullCharacter => "embedded null byte"
  | nullInDirectory => "lstat: embedded null character in path"
  | encoding error => error.describe
  | _ =>
    let (number, text) := error.report?.getD (0, "")
    "[Errno " ++ toString number ++ "] " ++ text ++ ": " ++ Text.quote path.text

end FileError

/-- The bytes of a path as a file system takes them. -/
def Path.bytes (path : Path) : Except FileError (List Nat) :=
  match Text.toUtf8 true (Text.Symbol.ofText path.text) with
  | .error error => .error (.encoding error)
  | .ok bytes => if bytes.contains 0 then .error .nullCharacter else .ok bytes

structure FileSystem (m : Type → Type) where
  /-- The bytes of a file. -/
  fetch : Path → m (Except FileError (List Nat))
  /-- Replaces the contents of a file, or makes one. -/
  store : Path → List Nat → m (Except FileError Unit)
  /-- Whether there is a file at a path. -/
  holds : Path → m (Except FileError Bool)
  /-- The directory that relative paths start from. -/
  workingDirectory : m Path

namespace FileSystem

variable {m : Type → Type} [Monad m]

def read (files : FileSystem m) (path : Path) : m (Except FileError (List Nat)) :=
  match path.bytes with
  | .error error => return .error error
  | .ok _ => files.fetch path

def write (files : FileSystem m) (path : Path) (bytes : List Nat) : m (Except FileError Unit) :=
  match path.bytes with
  | .error error => return .error error
  | .ok _ => files.store path bytes

/-- Whether there is a file at a path. Errors that say there is none are an answer. -/
def isFile (files : FileSystem m) (path : Path) : m (Except FileError Bool) := do
  let answer ← match path.bytes with
    | .error error => pure (.error error)
    | .ok _ => files.holds path
  match answer with
  | .error error => return if error.isAbsence then .ok false else .error error
  | .ok found => return .ok found

end FileSystem

end PlugGraph
