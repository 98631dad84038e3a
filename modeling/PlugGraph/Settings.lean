import PlugGraph.Document.Toml
import PlugGraph.FileSystem

/-!
# Settings

Settings stand in the table `tool.dgeval` of a file `pyproject.toml`, in the working directory or
the nearest directory above it that has such a file. They give defaults for sampling. Relative
paths start at the directory of the file. A missing or empty table sets nothing.
-/

namespace PlugGraph

structure Settings where
  scene : Option Path
  output : Option Path
  first : Option Float
  last : Option Float
  step : Option Float
  plugs : List String
  /-- The directory of the settings file. -/
  root : Option Path

/-- The types of values as messages name them. -/
inductive ValueType where
  | text
  | integer
  | number
  | bool
  | array
  | moment (kind : Moment)
  | other
deriving DecidableEq, Repr

namespace ValueType

def ofValue : Value → ValueType
  | .string _ => text
  | .integer _ => integer
  | .number _ => number
  | .notANumber => number
  | .bool _ => bool
  | .array _ => array
  | .moment kind _ => moment kind
  | .null => other
  | .object _ => other

def name : ValueType → String
  | text => "str"
  | integer => "int"
  | number => "float"
  | bool => "bool"
  | array => "list"
  | moment .dateTime => "datetime.datetime"
  | moment .date => "datetime.date"
  | moment .time => "datetime.time"
  | other => "dict"

end ValueType

/-- What a setting has to be. -/
inductive Expected where
  | path
  | finiteNumber
  | positiveNumber
  | listOfTexts
deriving DecidableEq, Repr

def Expected.text : Expected → String
  | path => "string path"
  | finiteNumber => "a finite number"
  | positiveNumber => "a positive number"
  | listOfTexts => "a list of strings"

inductive SettingsError where
  /-- The file is no TOML document. -/
  | malformed (path : Path)
  /-- A setting is not what it has to be. -/
  | invalid (key : String) (expected : Expected)
  /-- The file cannot be opened. -/
  | unreadable (path : Path) (error : FileError)
  /-- The bytes of the file are no text. -/
  | encoding (error : Text.Utf8Error)
  /-- An integer is too long to be read. -/
  | integerTooLong (digits : Nat)
  /-- A part of the document lies too deep. -/
  | tooDeep (container : Container)
  /-- An integer is too large for a number. -/
  | integerTooLarge
  /-- A table was due, in which members are looked up. -/
  | noMembers (type : ValueType)
  /-- A table was due, in which names are searched for. -/
  | notSearchable (type : ValueType)
  /-- A text was found that contains the name of a setting. -/
  | textForTable
  /-- An array was found that contains the name of a setting. -/
  | arrayForTable
deriving DecidableEq, Repr

namespace SettingsError

/-- Whether an error tells what is wrong with the settings. The others say what went wrong while
they were being read. -/
def isReport : SettingsError → Bool
  | malformed _ => true
  | invalid .. => true
  | _ => false

def message : SettingsError → String
  | malformed path => "Invalid TOML in " ++ path.text
  | invalid key expected => "Invalid [tool.dgeval]." ++ key ++ ": expected " ++ expected.text
  | unreadable path error => error.describe path
  | encoding error => error.describe
  | integerTooLong digits => Numeral.readLimitMessage digits
  | tooDeep container => container.tooDeepMessage
  | integerTooLarge => "int too large to convert to float"
  | noMembers type => "'" ++ type.name ++ "' object has no attribute 'get'"
  | notSearchable type => "argument of type '" ++ type.name ++ "' is not iterable"
  | textForTable => "string indices must be integers, not 'str'"
  | arrayForTable => "list indices must be integers or slices, not str"

end SettingsError

namespace Settings

def none : Settings := ⟨.none, .none, .none, .none, .none, [], .none⟩

def fileName : String := "pyproject.toml"

/-- Whether a value holds nothing. -/
def isEmpty : Value → Bool
  | .null => true
  | .bool value => !value
  | .integer value => value == 0
  | .number value => value == 0
  | .notANumber => false
  | .string s => s.isEmpty
  | .moment .. => false
  | .array items => items.isEmpty
  | .object members => members.isEmpty

/-- The member of a table; `missing` if it has none of that name. -/
def member (value : Value) (name : String) (missing : Value) : Except SettingsError Value :=
  match value with
  | .object members => .ok ((Assoc.get? name members).getD missing)
  | value => .error (.noMembers (.ofValue value))

def isText (text : String) : Value → Bool
  | .string s => s == text
  | _ => false

/-- A setting that may be missing. What is no table has none, unless it contains the name of the
setting or cannot be searched for it. -/
def setting? (table : Value) (key : String) : Except SettingsError (Option Value) :=
  match table with
  | .object members => .ok (Assoc.get? key members)
  | .string s => if Text.containsText s key then .error .textForTable else .ok .none
  | .array items => if items.any (isText key) then .error .arrayForTable else .ok .none
  | value => .error (.notSearchable (.ofValue value))

def number? (key : String) : Value → Except SettingsError Float
  | .integer value =>
    let x := Double.ofInteger value
    if Scalar.isFinite x then .ok x else .error .integerTooLarge
  | .number value =>
    if Scalar.isFinite value then .ok value else .error (.invalid key .finiteNumber)
  | _ => .error (.invalid key .finiteNumber)

/-- A path, which starts at `root` if it is relative. -/
def path? (root : Path) (key : String) : Value → Except SettingsError Path
  | .string s => .ok (root.join (.ofText s))
  | _ => .error (.invalid key .path)

def texts? (key : String) : Value → Except SettingsError (List String)
  | .array items => items.mapM fun
    | .string s => .ok s
    | _ => .error (.invalid key .listOfTexts)
  | _ => .error (.invalid key .listOfTexts)

/-- Reads a setting that may be missing. -/
def read? {β : Type} (table : Value) (key : String) (reader : Value → Except SettingsError β) :
    Except SettingsError (Option β) := do
  match ← setting? table key with
  | .some value => return .some (← reader value)
  | .none => return .none

/-- The step, which has to be positive. -/
def step? (table : Value) : Except SettingsError (Option Float) := do
  let step ← read? table "step" (number? "step")
  match step with
  | .some value => if value ≤ 0 then throw (.invalid "step" .positiveNumber) else return step
  | .none => return step

def ofTable (root : Path) (table : Value) : Except SettingsError Settings := do
  let step ← step? table
  let scene ← read? table "scene" (path? root "scene")
  let output ← read? table "output" (path? root "output")
  let first ← read? table "start" (number? "start")
  let last ← read? table "end" (number? "end")
  let plugs ← texts? "plugs" (← member table "plugs" (.array []))
  return { scene, output, first, last, step, plugs, root }

def ofDocument (root : Path) (document : Value) : Except SettingsError Settings := do
  let tools ← member document "tool" (.object [])
  let table ← member tools "dgeval" (.object [])
  if isEmpty table then return { none with root } else ofTable root table

def ofBytes (path : Path) (bytes : List Nat) : Except SettingsError Settings :=
  match Toml.ofBytes bytes with
  | .ok document => ofDocument path.parent document
  | .error .malformed => .error (.malformed path)
  | .error (.encoding error) => .error (.encoding error)
  | .error (.integerTooLong digits) => .error (.integerTooLong digits)
  | .error (.tooDeep container) => .error (.tooDeep container)

variable {m : Type → Type} [Monad m]

def firstFile (files : FileSystem m) : List Path → m (Except SettingsError (Option Path))
  | [] => return .ok .none
  | path :: rest => do
    match ← files.isFile path with
    | .error error => return .error (.unreadable path error)
    | .ok true => return .ok (.some path)
    | .ok false => firstFile files rest

/-- The error of a directory that cannot be one, if it is such. -/
def directoryError? (directory : Path) : Option FileError :=
  match directory.bytes with
  | .error .nullCharacter => .some .nullInDirectory
  | .error error => .some error
  | .ok _ => .none

/-- The settings file for a directory, looked for in it and then in each one above. -/
def find (files : FileSystem m) (directory : Path) : m (Except SettingsError (Option Path)) :=
  match directory.withAncestors.reverse.findSome? directoryError? with
  | .some error => return .error (.unreadable directory error)
  | .none => firstFile files (directory.resolved.withAncestors.map (·.child fileName))

def load (files : FileSystem m) (path : Path) : m (Except SettingsError Settings) := do
  match ← files.read path with
  | .ok bytes => return ofBytes path bytes
  | .error error => return .error (.unreadable path error)

/-- The settings for the working directory. -/
def current (files : FileSystem m) : m (Except SettingsError Settings) := do
  match ← find files (← files.workingDirectory) with
  | .ok (.some path) => load files path
  | .ok .none => return .ok none
  | .error error => return .error error

end Settings

end PlugGraph
