import PlugGraph.Document.Json
import PlugGraph.Document.Toml
import PlugGraph.FileSystem
import PlugGraph.Number.Layout
import PlugGraph.Number.Spelled
import PlugGraph.Scene

/-!
# Scene files

A scene file is a JSON or TOML document with three members, all of which may be missing: `nodes`
maps names to a type and attributes, `connections` lists sources and targets, and `curves` maps
names to keys. Members of other names are refused everywhere.

Where a number or a truth value is due, texts that spell one are taken as well. An attribute holds
one literal or a list of them, each of which becomes a token.
-/

namespace PlugGraph.SceneFile

inductive Literal where
  | bool (value : Bool)
  | integer (value : Int)
  | number (value : Float)
  | text (text : String)

namespace Literal

def ofValue? : Value → Option Literal
  | .bool value => some (bool value)
  | .integer value => some (integer value)
  | .number value => some (number value)
  | .notANumber => some (number (0.0 / 0.0))
  | .string s => some (text s)
  | _ => none

/-- The token of a literal; `none` for an integer of too many digits. -/
def token? : Literal → Option String
  | bool value => some (if value then "1" else "0")
  | integer value =>
    let digits := toString value.natAbs
    if Numeral.integerDigitLimit < digits.length then none
    else some (if value < 0 then "-" ++ digits else digits)
  | number value => some (Double.text value)
  | text s => some s

end Literal

structure NodeEntry where
  name : String
  type : String
  attributes : List (String × List Literal)

structure Contents where
  nodes : List NodeEntry
  connections : List Connection
  curves : List (String × List (Float × Float))

def text? : Value → Option String
  | .string s => some s
  | _ => none

def members? : Value → Option (List (String × Value))
  | .object members => some members
  | _ => none

/-- The members of an object that has none but those of the given names. -/
def record? (names : List String) (value : Value) : Option (List (String × Value)) :=
  (members? value).filter fun members => members.all fun (name, _) => names.contains name

def items? : Value → Option (List Value)
  | .array items => some items
  | _ => none

def literals? : Value → Option (List Literal)
  | .array items => items.mapM Literal.ofValue?
  | value => (Literal.ofValue? value).map ([·])

def mapping? {β : Type} (reader : String → Value → Option β) (value : Value) : Option (List β) := do
  (← members? value).mapM fun (name, value) => reader name value

/-- Reads a member that may be missing, which stands for `fallback`. -/
def optional? {β : Type} (members : List (String × Value)) (name : String) (fallback : β)
    (reader : Value → Option β) : Option β :=
  match Assoc.get? name members with
  | some value => reader value
  | none => some fallback

def node? (name : String) (value : Value) : Option NodeEntry := do
  let members ← record? ["type", "attributes"] value
  let type ← text? (← Assoc.get? "type" members)
  let attributes ← optional? members "attributes" [] <|
    mapping? fun key value => (literals? value).map (key, ·)
  return { name, type, attributes }

/-- Texts that spell truth values, in small letters. -/
def truthWords : List (String × Bool) :=
  [("0", false), ("f", false), ("n", false), ("no", false), ("off", false), ("false", false),
   ("1", true), ("t", true), ("y", true), ("yes", true), ("on", true), ("true", true)]

/-- The truth value that a value is or spells. -/
def truth? : Value → Option Bool
  | .bool value => some value
  | .integer 0 => some false
  | .integer 1 => some true
  | .number value => if value == 0 then some false else if value == 1 then some true else none
  | .string s => truthWords.lookup (Text.lower s)
  | _ => none

def connection? (value : Value) : Option Connection := do
  let members ← record? ["src", "dst", "force"] value
  let source ← text? (← Assoc.get? "src" members)
  let target ← text? (← Assoc.get? "dst" members)
  let force ← optional? members "force" false truth?
  return { source, target, force }

/-- The number that a value is or spells. -/
def number? : Value → Option Float
  | .bool value => some (if value then 1 else 0)
  | .integer value => some (Double.ofInteger value) |>.filter Scalar.isFinite
  | .number value => some value
  | .notANumber => some (0.0 / 0.0)
  | .string s => Spelled.number? s
  | _ => none

structure KeyEntry where
  /-- Whether the parameter is the word for what is no number. -/
  isWord : Bool
  key : Float × Float

/-- Reads a key of a curve: a pair of numbers. -/
def key? : Value → Option KeyEntry
  | .array [parameter, value] => do
    let isWord := match parameter with
      | .notANumber => true
      | _ => false
    return { isWord, key := (← number? parameter, ← number? value) }
  | _ => none

/-- The keys that entries describe. The word for what is no number is one parameter: the first key
there stays and takes the value of the last one. -/
def KeyEntry.keys (entries : List KeyEntry) : List (Float × Float) :=
  match (entries.filter (·.isWord)).getLast? with
  | none => entries.map (·.key)
  | some last =>
    let front := entries.takeWhile (!·.isWord)
    let others := (entries.drop front.length).filter (!·.isWord)
    front.map (·.key) ++ last.key :: others.map (·.key)

def curve? (name : String) (value : Value) : Option (String × List (Float × Float)) := do
  let members ← record? ["keys"] value
  let entries ← optional? members "keys" [] fun value => do (← items? value).mapM key?
  return (name, KeyEntry.keys entries)

/-- Reads what the document of a scene file says. -/
def Contents.ofValue? (value : Value) : Option Contents := do
  let members ← record? ["nodes", "connections", "curves"] value
  let nodes ← optional? members "nodes" [] (mapping? node?)
  let connections ← optional? members "connections" [] fun value => do
    (← items? value).mapM connection?
  let curves ← optional? members "curves" [] (mapping? curve?)
  return { nodes, connections, curves }

/-- The node that an entry describes; `none` if a token cannot be written. -/
def NodeEntry.node? (entry : NodeEntry) : Option Node := do
  let attributes ← entry.attributes.mapM fun (key, literals) => do
    return ({ key, tokens := ← literals.mapM Literal.token? } : Attribute)
  return { name := entry.name, type := entry.type, attributes }

/-- The scene that the contents of a file describe; `none` if a token cannot be written. -/
def Contents.scene? (contents : Contents) : Option (Scene Float) := do
  let nodes ← contents.nodes.mapM NodeEntry.node?
  return { graph := .ofRecords nodes contents.connections
           curves := contents.curves.map fun (name, keys) => (name, .ofKeys keys) }

end PlugGraph.SceneFile

namespace PlugGraph

inductive LoadError where
  /-- The suffix of the path stands for no known format. -/
  | unknownFormat (path : Path)
  /-- The file cannot be opened. -/
  | unreadable (path : Path) (error : FileError)
  /-- The file is no document of its format, whose name is given. -/
  | malformed (format : String) (path : Path)
  /-- The document is no object. -/
  | notAnObject (path : Path)
  /-- The document does not describe a scene. -/
  | invalid
  /-- An integer is too long to be read. -/
  | integerTooLong (digits : Nat)
  /-- An integer is too long to be written. -/
  | tokenTooLong
  /-- A part of the document lies too deep. -/
  | tooDeep (container : Container)
deriving DecidableEq, Repr

namespace LoadError

def message : LoadError → String
  | unknownFormat path =>
    "Unsupported scene file type '" ++ path.suffix ++ "' (expected .toml or .json): " ++ path.text
  | unreadable path error =>
    if error.isReported then "Cannot read scene file " ++ path.text ++ ": " ++ error.describe path
    else error.describe path
  | malformed format path => "Invalid " ++ format ++ " in " ++ path.text
  | notAnObject path =>
    "Scene file " ++ path.text ++ " must contain a table/object at the top level"
  | invalid => "Invalid scene data:"
  | integerTooLong digits => Numeral.readLimitMessage digits
  | tokenTooLong => Numeral.writeLimitMessage
  | tooDeep container => container.tooDeepMessage

/-- Whether an error is a report on a scene file. The others are about limits, or about texts that
name no file. -/
def isReport : LoadError → Bool
  | integerTooLong _ => false
  | tokenTooLong => false
  | tooDeep _ => false
  | unreadable _ error => error.isReported
  | _ => true

end LoadError

namespace Scene

/-- The formats of scene files: suffix, name and reader. -/
def formats : List (String × String × (List Nat → Except Flaw Value)) :=
  [(".toml", "TOML", Toml.ofBytes), (".json", "JSON", Json.ofBytes)]

def ofValue (path : Path) (value : Value) : Except LoadError (Scene Float) :=
  match value with
  | .object _ =>
    match SceneFile.Contents.ofValue? value with
    | none => .error .invalid
    | some contents =>
      match contents.scene? with
      | some scene => .ok scene
      | none => .error .tokenTooLong
  | _ => .error (.notAnObject path)

def ofBytes (path : Path) (format : String) (reader : List Nat → Except Flaw Value)
    (bytes : List Nat) : Except LoadError (Scene Float) :=
  match reader bytes with
  | .ok value => ofValue path value
  | .error (.integerTooLong digits) => .error (.integerTooLong digits)
  | .error (.tooDeep container) => .error (.tooDeep container)
  | .error _ => .error (.malformed format path)

/-- Loads a scene file; the suffix of its path gives the format. -/
def load {m : Type → Type} [Monad m] (files : FileSystem m) (path : Path) :
    m (Except LoadError (Scene Float)) := do
  match formats.lookup path.format with
  | none => return .error (.unknownFormat path)
  | some (format, reader) =>
    match ← files.read path with
    | .ok bytes => return ofBytes path format reader bytes
    | .error error => return .error (.unreadable path error)

end Scene

end PlugGraph
