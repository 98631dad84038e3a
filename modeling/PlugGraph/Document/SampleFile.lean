import PlugGraph.Eval.Samples
import PlugGraph.FileSystem
import PlugGraph.Number.Layout

/-!
# Sample files

Samples are written as a document with an array `frames` and a table `plugs`, which maps each plug
to one number per frame: as JSON if the path ends in `.json`, and as TOML otherwise. Numbers are
written with the digits that read back.
-/

namespace PlugGraph.SampleFile

structure Escaping where
  /-- Characters with a one-letter escape. -/
  short : List (Char × Char)
  /-- The characters that stand for themselves unless they have a one-letter escape. -/
  isPlain : Char → Bool
  /-- Whether halves of surrogate pairs are escaped; they stand for themselves otherwise. -/
  escapesHalves : Bool

def unitEscape (unit : Nat) : List Char := ['\\', 'u'] ++ Text.hexDigits 4 unit

def Escaping.symbol (e : Escaping) : Text.Symbol → List Char
  | .char c =>
    match e.short.lookup c with
    | some letter => ['\\', letter]
    | none =>
      if e.isPlain c then (Text.Symbol.char c).spelling
      else if c.toNat < 0x10000 then unitEscape c.toNat
      else
        let offset := c.toNat - 0x10000
        unitEscape (0xD800 + offset / 0x400) ++ unitEscape (0xDC00 + offset % 0x400)
  | .half unit => if e.escapesHalves then unitEscape unit else (Text.Symbol.half unit).spelling

def Escaping.quote (e : Escaping) (s : String) : String :=
  .ofList ('"' :: (Text.Symbol.ofText s).flatMap e.symbol ++ ['"'])

/-- The escapes that both formats have. -/
def shortEscapes : List (Char × Char) :=
  [('"', '"'), ('\\', '\\'), ('\n', 'n'), ('\r', 'r'), ('\x08', 'b'), ('\x0c', 'f')]

/-- The items of a list on lines of their own, between a first and a last line. -/
def block (first last : String) (lines : List String) : List String := first :: lines ++ [last]

def indent (spaces : Nat) (lines : List String) : List String :=
  lines.map fun line => "".pushn ' ' spaces ++ line

/-! ### JSON -/

/-- JSON keeps to printable ASCII. -/
def jsonEscaping : Escaping :=
  { short := ('\t', 't') :: shortEscapes
    isPlain := fun c => 32 ≤ c.toNat && c.toNat < 127
    escapesHalves := true }

/-- A number in JSON, with words for what is not finite. -/
def jsonNumber (x : Float) : String :=
  { Layout.exact with nanName := "NaN", infinityName := "Infinity" }.writeFloat Binary.shortest x

/-- Adds a comma to every block of lines but the last one, and joins them. -/
def separate : List (List String) → List String
  | [] => []
  | [lines] => lines
  | lines :: rest => lines.dropLast ++ [lines.getLast?.getD "" ++ ","] ++ separate rest

def jsonBlock (opening closing : String) (items : List (List String)) : List String :=
  if items.isEmpty then [opening ++ closing]
  else block opening closing (indent 2 (separate items))

def jsonMember (name : String) (value : List String) : List String :=
  let head := jsonEscaping.quote name ++ ": "
  match value with
  | [] => [head]
  | first :: rest => (head ++ first) :: rest

def jsonNumbers (xs : List Float) : List String :=
  jsonBlock "[" "]" (xs.map fun x => [jsonNumber x])

def json (samples : Samples Float) : String :=
  let plugs := jsonBlock "\x7b" "\x7d" (samples.series.map fun (plug, values) =>
    jsonMember plug (jsonNumbers values))
  "\n".intercalate (jsonBlock "\x7b" "\x7d"
    [jsonMember "frames" (jsonNumbers samples.frames), jsonMember "plugs" plugs])

/-! ### TOML -/

/-- TOML escapes control characters other than the tabulator. -/
def tomlEscaping : Escaping :=
  { short := shortEscapes
    isPlain := fun c => c == '\t' || (32 ≤ c.toNat && c.toNat != 127)
    escapesHalves := false }

/-- A key, bare if it may be. -/
def tomlKey (key : String) : String :=
  let isBare (c : Char) : Bool := c.isAlphanum || c == '-' || c == '_'
  if !key.isEmpty && key.toList.all isBare then key else tomlEscaping.quote key

def tomlPair (key : String) (xs : List Float) : List String :=
  let head := tomlKey key ++ " = ["
  if xs.isEmpty then [head ++ "]"]
  else block head "]" (indent 4 (xs.map fun x => Double.text x ++ ","))

def tomlPiece (lines : List String) : String := .join (lines.map (· ++ "\n"))

/-- Samples as TOML, piece by piece: the frames, the header of the table, and each plug. -/
def toml (samples : Samples Float) : List String :=
  [tomlPiece (tomlPair "frames" samples.frames), "\n", "[plugs]\n"] ++
    samples.series.map fun (plug, values) => tomlPiece (tomlPair plug values)

/-! ### Files -/

/-- The pieces of the text of the file at a path, which are encoded one by one. -/
def pieces (path : Path) (samples : Samples Float) : List String :=
  if path.format == ".json" then [json samples] else toml samples

/-- The bytes of the pieces in front of the first one that cannot be encoded, and what is wrong
with that one. -/
def encode : List String → List Nat × Option Text.HalfError
  | [] => ([], none)
  | piece :: rest =>
    match Text.toUtf8 false (Text.Symbol.ofText piece) with
    | .error error => ([], some error)
    | .ok bytes =>
      let (more, error) := encode rest
      (bytes ++ more, error)

/-- Writes samples to the file at a path. The pieces in front of one that cannot be encoded are
written all the same. -/
def save {m : Type → Type} [Monad m] (files : FileSystem m) (path : Path)
    (samples : Samples Float) : m (Except FileError Unit) := do
  let (bytes, error?) := encode (pieces path samples)
  match ← files.write path bytes, error? with
  | .error error, _ => return .error error
  | .ok (), some error => return .error (.encoding error)
  | .ok (), none => return .ok ()

end PlugGraph.SampleFile
