import PlugGraph.Document.Toml.Number
import PlugGraph.Document.Toml.Table

/-!
# TOML documents

A document consists of lines. A line holds a pair `key = value`, a header `[key]` or a double header
`[[key]]`, and may end in a comment. Keys are made of parts that dots separate. Values are strings,
numbers, words, dates and times, arrays, which may extend over several lines, and inline tables,
which may not. Arrays and inline tables nest up to a limit.
-/

namespace PlugGraph.Toml

def skipSpace (input : Input) : Input := input.dropWhile isSpace

/-- Skips a comment up to the end of its line, if one starts here. -/
def skipComment (input : Input) : Except Flaw Input :=
  match input with
  | '#' :: rest =>
    if (rest.takeWhile (· != '\n')).all isPlain then .ok (rest.dropWhile (· != '\n'))
    else .error .malformed
  | _ => .ok input

/-- Skips blanks, line breaks and comments; `fuel` bounds the number of comments. -/
def skipGaps : (fuel : Nat) → Input → Except Flaw Input
  | 0, input => .ok input
  | fuel + 1, input =>
    match input.dropWhile isGap with
    | '#' :: rest => do skipGaps fuel (← skipComment ('#' :: rest))
    | rest => .ok rest

def isBareKeyChar (c : Char) : Bool := c.isAlphanum || c == '-' || c == '_'

def readKeyPart (input : Input) : Except Flaw (String × Input) :=
  match input with
  | '"' :: rest => do
    let (part, rest) ← readBasic false .none [] rest
    return (.ofList part, rest)
  | '\'' :: rest => do
    let (part, rest) ← readLiteral rest
    return (.ofList part, rest)
  | _ =>
    match input.takeWhile isBareKeyChar with
    | [] => .error .malformed
    | part => .ok (.ofList part, input.dropWhile isBareKeyChar)

/-- Reads a key and the blanks behind it; `fuel` bounds the number of parts. -/
def readKey : (fuel : Nat) → Input → Except Flaw (List String × Input)
  | 0, _ => .error .malformed
  | fuel + 1, input => do
    let (part, rest) ← readKeyPart input
    match skipSpace rest with
    | '.' :: rest =>
      let (parts, rest) ← readKey fuel (skipSpace rest)
      return (part :: parts, rest)
    | rest => return ([part], rest)

/-- Reads a key, the equals sign and the blanks behind it. -/
def readKeyOfPair (limit : Nat) (input : Input) : Except Flaw (List String × Input) := do
  let (key, rest) ← readKey limit input
  match rest with
  | '=' :: rest => return (key, skipSpace rest)
  | _ => throw .malformed

/-- Reads a value that is neither an array nor an inline table. -/
def readPlain (input : Input) : Except Flaw (Value × Input) :=
  match readString? input with
  | some result => result.map fun (text, rest) => (.string (.ofList text), rest)
  | none =>
    match input with
    | 't' :: 'r' :: 'u' :: 'e' :: rest => .ok (.bool true, rest)
    | 'f' :: 'a' :: 'l' :: 's' :: 'e' :: rest => .ok (.bool false, rest)
    | _ => (readMoment? input).getD (readNumber input)

/-- What arrays and inline tables inside one another may weigh together. -/
def nestingLimit : Nat := 985

def arrayWeight : Nat := 2

def tableWeight : Nat := 3

mutual

/-- Reads one value, inside of which there is room for arrays and inline tables of the weight
`room`. `fuel` bounds the nesting and the number of items. -/
def readValue : (fuel room : Nat) → Input → Except Flaw (Value × Input)
  | 0, _, _ => .error .malformed
  | fuel + 1, room, input =>
    match input with
    | '[' :: rest =>
      if room < arrayWeight then .error (.tooDeep .tomlValue)
      else readItems fuel (room - arrayWeight) #[] rest
    | '{' :: rest =>
      if room < tableWeight then .error (.tooDeep .tomlValue)
      else
        match skipSpace rest with
        | '}' :: rest => .ok (.object [], rest)
        | rest => readPairs fuel (room - tableWeight) (.table .passed []) rest
    | _ => readPlain input

/-- Reads the items of an array up to its closing bracket. -/
def readItems : (fuel room : Nat) → Array Value → Input → Except Flaw (Value × Input)
  | 0, _, _, _ => .error .malformed
  | fuel + 1, room, done, input => do
    match ← skipGaps (fuel + 1) input with
    | ']' :: rest => return (.array done.toList, rest)
    | input =>
      let (item, rest) ← readValue fuel room input
      match ← skipGaps (fuel + 1) rest with
      | ',' :: rest => readItems fuel room (done.push item) rest
      | ']' :: rest => return (.array (done.push item).toList, rest)
      | _ => throw .malformed

/-- Reads the pairs of an inline table from the first one on. -/
def readPairs : (fuel room : Nat) → Place → Input → Except Flaw (Value × Input)
  | 0, _, _, _ => .error .malformed
  | fuel + 1, room, table, input => do
    let (key, rest) ← readKeyOfPair (fuel + 1) input
    let (value, rest) ← readValue fuel room rest
    let table ← Place.alter (Place.fill value) (Place.pairPath 0 [] key) (some table)
    match skipSpace rest with
    | ',' :: rest => readPairs fuel room table (skipSpace rest)
    | '}' :: rest => return (table.toValue, rest)
    | _ => throw .malformed

end

structure Draft where
  root : Place
  /-- The header of the current section. -/
  header : List String
  /-- The number of the current section. -/
  number : Nat

namespace Draft

def empty : Draft := ⟨.table .declared [], [], 0⟩

/-- Puts a value at a key of the current section. -/
def addPair (draft : Draft) (key : List String) (value : Value) : Except Flaw Draft := do
  let path := Place.pairPath draft.number draft.header key
  return { draft with root := ← Place.alter (Place.fill value) path (some draft.root) }

def startSection (draft : Draft) (change : Option Place → Except Flaw Place) (key : List String) :
    Except Flaw Draft := do
  let root ← Place.alter change (Place.headerPath key) (some draft.root)
  return ⟨root, key, draft.number + 1⟩

end Draft

def readStatement (limit : Nat) (draft : Draft) (input : Input) : Except Flaw (Draft × Input) := do
  match input with
  | '[' :: '[' :: rest =>
    let (key, rest) ← readKey limit (skipSpace rest)
    match rest with
    | ']' :: ']' :: rest => return (← draft.startSection Place.append key, rest)
    | _ => throw .malformed
  | '[' :: rest =>
    let (key, rest) ← readKey limit (skipSpace rest)
    match rest with
    | ']' :: rest => return (← draft.startSection Place.declare key, rest)
    | _ => throw .malformed
  | _ =>
    let (key, rest) ← readKeyOfPair limit input
    let (value, rest) ← readValue limit nestingLimit rest
    return (← draft.addPair key value, rest)

/-- Reads the lines of a document; `fuel` bounds their number, and `limit` what one of them
holds. -/
def readLines (limit : Nat) : (fuel : Nat) → Draft → Input → Except Flaw Draft
  | 0, draft, _ => .ok draft
  | fuel + 1, draft, input => do
    let line := skipSpace input
    let (draft, rest) ← match line with
      | [] => pure (draft, line)
      | '\n' :: _ => pure (draft, line)
      | '#' :: _ => pure (draft, line)
      | _ => readStatement limit draft line
    match ← skipComment (skipSpace rest) with
    | [] => return draft
    | '\n' :: rest => readLines limit fuel draft rest
    | _ => throw .malformed

/-- Makes a single character of every line break. -/
def joinBreaks : Input → Input
  | '\r' :: '\n' :: rest => '\n' :: joinBreaks rest
  | c :: rest => c :: joinBreaks rest
  | [] => []

def ofChars (input : Input) : Except Flaw Value := do
  let input := joinBreaks input
  let limit := input.length + 1
  return (← readLines limit limit .empty input).root.toValue

/-- Reads a document from bytes in UTF-8. -/
def ofBytes (bytes : List Nat) : Except Flaw Value :=
  match Text.ofUtf8 false bytes with
  | .error error => .error (.encoding error)
  | .ok symbols => ofChars (symbols.flatMap Text.Symbol.spelling)

end PlugGraph.Toml
