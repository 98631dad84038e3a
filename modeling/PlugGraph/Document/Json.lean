import PlugGraph.Assoc
import PlugGraph.Document.Value
import PlugGraph.Number.Double
import PlugGraph.Number.Numeral

/-!
# JSON documents

Reading follows the JSON grammar, with the words `NaN`, `Infinity` and `-Infinity` as additional
numbers. Whole numbers are unbounded integers; the others are floats. A member that repeats a name
replaces the value under it and keeps the first one's place. Arrays and objects nest up to a limit.
Documents come as bytes in UTF-8,
UTF-16 or UTF-32, which the zero bytes among the first four give away.
-/

namespace PlugGraph.Json

/-- What is left to read of a document. -/
abbrev Input := List Text.Symbol

/-- Blanks between tokens. -/
def isSpace : Text.Symbol → Bool
  | .char c => c == ' ' || c == '\t' || c == '\n' || c == '\r'
  | .half _ => false

def skipSpace (input : Input) : Input := input.dropWhile isSpace

def hexValue? : Text.Symbol → Option Nat
  | .char c =>
    if c.isDigit then some (c.toNat - 48)
    else if 'a' ≤ c && c ≤ 'f' then some (c.toNat - 87)
    else if 'A' ≤ c && c ≤ 'F' then some (c.toNat - 55)
    else none
  | .half _ => none

def fourHex? : Input → Option (Nat × Input)
  | a :: b :: c :: d :: rest => do
    let code := (((← hexValue? a) * 16 + (← hexValue? b)) * 16 + (← hexValue? c)) * 16 +
      (← hexValue? d)
    some (code, rest)
  | _ => none

/-- The character that a one-letter escape stands for. -/
def shortEscape? : Char → Option Char
  | '"' => some '"'
  | '\\' => some '\\'
  | '/' => some '/'
  | 'b' => some '\x08'
  | 'f' => some '\x0c'
  | 'n' => some '\n'
  | 'r' => some '\r'
  | 't' => some '\t'
  | _ => none

/-- Reads what follows `\u`: one unit, or two escapes that form a surrogate pair. -/
def unicodeEscape? (input : Input) : Option (Text.Symbol × Input) := do
  let (unit, rest) ← fourHex? input
  if 0xD800 ≤ unit && unit < 0xDC00 then
    match rest with
    | .char '\\' :: .char 'u' :: more =>
      let (low, after) ← fourHex? more
      if 0xDC00 ≤ low && low < 0xE000 then
        some (.char (Char.ofNat (0x10000 + (unit - 0xD800) * 0x400 + (low - 0xDC00))), after)
      else some (.half unit, rest)
    | _ => some (.half unit, rest)
  else some (.ofCode unit, rest)

/-- Reads a string up to its closing quote; `fuel` bounds the number of characters. -/
def readString : (fuel : Nat) → Input → Array Text.Symbol → Except Flaw (String × Input)
  | 0, _, _ => .error .malformed
  | fuel + 1, input, done =>
    match input with
    | [] => .error .malformed
    | .char '"' :: rest => .ok (Text.Symbol.text done.toList, rest)
    | .char '\\' :: .char 'u' :: rest =>
      match unicodeEscape? rest with
      | some (symbol, rest) => readString fuel rest (done.push symbol)
      | none => .error .malformed
    | .char '\\' :: .char c :: rest =>
      match shortEscape? c with
      | some c => readString fuel rest (done.push (.char c))
      | none => .error .malformed
    | .char c :: rest =>
      if c.toNat < 32 || c == '\\' then .error .malformed
      else readString fuel rest (done.push (.char c))
    | .half unit :: rest => readString fuel rest (done.push (.half unit))

def isDigit : Text.Symbol → Bool
  | .char c => c.isDigit
  | .half _ => false

def spanDigits (input : Input) : List Char × Input :=
  ((input.takeWhile isDigit).filterMap fun
    | .char c => some c
    | .half _ => none, input.dropWhile isDigit)

/-- Reads a fraction: a point and at least one digit. Without one nothing is read. -/
def readFraction (input : Input) : List Char × Input :=
  match input with
  | .char '.' :: rest =>
    match spanDigits rest with
    | ([], _) => ([], input)
    | (digits, rest) => (digits, rest)
  | _ => ([], input)

/-- Reads an exponent: its letter, an optional sign and at least one digit. Without one nothing is
read. -/
def readExponent (input : Input) : Option Int × Input :=
  match input with
  | .char e :: rest =>
    if e == 'e' || e == 'E' then
      let (negative, rest) : Bool × Input := match rest with
        | .char '-' :: more => (true, more)
        | .char '+' :: more => (false, more)
        | _ => (false, rest)
      match spanDigits rest with
      | ([], _) => (none, input)
      | (digits, rest) =>
        let value : Int := Numeral.digitsValue 0 digits
        (some (if negative then -value else value), rest)
    else (none, input)
  | _ => (none, input)

/-- Reads a number without its sign. A number with a fraction or an exponent is a float. -/
def readNumber (negative : Bool) (input : Input) : Except Flaw (Value × Input) :=
  match spanDigits input with
  | ([], _) => .error .malformed
  | (first :: more, rest) =>
    let (whole, rest) :=
      if first == '0' then ([first], more.map Text.Symbol.char ++ rest) else (first :: more, rest)
    let (decimals, rest) := readFraction rest
    let (power, rest) := readExponent rest
    if decimals.isEmpty && power.isNone then
      if Numeral.integerDigitLimit < whole.length then .error (.integerTooLong whole.length)
      else
        let value : Int := Numeral.digitsValue 0 whole
        .ok (.integer (if negative then -value else value), rest)
    else
      let digits := Numeral.digitsValue (Numeral.digitsValue 0 whole) decimals
      let magnitude := Double.ofDecimal digits (power.getD 0 - decimals.length)
      .ok (.number (if negative then -magnitude else magnitude), rest)

def word? (word : String) (input : Input) : Option Input :=
  let symbols := word.toList.map Text.Symbol.char
  if symbols.isPrefixOf input then some (input.drop symbols.length) else none

def words : List (String × Value) :=
  [("null", .null), ("true", .bool true), ("false", .bool false),
   ("NaN", .notANumber), ("Infinity", .number (1.0 / 0.0)),
   ("-Infinity", .number (-1.0 / 0.0))]

/-- Reads a value that is neither a string nor an array nor an object. -/
def readPlain (input : Input) : Except Flaw (Value × Input) :=
  match words.findSome? fun (word, value) => (word? word input).map (value, ·) with
  | some result => .ok result
  | none =>
    match input with
    | .char '-' :: rest => readNumber true rest
    | _ => readNumber false input

/-- The number of arrays and objects that may lie inside one another. -/
def nestingLimit : Nat := 9995

mutual

/-- Reads one value, inside of which there is room for `depth` arrays and objects. `fuel` is at
least twice the number of symbols: no two steps in a row leave the input as it is. -/
def readValue : (fuel depth : Nat) → Input → Except Flaw (Value × Input)
  | 0, _, _ => .error .malformed
  | fuel + 1, depth, input =>
    match input with
    | .char '"' :: rest => do
      let (text, rest) ← readString fuel rest #[]
      return (.string text, rest)
    | .char '[' :: rest =>
      match depth with
      | 0 => .error (.tooDeep .jsonArray)
      | depth + 1 =>
        match skipSpace rest with
        | .char ']' :: rest => .ok (.array [], rest)
        | rest => readItems fuel depth rest #[]
    | .char '{' :: rest =>
      match depth with
      | 0 => .error (.tooDeep .jsonObject)
      | depth + 1 =>
        match skipSpace rest with
        | .char '}' :: rest => .ok (.object [], rest)
        | rest => readMembers fuel depth rest []
    | _ => readPlain input

/-- Reads the items of an array from the first one on. -/
def readItems : (fuel depth : Nat) → Input → Array Value → Except Flaw (Value × Input)
  | 0, _, _, _ => .error .malformed
  | fuel + 1, depth, input, done => do
    let (item, rest) ← readValue fuel depth input
    match skipSpace rest with
    | .char ',' :: rest => readItems fuel depth (skipSpace rest) (done.push item)
    | .char ']' :: rest => return (.array (done.push item).toList, rest)
    | _ => throw .malformed

/-- Reads the members of an object from the first one on. -/
def readMembers : (fuel depth : Nat) → Input → List (String × Value) →
    Except Flaw (Value × Input)
  | 0, _, _, _ => .error .malformed
  | fuel + 1, depth, input, done =>
    match input with
    | .char '"' :: rest => do
      let (name, rest) ← readString fuel rest #[]
      match skipSpace rest with
      | .char ':' :: rest =>
        let (member, rest) ← readValue fuel depth (skipSpace rest)
        let done := Assoc.put name member done
        match skipSpace rest with
        | .char ',' :: rest => readMembers fuel depth (skipSpace rest) done
        | .char '}' :: rest => return (.object done, rest)
        | _ => throw .malformed
      | _ => throw .malformed
    | _ => .error .malformed

end

def ofSymbols (input : Input) : Except Flaw Value := do
  let (result, rest) ← readValue (2 * (input.length + 1)) nestingLimit (skipSpace input)
  match skipSpace rest with
  | [] => return result
  | _ => throw .malformed

/-- Decodes a document by its byte order mark, or by the zero bytes at its start. -/
def decode? : List Nat → Option Input
  | 0x00 :: 0x00 :: 0xFE :: 0xFF :: rest => Text.ofUtf32? .big rest
  | 0xFF :: 0xFE :: 0x00 :: 0x00 :: rest => Text.ofUtf32? .little rest
  | 0xFE :: 0xFF :: rest => Text.ofUtf16? .big rest
  | 0xFF :: 0xFE :: rest => Text.ofUtf16? .little rest
  | 0xEF :: 0xBB :: 0xBF :: rest => (Text.ofUtf8 true rest).toOption
  | bytes =>
    match bytes with
    | 0 :: 0 :: _ :: _ :: _ => Text.ofUtf32? .big bytes
    | 0 :: _ :: _ :: _ :: _ => Text.ofUtf16? .big bytes
    | _ :: 0 :: 0 :: 0 :: _ => Text.ofUtf32? .little bytes
    | _ :: 0 :: _ :: _ :: _ => Text.ofUtf16? .little bytes
    | [0, _] => Text.ofUtf16? .big bytes
    | [_, 0] => Text.ofUtf16? .little bytes
    | _ => (Text.ofUtf8 true bytes).toOption

def ofBytes (bytes : List Nat) : Except Flaw Value :=
  match decode? bytes with
  | some input => ofSymbols input
  | none => .error .malformed

end PlugGraph.Json
