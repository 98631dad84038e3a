import PlugGraph.Document.Value

/-!
# Strings of TOML documents

A string stands between quotation marks, which are either doubled to three or single. Between double
quotes a backslash escapes characters; between apostrophes nothing is escaped. A string between
triple marks may extend over several lines: a line break right after the opening mark is dropped,
and a backslash at the end of a line drops the blanks and line breaks that follow.
-/

namespace PlugGraph.Toml

/-- What is left to read of a document. -/
abbrev Input := List Char

/-- Blanks inside a line. -/
def isSpace (c : Char) : Bool := c == ' ' || c == '\t'

def isGap (c : Char) : Bool := isSpace c || c == '\n'

/-- May stand in a comment and in a string on one line. -/
def isPlain (c : Char) : Bool := c == '\t' || (32 ≤ c.toNat && c.toNat != 127)

/-- May stand in a string that extends over several lines. -/
def isPlainOrBreak (c : Char) : Bool := isPlain c || c == '\n'

/-- The character that a one-letter escape stands for. -/
def shortEscape? : Char → Option Char
  | 'b' => some '\x08'
  | 't' => some '\t'
  | 'n' => some '\n'
  | 'f' => some '\x0c'
  | 'r' => some '\r'
  | '"' => some '"'
  | '\\' => some '\\'
  | _ => none

/-- The value of a digit in a base of at most 16, in either letter case. -/
def digitValue? (base : Nat) (c : Char) : Option Nat :=
  let value? :=
    if c.isDigit then some (c.toNat - 48)
    else if 'a' ≤ c && c ≤ 'f' then some (c.toNat - 87)
    else if 'A' ≤ c && c ≤ 'F' then some (c.toNat - 55)
    else none
  value?.filter (· < base)

/-- The spelling of the character whose code is written in hexadecimal digits, the last character
first; surrogates are no characters. -/
def codePoint? (digits : List Char) : Option (List Char) := do
  let values ← digits.mapM (digitValue? 16)
  let code := values.foldl (fun code value => code * 16 + value) 0
  if code < 0xD800 || (0xE000 ≤ code && code < 0x110000) then
    some (Text.Symbol.char (.ofNat code)).spelling.reverse
  else none

/-- How far a backslash at the end of a line has been read. -/
inductive Folding where
  /-- There is none. -/
  | none
  /-- Its line has not ended yet. -/
  | line
  /-- Blanks and line breaks are being dropped. -/
  | gap
deriving DecidableEq, Repr

/-- Reads a string between double quotes up to its closing mark. `done` holds the characters so
far, the last one first. -/
def readBasic (multiline : Bool) : Folding → (done : List Char) → Input →
    Except Flaw (List Char × Input)
  | _, _, [] => .error .malformed
  | folding, done, c :: rest =>
    if folding = .line then
      if isSpace c then readBasic multiline .line done rest
      else if c == '\n' then readBasic multiline .gap done rest
      else .error .malformed
    else if folding = .gap ∧ isGap c then readBasic multiline .gap done rest
    else if c == '"' then
      match multiline, rest with
      | false, rest => .ok (done.reverse, rest)
      | true, '"' :: '"' :: rest => .ok (done.reverse, rest)
      | true, rest => readBasic multiline .none ('"' :: done) rest
    else if c == '\\' then
      match rest with
      | 'u' :: a :: b :: c :: d :: rest =>
        match codePoint? [a, b, c, d] with
        | some cs => readBasic multiline .none (cs ++ done) rest
        | none => .error .malformed
      | 'U' :: a :: b :: c :: d :: e :: f :: g :: h :: rest =>
        match codePoint? [a, b, c, d, e, f, g, h] with
        | some cs => readBasic multiline .none (cs ++ done) rest
        | none => .error .malformed
      | c :: rest =>
        if multiline && isSpace c then readBasic multiline .line done rest
        else if multiline && c == '\n' then readBasic multiline .gap done rest
        else
          match shortEscape? c with
          | some c => readBasic multiline .none (c :: done) rest
          | none => .error .malformed
      | [] => .error .malformed
    else if isPlain c || (multiline && c == '\n') then readBasic multiline .none (c :: done) rest
    else .error .malformed

/-- Reads a string between apostrophes up to its closing mark. -/
def readLiteral (input : Input) : Except Flaw (List Char × Input) :=
  let body := input.takeWhile (· != '\'')
  match input.dropWhile (· != '\'') with
  | _ :: rest => if body.all isPlain then .ok (body, rest) else .error .malformed
  | [] => .error .malformed

/-- Splits at the first three apostrophes. -/
def spanTriple? : Input → Option (List Char × Input)
  | '\'' :: '\'' :: '\'' :: rest => some ([], rest)
  | c :: rest => (spanTriple? rest).map fun (body, rest) => (c :: body, rest)
  | [] => none

/-- Reads a string between triple apostrophes up to its closing mark. -/
def readTriple (input : Input) : Except Flaw (List Char × Input) :=
  match spanTriple? input with
  | some (body, rest) => if body.all isPlainOrBreak then .ok (body, rest) else .error .malformed
  | none => .error .malformed

/-- Up to two more marks right after the closing one belong to the string. -/
def takeMarks (mark : Char) (body : List Char) (rest : Input) : List Char × Input :=
  let marks := (rest.take 2).takeWhile (· == mark)
  (body ++ marks, rest.drop marks.length)

def dropBreak : Input → Input
  | '\n' :: rest => rest
  | input => input

/-- Reads a string of any form; `none` if none starts here. -/
def readString? (input : Input) : Option (Except Flaw (List Char × Input)) :=
  match input with
  | '"' :: '"' :: '"' :: rest => some do
    let (body, rest) ← readBasic true .none [] (dropBreak rest)
    return takeMarks '"' body rest
  | '\'' :: '\'' :: '\'' :: rest => some do
    let (body, rest) ← readTriple (dropBreak rest)
    return takeMarks '\'' body rest
  | '"' :: rest => some (readBasic false .none [] rest)
  | '\'' :: rest => some (readLiteral rest)
  | _ => none

end PlugGraph.Toml
