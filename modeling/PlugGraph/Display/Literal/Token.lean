import PlugGraph.Number.Numeral
import PlugGraph.Text.Letter

/-!
# Tokens of literals

A literal consists of numbers, strings, words and marks. Blanks, comments behind `#`, and line
breaks between brackets or behind a backslash may stand between them; a line break outside brackets
is a token of its own.
-/

namespace PlugGraph.Display.Literal

/-- A token of a literal. Of numbers and strings it matters only what kind they are. -/
inductive Token where
  /-- A number without a sign. -/
  | number (isImaginary : Bool)
  /-- A string of characters or of bytes. -/
  | string (isBytes : Bool)
  /-- A word, or the ellipsis, that is a value by itself. -/
  | constant
  /-- The word `set`. -/
  | setName
  /-- A bracket, a comma, a colon or a sign. -/
  | mark (c : Char)
  | lineEnd
deriving DecidableEq, Repr

def isGap (c : Char) : Bool := [' ', '\t', '\x0c'].contains c

def isNameChar (c : Char) : Bool :=
  Text.isLetter c || Text.isNumeric c || Text.isDigit c || c == '_'

/-! ### Numbers -/

def isDigitOf (base : Nat) (c : Char) : Bool :=
  if base ≤ 10 then '0' ≤ c && c.toNat < '0'.toNat + base
  else c.isDigit || ('a' ≤ c.toLower && c.toLower ≤ 'f')

/-- Whether a text consists of digits, between which single underscores may stand. -/
def isDigitRun (base : Nat) (run : List Char) : Bool :=
  (run.splitOn '_').all fun group => !group.isEmpty && group.all (isDigitOf base)

def hexValue (digits : List Char) : Nat :=
  digits.foldl (fun value c => 16 * value + (if c.isDigit then c.toNat - '0'.toNat
    else 10 + c.toLower.toNat - 'a'.toNat)) 0

def takeRun (cs : List Char) : List Char := cs.takeWhile fun c => c.isDigit || c == '_'

/-- Whether digits make a decimal whole number. It does not begin with a zero, but for zero itself.
-/
def isWhole (run : List Char) : Bool :=
  let digits := run.filter (· != '_')
  digits.all (· == '0') || digits.head? != some '0' && digits.length ≤ Numeral.integerDigitLimit

/-- The base that a letter behind a zero chooses. -/
def baseOf? (c : Char) : Option Nat := [('x', 16), ('o', 8), ('b', 2)].lookup c.toLower

/-- The rest behind the fraction of a number, if it has one. -/
def afterFraction? : List Char → Option (List Char)
  | '.' :: rest =>
    match takeRun rest with
    | [] => some rest
    | run => if isDigitRun 10 run then some (rest.drop run.length) else none
  | _ => none

/-- The rest behind the exponent of a number, if it has one. -/
def afterExponent? : List Char → Option (List Char)
  | [] => none
  | c :: rest =>
    let digits := match rest with
      | sign :: digits => if ['+', '-'].contains sign then digits else rest
      | [] => rest
    let run := takeRun digits
    if c.toLower == 'e' && isDigitRun 10 run then some (digits.drop run.length) else none

/-- Scans a decimal number; what follows is not looked at. -/
def scanDecimal? (cs : List Char) : Option (Token × List Char) :=
  let run := takeRun cs
  if !run.isEmpty && !isDigitRun 10 run then none
  else
    let rest := cs.drop run.length
    let fraction? := afterFraction? rest
    let exponent? := afterExponent? (fraction?.getD rest)
    match (exponent?.or fraction?).getD rest with
    | 'j' :: rest | 'J' :: rest => some (.number true, rest)
    | rest =>
      if exponent?.isSome || fraction?.isSome || isWhole run then some (.number false, rest)
      else none

/-- Scans a number. No character of a word may follow it. -/
def scanNumber? (cs : List Char) : Option (Token × List Char) := do
  let (token, rest) ← match cs with
    | '0' :: c :: digits =>
      match baseOf? c with
      | some base =>
        let run := digits.takeWhile isNameChar
        let isRun := isDigitRun base run || run.head? == some '_' && isDigitRun base (run.drop 1)
        if isRun then some (Token.number false, digits.drop run.length) else none
      | none => scanDecimal? cs
    | _ => scanDecimal? cs
  if rest.head?.any isNameChar then none else return (token, rest)

/-! ### Strings -/

/-- How a string is written: whether it is one of bytes, whether a backslash stands for itself, the
quotation mark, and whether it is tripled, so that the string may hold line breaks. -/
structure Quotation where
  isBytes : Bool
  isRaw : Bool
  quote : Char
  isTriple : Bool

/-- The quotation that the letters in front of a quotation mark choose. -/
def Quotation.of? (letters : List Char) (quote : Char) (isTriple : Bool) : Option Quotation :=
  match letters.map Char.toLower with
  | [] | ['u'] => some ⟨false, false, quote, isTriple⟩
  | ['r'] => some ⟨false, true, quote, isTriple⟩
  | ['b'] => some ⟨true, false, quote, isTriple⟩
  | ['b', 'r'] | ['r', 'b'] => some ⟨true, true, quote, isTriple⟩
  | _ => none

def greatestCode : Nat := 0x10FFFF

/-- Whether the character behind a backslash, with what follows it, can be read. -/
def Quotation.readsEscape (q : Quotation) (c : Char) (rest : List Char) : Bool :=
  let holdsCode (count : Nat) : Bool :=
    let digits := rest.take count
    digits.length == count && digits.all (isDigitOf 16) &&
      hexValue digits ≤ greatestCode
  if q.isRaw then true
  else if c == 'x' then holdsCode 2
  else if q.isBytes then true
  else if c == 'u' then holdsCode 4
  else if c == 'U' then holdsCode 8
  else c != 'N'

def Quotation.admits (q : Quotation) (c : Char) : Bool :=
  (!q.isBytes || c.toNat < 0x80) && (q.isTriple || c != '\n')

/-- The rest behind a string, from inside it. -/
def Quotation.after? (q : Quotation) : List Char → Option (List Char)
  | [] => none
  | '\\' :: c :: rest =>
    if (!q.isBytes || c.toNat < 0x80) && q.readsEscape c rest then q.after? rest else none
  | c :: rest =>
    if c != q.quote then if q.admits c then q.after? rest else none
    else if !q.isTriple then some rest
    else if [c, c].isPrefixOf rest then some (rest.drop 2)
    else q.after? rest

/-- Scans a string behind the letters in front of it, from its quotation mark on. -/
def scanString? (letters : List Char) (quote : Char) (rest : List Char) :
    Option (Token × List Char) := do
  let isTriple := [quote, quote].isPrefixOf rest
  let q ← Quotation.of? letters quote isTriple
  let rest ← q.after? (if isTriple then rest.drop 2 else rest)
  return (.string q.isBytes, rest)

/-! ### All tokens -/

def wordToken? (word : List Char) : Option Token :=
  match String.ofList word with
  | "None" | "True" | "False" => some .constant
  | "set" => some .setName
  | _ => none

def marks : List Char := ['(', ')', '\x7b', '\x7d', ',', ':', '+', '-']

/-- Scans the token in front of a text. -/
def scanToken? (cs : List Char) : Option (Token × List Char) :=
  match cs with
  | [] => none
  | c :: rest =>
    if c.isDigit || c == '.' && rest.head?.any Char.isDigit then scanNumber? cs
    else if ['.', '.', '.'].isPrefixOf cs then some (.constant, cs.drop 3)
    else if marks.contains c then some (.mark c, rest)
    else
      let word := cs.takeWhile isNameChar
      let isQuote (c : Char) : Bool := c == '\'' || c == '"'
      match cs.drop word.length with
      | c :: rest =>
        if isQuote c then scanString? word c rest
        else (wordToken? word).map (·, c :: rest)
      | [] => (wordToken? word).map (·, [])

/-- The greatest number of open brackets. -/
def depthLimit : Nat := 200

/-- The number of open brackets behind a token. -/
def depthAfter (depth : Nat) : Token → Nat
  | .mark '(' | .mark '\x7b' => depth + 1
  | .mark ')' | .mark '\x7d' => depth - 1
  | _ => depth

/-- The tokens of a text, where `depth` brackets are open. `fuel` bounds the number of characters.
-/
def tokensFrom? : (fuel depth : Nat) → List Char → Option (List Token)
  | 0, _, _ => none
  | _, _, [] => some []
  | fuel + 1, depth, c :: rest =>
    if isGap c then tokensFrom? fuel depth rest
    else if c == '\n' then
      if depth == 0 then (tokensFrom? fuel depth rest).map (.lineEnd :: ·)
      else tokensFrom? fuel depth rest
    else if c == '#' then tokensFrom? fuel depth (rest.dropWhile (· != '\n'))
    else if ['\\', '\n'].isPrefixOf (c :: rest) then tokensFrom? fuel depth (rest.drop 1)
    else do
      let (token, rest) ← scanToken? (c :: rest)
      let depth := depthAfter depth token
      if depthLimit < depth then none
      else return token :: (← tokensFrom? fuel depth rest)

/-- All line breaks as line feeds. -/
def unifyBreaks : List Char → List Char
  | '\r' :: '\n' :: rest => '\n' :: unifyBreaks rest
  | '\r' :: rest => '\n' :: unifyBreaks rest
  | c :: rest => c :: unifyBreaks rest
  | [] => []

def tokens? (cs : List Char) : Option (List Token) :=
  let cs := unifyBreaks cs
  tokensFrom? (cs.length + 1) 0 cs

end PlugGraph.Display.Literal
