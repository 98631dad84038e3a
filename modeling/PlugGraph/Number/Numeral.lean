import PlugGraph.Number.Scalar
import PlugGraph.Text.Blank
import PlugGraph.Text.Digit

/-!
# Numerals

A numeral is a written number: an optional sign, then decimal digits of any script with an
optional point and exponent, or one of the words for infinity and for an undefined value. Single
underscores may separate digits, and white space may surround the whole.
-/

namespace PlugGraph

inductive Numeral where
  | nan
  | infinity (negative : Bool)
  /-- The number `± digits * 10 ^ exponent`. -/
  | decimal (negative : Bool) (digits : Nat) (exponent : Int)
deriving DecidableEq, Repr

namespace Numeral

/-- Blanks that may surround a numeral: all but the ASCII separators. -/
def isPadding (c : Char) : Bool := Text.isBlank c && !(28 ≤ c.toNat && c.toNat ≤ 31)

/-- A decimal digit of any script as an ASCII digit; other characters stay. -/
def asciiDigit (c : Char) : Char :=
  match Text.decimalValue? c with
  | some value => Nat.digitChar value
  | none => c

/-- Drops underscores between digits; fails if one stands elsewhere. `afterDigit` tells whether
the character before was a digit. -/
def dropUnderscores : Bool → List Char → Option (List Char)
  | _, [] => some []
  | afterDigit, '_' :: c :: rest =>
    if afterDigit && c.isDigit then (dropUnderscores true rest).map (c :: ·) else none
  | _, c :: rest =>
    if c == '_' then none else (dropUnderscores c.isDigit rest).map (c :: ·)

/-- The value of ASCII digits in front of which `start` has been read. -/
def digitsValue (start : Nat) (cs : List Char) : Nat :=
  cs.foldl (fun value c => value * 10 + (c.toNat - 48)) start

/-- Splits off a sign; `true` is a minus. -/
def takeSign : List Char → Bool × List Char
  | '-' :: rest => (true, rest)
  | '+' :: rest => (false, rest)
  | cs => (false, cs)

/-- Reads an exponent part, which may be absent. -/
def exponent? : List Char → Option Int
  | [] => some 0
  | c :: rest =>
    if c == 'e' || c == 'E' then
      let (negative, digits) := takeSign rest
      if digits.isEmpty || !digits.all Char.isDigit then none
      else
        let value : Int := digitsValue 0 digits
        some (if negative then -value else value)
    else none

/-- Reads digits, a point and an exponent, with a digit before or after the point. -/
def unsigned? (negative : Bool) (cs : List Char) : Option Numeral :=
  let whole := cs.takeWhile Char.isDigit
  let rest := cs.dropWhile Char.isDigit
  let (fraction, rest) := match rest with
    | '.' :: more => (more.takeWhile Char.isDigit, more.dropWhile Char.isDigit)
    | _ => ([], rest)
  if whole.isEmpty && fraction.isEmpty then none
  else (exponent? rest).map fun e =>
    decimal negative (digitsValue (digitsValue 0 whole) fraction) (e - fraction.length)

/-- Reads a numeral; `none` for any other text. -/
def ofChars? (cs : List Char) : Option Numeral := do
  let cs := (Text.trimIf isPadding cs).map asciiDigit
  let (negative, body) := takeSign (← dropUnderscores false cs)
  match String.ofList (body.map Char.toLower) with
  | "nan" => some nan
  | "inf" | "infinity" => some (infinity negative)
  | _ => unsigned? negative body

/-- The scalar that a decimal numeral denotes, which may be infinite if scalars are bounded;
`none` for the words. -/
def value? {α : Type} [Scalar α] : Numeral → Option α
  | decimal negative digits exponent =>
    let magnitude : α := OfScientific.ofScientific digits (decide (exponent < 0)) exponent.natAbs
    some (if negative then -magnitude else magnitude)
  | _ => none

/-- The finite scalar that a text denotes; `none` if it denotes none. -/
def finite? {α : Type} [Scalar α] (cs : List Char) : Option α :=
  ((ofChars? cs).bind value?).filter Scalar.isFinite

def integerDigitLimit : Nat := 4300

/-- The beginning of what is said about integers of more digits. -/
def limitMessage : String :=
  "Exceeds the limit (" ++ toString integerDigitLimit ++ " digits) for integer string conversion"

def limitAdvice : String := "; use sys.set_int_max_str_digits() to increase the limit"

/-- What is said when an integer of more digits is read. -/
def readLimitMessage (digits : Nat) : String :=
  limitMessage ++ ": value has " ++ toString digits ++ " digits" ++ limitAdvice

/-- What is said when an integer of more digits is written. -/
def writeLimitMessage : String := limitMessage ++ limitAdvice

/-- Reads a decimal integer of at most `integerDigitLimit` digits. -/
def integerOfChars? (cs : List Char) : Option Int := do
  let cs := (Text.trimIf isPadding cs).map asciiDigit
  let (negative, digits) := takeSign (← dropUnderscores false cs)
  if digits.isEmpty || !digits.all Char.isDigit || integerDigitLimit < digits.length then none
  else
    let value : Int := digitsValue 0 digits
    some (if negative then -value else value)

end Numeral

end PlugGraph
