import PlugGraph.Document.Toml.Quoted
import PlugGraph.Number.Double
import PlugGraph.Number.Numeral

/-!
# Numbers, dates and times of TOML documents

Single underscores may separate digits. Integers may be written in base 16, 8 and 2, without a sign
then; a decimal integer other than zero starts with no zero. A date has to exist in the calendar.
-/

namespace PlugGraph.Toml

/-- Splits off digits that single underscores may separate. -/
def spanDigits (isDigit : Char → Bool) : (afterDigit : Bool) → Input → List Char × Input
  | true, '_' :: c :: rest =>
    if isDigit c then
      let (digits, left) := spanDigits isDigit true rest
      (c :: digits, left)
    else ([], '_' :: c :: rest)
  | _, c :: rest =>
    if isDigit c then
      let (digits, left) := spanDigits isDigit true rest
      (c :: digits, left)
    else ([], c :: rest)
  | _, [] => ([], [])

/-- Reads an integer in a base, from behind its sign on. -/
def readBased (base : Nat) (input : Input) : Except Flaw (Value × Input) :=
  match spanDigits (digitValue? base · |>.isSome) false input with
  | ([], _) => .error .malformed
  | (digits, rest) =>
    let value : Nat := (digits.filterMap (digitValue? base)).foldl (fun n d => n * base + d) 0
    .ok (.integer value, rest)

/-- Reads a fraction: a point and at least one digit. Without one nothing is read. -/
def readFraction (input : Input) : List Char × Input :=
  match input with
  | '.' :: rest =>
    match spanDigits Char.isDigit false rest with
    | ([], _) => ([], input)
    | found => found
  | _ => ([], input)

/-- Reads an exponent: its letter, an optional sign and at least one digit. Without one nothing is
read. -/
def readExponent (input : Input) : Option Int × Input :=
  match input with
  | e :: rest =>
    if e == 'e' || e == 'E' then
      let (negative, rest) := Numeral.takeSign rest
      match spanDigits Char.isDigit false rest with
      | ([], _) => (none, input)
      | (digits, rest) =>
        let value : Int := Numeral.digitsValue 0 digits
        (some (if negative then -value else value), rest)
    else (none, input)
  | [] => (none, input)

/-- Reads a decimal number without its sign. -/
def readDecimal (negative : Bool) (input : Input) : Except Flaw (Value × Input) :=
  let (whole, rest) := match input with
    | '0' :: rest => (['0'], rest)
    | input => spanDigits Char.isDigit false input
  if whole.isEmpty then .error .malformed
  else
    let (decimals, rest) := readFraction rest
    let (power, rest) := readExponent rest
    if decimals.isEmpty && power.isNone then
      if Numeral.integerDigitLimit < whole.length then .error (.integerTooLong whole.length)
      else
        let value : Int := Numeral.digitsValue 0 whole
        .ok (.integer (if negative then -value else value), rest)
    else
      let digits := Numeral.digitsValue (Numeral.digitsValue 0 whole) decimals
      let magnitude := Double.ofDecimal digits (power.getD 0 - decimals.length)
      .ok (.number (if negative then -magnitude else magnitude), rest)

def readNumber (input : Input) : Except Flaw (Value × Input) :=
  match input with
  | '0' :: 'x' :: rest => readBased 16 rest
  | '0' :: 'o' :: rest => readBased 8 rest
  | '0' :: 'b' :: rest => readBased 2 rest
  | _ =>
    match Numeral.takeSign input with
    | (negative, 'i' :: 'n' :: 'f' :: rest) =>
      .ok (.number (if negative then -1.0 / 0.0 else 1.0 / 0.0), rest)
    | (_, 'n' :: 'a' :: 'n' :: rest) => .ok (.number (0.0 / 0.0), rest)
    | (negative, body) => readDecimal negative body

/-! ### Dates and times -/

/-- Reads a number of exactly `count` digits. -/
def readFixed? (count : Nat) (input : Input) : Option (Nat × Input) :=
  let digits := input.take count
  if digits.length = count ∧ digits.all Char.isDigit then
    some (Numeral.digitsValue 0 digits, input.drop count)
  else none

/-- Reads a number of two digits up to `most`. -/
def readUpTo? (most : Nat) (input : Input) : Option (Nat × Input) :=
  (readFixed? 2 input).filter (·.1 ≤ most)

def readChar? (c : Char) : Input → Option Input
  | d :: rest => if d = c then some rest else none
  | [] => none

/-- Drops the fraction of a second: a point and at least one digit. -/
def dropFraction : Input → Input
  | '.' :: c :: rest => if c.isDigit then rest.dropWhile Char.isDigit else '.' :: c :: rest
  | input => input

/-- Reads a time of day; the result is what follows it. -/
def readClock? (input : Input) : Option Input := do
  let (_, rest) ← readUpTo? 23 input
  let (_, rest) ← readUpTo? 59 (← readChar? ':' rest)
  let (_, rest) ← readUpTo? 59 (← readChar? ':' rest)
  return dropFraction rest

/-- Reads the offset of a time zone in hours and minutes; the result is what follows it. -/
def readOffset? (input : Input) : Option Input := do
  let (_, rest) ← readUpTo? 23 input
  let (_, rest) ← readUpTo? 59 (← readChar? ':' rest)
  return rest

/-- Drops the time zone behind a time, if there is one. -/
def dropZone (input : Input) : Input :=
  match input with
  | 'Z' :: rest => rest
  | 'z' :: rest => rest
  | '+' :: rest => (readOffset? rest).getD input
  | '-' :: rest => (readOffset? rest).getD input
  | _ => input

def daysInMonth (year month : Nat) : Nat :=
  if month = 2 then
    if year % 4 = 0 ∧ (year % 100 ≠ 0 ∨ year % 400 = 0) then 29 else 28
  else if month = 4 ∨ month = 6 ∨ month = 9 ∨ month = 11 then 30
  else 31

/-- Reads a date with a month up to 12 and a day up to 31, and tells whether there is such a day. -/
def readDate? (input : Input) : Option (Bool × Input) := do
  let (year, rest) ← readFixed? 4 input
  let (month, rest) ← readUpTo? 12 (← readChar? '-' rest)
  let (day, rest) ← readUpTo? 31 (← readChar? '-' rest)
  if month = 0 ∨ day = 0 then none
  else some (decide (0 < year ∧ day ≤ daysInMonth year month), rest)

/-- Reads what may follow a date: a mark and a time with an optional time zone. -/
def readTimeOfDate? : Input → Option Input
  | c :: rest =>
    if c == 'T' || c == 't' || c == ' ' then (readClock? rest).map dropZone else none
  | [] => none

/-- Reads a date, a time or both; `none` if none starts here. -/
def readMoment? (input : Input) : Option (Except Flaw (Value × Input)) :=
  let written (kind : Moment) (rest : Input) : Value × Input :=
    (.moment kind (.ofList (input.take (input.length - rest.length))), rest)
  match readDate? input with
  | some (false, _) => some (.error .malformed)
  | some (true, rest) =>
    match readTimeOfDate? rest with
    | some after => some (.ok (written .dateTime after))
    | none => some (.ok (written .date rest))
  | none => (readClock? input).map fun rest => .ok (written .time rest)

end PlugGraph.Toml
