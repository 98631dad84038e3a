import PlugGraph.Text.Quoted

/-!
# Encodings of Unicode

Bytes become symbols, and symbols bytes. Decoding UTF-8 fails at the first byte that cannot be part
of a character and says why; whether encoded halves of surrogate pairs are let through is up to the
caller. Encoding to UTF-8 fails at the first half.
-/

namespace PlugGraph.Text

inductive Utf8Flaw where
  | startByte
  | continuationByte
  | endOfData
deriving DecidableEq, Repr

def Utf8Flaw.text : Utf8Flaw → String
  | startByte => "invalid start byte"
  | continuationByte => "invalid continuation byte"
  | endOfData => "unexpected end of data"

/-- Where and why bytes are not UTF-8: `count` bytes from `position` on, the first being `byte`,
cannot be decoded. -/
structure Utf8Error where
  position : Nat
  count : Nat
  byte : Nat
  flaw : Utf8Flaw
deriving DecidableEq, Repr

def Utf8Error.describe (e : Utf8Error) : String :=
  let place :=
    if e.count == 1 then
      " byte 0x" ++ String.ofList (Nat.toDigits 16 e.byte) ++ " in position " ++ toString e.position
    else
      " bytes in position " ++ toString e.position ++ "-" ++ toString (e.position + e.count - 1)
  "'utf-8' codec can't decode" ++ place ++ ": " ++ e.flaw.text

/-- The form of a character by its first byte: the number of bytes that follow, the bits of the
first byte, and the bounds for the second byte. -/
structure Utf8Lead where
  follow : Nat
  bits : Nat
  least : Nat
  most : Nat

/-- Reads a first byte. Encoded halves of surrogate pairs start with `0xED`. -/
def Utf8Lead.ofByte? (halves : Bool) (byte : Nat) : Option Utf8Lead :=
  if byte < 0x80 then some ⟨0, byte, 0, 0⟩
  else if byte < 0xC2 then none
  else if byte < 0xE0 then some ⟨1, byte - 0xC0, 0x80, 0xBF⟩
  else if byte < 0xF0 then
    some ⟨2, byte - 0xE0, if byte == 0xE0 then 0xA0 else 0x80,
      if byte == 0xED && !halves then 0x9F else 0xBF⟩
  else if byte < 0xF5 then
    some ⟨3, byte - 0xF0, if byte == 0xF0 then 0x90 else 0x80,
      if byte == 0xF4 then 0x8F else 0xBF⟩
  else none

/-- Reads the bytes that follow a first byte: `left` more, the next one within the bounds. Fails
with the number of bytes that were good and the flaw. -/
def utf8Tail : (left code good least most : Nat) → List Nat →
    Except (Nat × Utf8Flaw) (Nat × List Nat)
  | 0, code, _, _, _, rest => .ok (code, rest)
  | _ + 1, _, good, _, _, [] => .error (good, .endOfData)
  | left + 1, code, good, least, most, byte :: rest =>
    if least ≤ byte && byte ≤ most then
      utf8Tail left (code * 64 + (byte - 0x80)) (good + 1) 0x80 0xBF rest
    else .error (good, .continuationByte)

/-- Decodes UTF-8 from a position on; `fuel` bounds the number of characters. -/
def utf8From (halves : Bool) : (fuel position : Nat) → List Nat → Array Symbol →
    Except Utf8Error (Array Symbol)
  | _, _, [], done => .ok done
  | 0, _, _ :: _, done => .ok done
  | fuel + 1, position, byte :: rest, done =>
    match Utf8Lead.ofByte? halves byte with
    | none => .error ⟨position, 1, byte, .startByte⟩
    | some lead =>
      match utf8Tail lead.follow lead.bits 1 lead.least lead.most rest with
      | .error (count, flaw) => .error ⟨position, count, byte, flaw⟩
      | .ok (code, rest) =>
        utf8From halves fuel (position + 1 + lead.follow) rest (done.push (.ofCode code))

/-- Decodes UTF-8; `halves` lets encoded halves of surrogate pairs through. -/
def ofUtf8 (halves : Bool) (bytes : List Nat) : Except Utf8Error (List Symbol) :=
  (utf8From halves bytes.length 0 bytes #[]).map Array.toList

/-- Where symbols cannot be encoded: the halves from `first` to `last`, of which `unit` is the first
one. -/
structure HalfError where
  first : Nat
  last : Nat
  unit : Nat
deriving DecidableEq, Repr

def HalfError.describe (e : HalfError) : String :=
  let place :=
    if e.first == e.last then
      " character '" ++ .ofList (codeEscape e.unit) ++ "' in position " ++ toString e.first
    else " characters in position " ++ toString e.first ++ "-" ++ toString e.last
  "'utf-8' codec can't encode" ++ place ++ ": surrogates not allowed"

/-- The byte that a half may stand for where undecoded bytes are kept as halves. -/
def keptByte? (unit : Nat) : Option Nat :=
  if 0xDC80 ≤ unit && unit < 0xDD00 then some (unit - 0xDC00) else none

def leadingHalves (symbols : List Symbol) : Nat :=
  (symbols.takeWhile fun
    | .half _ => true
    | .char _ => false).length

/-- Encodes symbols to UTF-8 from a position on, behind the bytes `done`. -/
def utf8BytesFrom (keepsBytes : Bool) : (position : Nat) → (done : Array Nat) → List Symbol →
    Except HalfError (Array Nat)
  | _, done, [] => .ok done
  | position, done, .char c :: rest =>
    utf8BytesFrom keepsBytes (position + 1)
      (done ++ (String.utf8EncodeChar c).map UInt8.toNat) rest
  | position, done, .half unit :: rest =>
    match (keptByte? unit).filter fun _ => keepsBytes with
    | some byte => utf8BytesFrom keepsBytes (position + 1) (done.push byte) rest
    | none => .error ⟨position, position + leadingHalves rest, unit⟩

/-- Encodes symbols to UTF-8; with `keepsBytes`, halves that stand for undecoded bytes become those
bytes. -/
def toUtf8 (keepsBytes : Bool) (symbols : List Symbol) : Except HalfError (List Nat) :=
  (utf8BytesFrom keepsBytes 0 #[] symbols).map Array.toList

inductive ByteOrder where
  | little
  | big
deriving DecidableEq, Repr

/-- Groups bytes into units of the given size; `none` if some are left over. -/
def units? (order : ByteOrder) : (size : Nat) → List Nat → Option (List Nat)
  | 2, a :: b :: rest =>
    (units? order 2 rest).map ((match order with
      | .little => a + 256 * b
      | .big => 256 * a + b) :: ·)
  | 4, a :: b :: c :: d :: rest =>
    (units? order 4 rest).map ((match order with
      | .little => a + 256 * (b + 256 * (c + 256 * d))
      | .big => d + 256 * (c + 256 * (b + 256 * a))) :: ·)
  | _, [] => some []
  | _, _ => none

/-- Joins the surrogate pairs among 16-bit units. -/
def joinPairs : List Nat → List Symbol
  | high :: low :: rest =>
    if 0xD800 ≤ high && high < 0xDC00 && 0xDC00 ≤ low && low < 0xE000 then
      .char (Char.ofNat (0x10000 + (high - 0xD800) * 0x400 + (low - 0xDC00))) :: joinPairs rest
    else .ofCode high :: joinPairs (low :: rest)
  | [unit] => [.ofCode unit]
  | [] => []

/-- Decodes UTF-16 without a byte order mark. -/
def ofUtf16? (order : ByteOrder) (bytes : List Nat) : Option (List Symbol) :=
  (units? order 2 bytes).map joinPairs

/-- Decodes UTF-32 without a byte order mark. -/
def ofUtf32? (order : ByteOrder) (bytes : List Nat) : Option (List Symbol) := do
  let codes ← units? order 4 bytes
  if codes.all (· < 0x110000) then some (codes.map .ofCode) else none

end PlugGraph.Text
