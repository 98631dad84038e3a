import PlugGraph.Text.Printable
import PlugGraph.Text.Symbol

/-!
# Quoted text

`quote` shows a text on one line between quotation marks: single ones, or double ones when the
text holds a single mark and no double one. The mark in use, the backslash and every symbol that is
not a printable character are escaped.
-/

namespace PlugGraph.Text

/-- The `width` lowest hexadecimal digits of `n`, in lower case. -/
def hexDigits : Nat → Nat → List Char
  | 0, _ => []
  | width + 1, n => hexDigits width (n / 16) ++ [Nat.digitChar (n % 16)]

/-- A code point in hexadecimal digits, as many as it takes: two, four or eight. -/
def codeEscape (code : Nat) : List Char :=
  if code < 0x100 then ['\\', 'x'] ++ hexDigits 2 code
  else if code < 0x10000 then ['\\', 'u'] ++ hexDigits 4 code
  else ['\\', 'U'] ++ hexDigits 8 code

/-- A symbol as it stands between the quotation marks `mark`. -/
def quoteSymbol (mark : Char) : Symbol → List Char
  | .char c =>
    if c == mark || c == '\\' then ['\\', c]
    else if c == '\t' then ['\\', 't']
    else if c == '\n' then ['\\', 'n']
    else if c == '\r' then ['\\', 'r']
    else if isPrintable c then [c]
    else codeEscape c.toNat
  | .half unit => codeEscape unit

def quotationMark (cs : List Char) : Char :=
  if cs.contains '\'' && !cs.contains '"' then '"' else '\''

def quote (s : String) : String :=
  let mark := quotationMark s.toList
  .ofList (mark :: (Symbol.ofText s).flatMap (quoteSymbol mark) ++ [mark])

end PlugGraph.Text
