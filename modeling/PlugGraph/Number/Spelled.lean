import PlugGraph.Number.Double
import PlugGraph.Number.Numeral

/-!
# Numbers spelled in text

Where a number is due and a text is given, the text may spell one: an ASCII numeral between blanks,
or an ASCII numeral without blanks that is written with single underscores, which are passed over
wherever they stand except at the ends.
-/

namespace PlugGraph.Spelled

/-- The number that an ASCII numeral without underscores denotes. -/
def plainNumber? (cs : List Char) : Option Float :=
  if cs.all fun c => c.toNat < 128 && c != '_' && !Text.isBlank c then
    (Numeral.ofChars? cs).map Double.ofNumeral
  else none

def hasDoubleUnderscore : List Char → Bool
  | '_' :: '_' :: _ => true
  | _ :: rest => hasDoubleUnderscore rest
  | [] => false

def number? (s : String) : Option Float :=
  let cs := s.toList
  let separated := !hasDoubleUnderscore ('_' :: cs ++ ['_'])
  (plainNumber? (Text.trimIf Numeral.isPadding cs)).or
    (if separated then plainNumber? (cs.filter (· != '_')) else none)

end PlugGraph.Spelled
