/-!
# Letter case

The words of this library (function names, channels, output names) are ASCII, so case is folded
for ASCII letters alone: no other character has a lower case that spells such a word.
-/

namespace PlugGraph.Text

/-- The text with its ASCII capitals made small. -/
def lower (s : String) : String := .ofList (s.toList.map Char.toLower)

/-- Whether `part` occurs in `cs` as consecutive characters. -/
def occursIn (part : List Char) : List Char → Bool
  | [] => part.isEmpty
  | c :: rest => part.isPrefixOf (c :: rest) || occursIn part rest

def containsText (s part : String) : Bool := occursIn part.toList s.toList

def startsWith (s start : String) : Bool := start.toList.isPrefixOf s.toList

end PlugGraph.Text
