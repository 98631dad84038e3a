/-!
# Blank characters

`isBlank` is the white space of the Unicode standard together with the four ASCII separators
U+001C to U+001F. Zero-width characters are not blank. `trim` removes blanks at both ends of a
text and touches nothing else.
-/

namespace PlugGraph.Text

/-- White space in any script, the ASCII file, group, record and unit separators included. -/
def isBlank (c : Char) : Bool :=
  let n := c.toNat
  (9 ≤ n && n ≤ 13) || (28 ≤ n && n ≤ 32) || n == 0x85 || n == 0xA0 || n == 0x1680 ||
    (0x2000 ≤ n && n ≤ 0x200A) || n == 0x2028 || n == 0x2029 || n == 0x202F || n == 0x205F ||
    n == 0x3000

def trimLeftIf (p : Char → Bool) (cs : List Char) : List Char := cs.dropWhile p

def trimRightIf (p : Char → Bool) (cs : List Char) : List Char := (cs.reverse.dropWhile p).reverse

def trimIf (p : Char → Bool) (cs : List Char) : List Char := trimRightIf p (trimLeftIf p cs)

def trim (cs : List Char) : List Char := trimIf isBlank cs

/-- A text without the blanks at its ends. -/
def strip (s : String) : String := .ofList (trim s.toList)

def isBlankText (s : String) : Bool := s.toList.all isBlank

@[simp] theorem trim_nil : trim [] = [] := rfl

end PlugGraph.Text
