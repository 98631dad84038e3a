import PlugGraph.Display.Color
import PlugGraph.Text.Small

/-!
# Styles

A style is written in words: attributes such as `bold`, which `not` in front turns off, a colour for
the text, a colour behind `on` for the background, and an address behind `link`. Styles that say the
same have the same normal form, and a text that is no style is its own one but for letter case.
-/

namespace PlugGraph.Display

/-- A style. Attributes are turned on or off. -/
structure Style where
  attributes : List (String × Bool) := []
  color : Option String := none
  background : Option String := none
  link : Option String := none

namespace Style

/-- The attributes, in the order in which a normal form names them. -/
def attributeNames : List String :=
  ["bold", "dim", "italic", "underline", "blink", "blink2", "reverse", "conceal", "strike",
   "underline2", "frame", "encircle", "overline"]

def shortNames : List (String × String) :=
  [("b", "bold"), ("d", "dim"), ("i", "italic"), ("u", "underline"), ("r", "reverse"),
   ("c", "conceal"), ("s", "strike"), ("uu", "underline2"), ("o", "overline")]

def attribute? (word : String) : Option String :=
  (shortNames.lookup word).or (if attributeNames.contains word then some word else none)

def set (style : Style) (name : String) (isOn : Bool) : Style :=
  { style with attributes := (name, isOn) :: style.attributes }

/-- Reads the words of a style from left to right. -/
def ofWords (style : Style) : List String → Except ColorFlaw Style
  | [] => .ok style
  | word :: rest =>
    match Text.small word, rest with
    | "on", color :: rest => do
      Color.check (Text.small color)
      ofWords { style with background := some (Text.small color) } rest
    | "not", word :: rest =>
      match attribute? word with
      | some name => ofWords (style.set name false) rest
      | none => .error .unknown
    | "link", address :: rest => ofWords { style with link := some address } rest
    | "on", [] | "not", [] | "link", [] => .error .unknown
    | word, rest =>
      match attribute? word with
      | some name => ofWords (style.set name true) rest
      | none => do
        Color.check word
        ofWords { style with color := some word } rest

/-- The normal form of a style. -/
def text (style : Style) : String :=
  let attributes := attributeNames.filterMap fun name =>
    (style.attributes.lookup name).map fun isOn => if isOn then name else "not " ++ name
  let background := (style.background.map ("on " ++ ·)).toList
  let link := (style.link.map ("link " ++ ·)).toList
  match attributes ++ style.color.toList ++ background ++ link with
  | [] => "none"
  | words => " ".intercalate words

/-- The words of a text. `fuel` bounds the number of characters. -/
def wordsOf : (fuel : Nat) → List Char → List String
  | 0, _ => []
  | fuel + 1, cs =>
    let cs := cs.dropWhile Text.isBlank
    match cs.takeWhile (!Text.isBlank ·) with
    | [] => []
    | word => .ofList word :: wordsOf fuel (cs.drop word.length)

/-- The normal form of the style that a text writes. -/
def normalize (cs : List Char) : Except ColorFlaw String :=
  if Text.trim cs == ['n', 'o', 'n', 'e'] then .ok "none"
  else
    match ofWords {} (wordsOf (cs.length + 1) cs) with
    | .ok style => .ok style.text
    | .error .unknown => .ok (Text.small (.ofList (Text.trim cs)))
    | .error flaw => .error flaw

end Style

end PlugGraph.Display
