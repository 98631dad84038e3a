import PlugGraph.Display.Emoji
import PlugGraph.Display.Literal
import PlugGraph.Display.Style
import PlugGraph.Text.Case
import PlugGraph.Text.Symbol

/-!
# Markup

A tag in square brackets changes the style of the text behind it, up to a tag that closes it: one
with a slash in front of the same style, or with the slash alone, which closes the tag opened last.
A tag begins with a small letter or one of `#`, `/` and `@`; other brackets are text. A backslash in
front of a tag makes it text, and two of them are one. Codes of emoji are replaced between the tags.

`plain` gives the text without its tags. Tags for actions, which begin with `@`, may have
parameters, which have to be literals once the tag is closed. `escape` makes markup from text.
-/

namespace PlugGraph.Display.Markup

inductive Flaw where
  /-- A closing tag closes none, or the parameters of the tag that it closes cannot be read. -/
  | misplaced
  /-- A number in a colour cannot be read. -/
  | number
deriving DecidableEq, Repr

inductive Piece where
  | text (cs : List Char)
  | tag (cs : List Char)
deriving DecidableEq, Repr

/-- Whether a character may stand right behind the bracket of a tag. -/
def startsTag (c : Char) : Bool := ('a' ≤ c && c ≤ 'z') || c == '#' || c == '/' || c == '@'

/-- Splits off a tag; the result is what stands between the brackets, and the rest. -/
def takeTag? : List Char → Option (List Char × List Char)
  | '[' :: c :: rest =>
    if startsTag c then
      let body := rest.takeWhile fun c => c != '[' && c != ']'
      match rest.drop body.length with
      | ']' :: behind => some (c :: body, behind)
      | _ => none
    else none
  | _ => none

/-- Escapes the tags in a text. `fuel` bounds the number of characters. -/
def escapeFrom : (fuel : Nat) → List Char → List Char
  | _, [] => []
  | 0, cs => cs
  | fuel + 1, c :: rest =>
    let marks := (c :: rest).takeWhile (· == '\\')
    let behind := (c :: rest).drop marks.length
    match takeTag? behind with
    | some (tag, rest) =>
      marks ++ marks ++ ['\\', '['] ++ tag ++ [']'] ++ escapeFrom fuel rest
    | none =>
      match marks with
      | [] => c :: escapeFrom fuel rest
      | marks => marks ++ escapeFrom fuel behind

/-- The markup that stands for a text. A single backslash at the end is doubled, since markup for a
tag may follow. -/
def escape (s : String) : String :=
  let cs := escapeFrom s.length s.toList
  match cs.reverse with
  | '\\' :: '\\' :: _ => .ofList cs
  | '\\' :: _ => .ofList (cs ++ ['\\'])
  | _ => .ofList cs

/-- Cuts markup into pieces, behind the text `done`, whose last character comes first. `fuel` bounds
the number of characters. -/
def piecesFrom : (fuel : Nat) → (done : List Char) → List Char → List Piece
  | fuel + 1, done, c :: rest =>
    let marks := (c :: rest).takeWhile (· == '\\')
    let behind := (c :: rest).drop marks.length
    match takeTag? behind with
    | some (tag, rest) =>
      let kept := List.replicate (marks.length / 2) '\\'
      let piece := if marks.length % 2 == 0 then .tag tag else .text ('[' :: tag ++ [']'])
      .text done.reverse :: .text kept :: piece :: piecesFrom fuel [] rest
    | none =>
      match marks with
      | [] => piecesFrom fuel (c :: done) rest
      | marks => piecesFrom fuel (marks ++ done) behind
  | _, done, _ => [.text done.reverse]

def pieces (cs : List Char) : List Piece := piecesFrom cs.length [] cs

/-- Drops the backslash in front of every opening bracket. -/
def dropMarks : List Char → List Char
  | '\\' :: '[' :: rest => '[' :: dropMarks rest
  | c :: rest => c :: dropMarks rest
  | [] => []

/-- A control character that text does not keep. -/
def isDropped (c : Char) : Bool := [7, 8, 11, 12, 13].contains c.toNat

/-- The text of a piece between tags. -/
def pieceText (cs : List Char) : List Char :=
  (Emoji.replace (dropMarks cs)).filter (!isDropped ·)

/-- An open tag: its style in normal form, and its parameters. -/
structure Open where
  style : String
  parameters : List Char

/-- The tag opened last that has the given style, and the other open tags; the tag opened last comes
first. -/
def close? (style : String) : List Open → Option (Open × List Open)
  | [] => none
  | tag :: others =>
    if tag.style == style then some (tag, others)
    else (close? style others).map fun (found, others) => (found, tag :: others)

def styleOf (cs : List Char) : Except Flaw String :=
  match Style.normalize cs with
  | .ok style => .ok style
  | .error _ => .error .number

/-- Whether a tag that is being closed can be read. -/
def Open.isReadable (tag : Open) : Bool :=
  !Text.startsWith tag.style "@" || tag.parameters.isEmpty || Literal.isAction tag.parameters

/-- Opens a tag, written without its brackets. -/
def openTag (tag : List Char) : Except Flaw Open := do
  let name := tag.takeWhile (· != '=')
  return ⟨← styleOf name, tag.drop (name.length + 1)⟩

def step (tag : List Char) (stack : List Open) : Except Flaw (List Open) := do
  match tag.takeWhile (· != '=') with
  | '/' :: name =>
    let closed? ← match Text.trim name with
      | [] => pure (stack.head?.map (·, stack.drop 1))
      | name => do pure (close? (← styleOf name) stack)
    match closed? with
    | some (tag, others) => if tag.isReadable then return others else throw .misplaced
    | none => throw .misplaced
  | _ => return (← openTag tag) :: stack

/-- The text of pieces, where the tags `stack` are open. -/
def plainFrom : List Open → List Piece → Except Flaw (List Char)
  | _, [] => .ok []
  | stack, .text cs :: rest => return pieceText cs ++ (← plainFrom stack rest)
  | stack, .tag tag :: rest => do plainFrom (← step tag stack) rest

/-- Checks the style that an opening tag gives to text, of which its parameters are part. -/
def Piece.checkStyle : Piece → Except Flaw Unit
  | .text _ | .tag ('/' :: _) => .ok ()
  | .tag body => do
    let opened ← openTag body
    discard <| styleOf (opened.style.toList ++ ' ' :: opened.parameters)

/-- The text that markup stands for. The styles are looked up when all tags have been followed. -/
def plain (markup : String) : Except Flaw String := do
  let pieces := pieces markup.toList
  let text ← plainFrom [] pieces
  pieces.forM Piece.checkStyle
  return .ofList text

end PlugGraph.Display.Markup
