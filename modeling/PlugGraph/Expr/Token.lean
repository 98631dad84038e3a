import PlugGraph.Number.Numeral
import PlugGraph.Text.Letter

/-!
# Tokens of expressions

An expression is cut into numbers, identifiers, operators, parentheses and commas. Identifiers take
in whole node paths such as `|rig|arm_L:ctrl.tx` and may start with `$`. Blanks separate tokens,
and a character that starts none is skipped.

The scanner of numbers is generous: it takes every digit, point and exponent letter in sight, and a
sign right after an exponent letter. What it takes need not be a numeral; then the number is zero.
-/

namespace PlugGraph.Expr

inductive Operator where
  | add
  | sub
  | mul
  | div
  | pow
deriving DecidableEq, Repr

namespace Operator

def symbol : Operator → Char
  | add => '+'
  | sub => '-'
  | mul => '*'
  | div => '/'
  | pow => '^'

def ofSymbol? : Char → Option Operator
  | '+' => some add
  | '-' => some sub
  | '*' => some mul
  | '/' => some div
  | '^' => some pow
  | _ => none

def text (op : Operator) : String := .ofList [op.symbol]

@[simp] theorem ofSymbol?_symbol (op : Operator) : ofSymbol? op.symbol = some op := by
  cases op <;> rfl

end Operator

inductive Token (α : Type) where
  | number (text : String) (value : α)
  | identifier (name : String)
  | operator (op : Operator)
  | openParen
  | closeParen
  | comma
deriving DecidableEq, Repr

namespace Token

/-- The characters that a token was read from. -/
def text {α : Type} : Token α → String
  | number text _ => text
  | identifier name => name
  | operator op => op.text
  | openParen => "("
  | closeParen => ")"
  | comma => ","

end Token

def isExponentMark (c : Char) : Bool := c == 'e' || c == 'E'

def isIdentifierStart (c : Char) : Bool :=
  Text.isLetter c || c == '_' || c == '|' || c == ':' || c == '$'

def isIdentifierPart (c : Char) : Bool :=
  Text.isLetter c || Text.isNumeric c || c == '_' || c == '|' || c == ':' || c == '.'

/-- Whether a number starts here: with a digit, or with a point before a digit. -/
def startsNumber : List Char → Bool
  | '.' :: c :: _ => Text.isDigit c
  | c :: _ => Text.isDigit c
  | [] => false

/-- Splits off the rest of a number. A sign belongs to it only right after an exponent mark, which
`afterMark` remembers. -/
def spanNumber : (afterMark : Bool) → List Char → List Char × List Char
  | _, [] => ([], [])
  | afterMark, c :: rest =>
    if Text.isDigit c || c == '.' || isExponentMark c ||
        (afterMark && (c == '+' || c == '-')) then
      let (taken, left) := spanNumber (isExponentMark c) rest
      (c :: taken, left)
    else ([], c :: rest)

/-- Nothing is lost between the number and what is left. -/
theorem spanNumber_append (afterMark : Bool) (cs : List Char) :
    (spanNumber afterMark cs).1 ++ (spanNumber afterMark cs).2 = cs := by
  induction cs generalizing afterMark with
  | nil => rfl
  | cons c rest ih =>
    simp only [spanNumber]
    split
    · simpa using ih _
    · rfl

theorem length_spanNumber_le (afterMark : Bool) (cs : List Char) :
    (spanNumber afterMark cs).2.length ≤ cs.length := by
  have h := congrArg List.length (spanNumber_append afterMark cs)
  simp only [List.length_append] at h
  omega

/-- The number token of the characters taken for it. -/
def numberToken {α : Type} [Scalar α] (cs : List Char) : Token α :=
  .number (.ofList cs) ((Numeral.finite? cs).getD 0)

def charToken? {α : Type} (c : Char) : Option (Token α) :=
  match c with
  | '(' => some .openParen
  | ')' => some .closeParen
  | ',' => some .comma
  | c => (Operator.ofSymbol? c).map .operator

def tokenizeChars {α : Type} [Scalar α] : List Char → List (Token α)
  | [] => []
  | c :: rest =>
    if Text.isBlank c then tokenizeChars rest
    else if startsNumber (c :: rest) then
      let number := spanNumber false rest
      numberToken (c :: number.1) :: tokenizeChars number.2
    else if isIdentifierStart c then
      .identifier (.ofList (c :: rest.takeWhile isIdentifierPart)) ::
        tokenizeChars (rest.dropWhile isIdentifierPart)
    else
      match charToken? c with
      | some token => token :: tokenizeChars rest
      | none => tokenizeChars rest
termination_by cs => cs.length
decreasing_by
  all_goals simp_wf
  · have := length_spanNumber_le false rest
    omega
  · have := (List.dropWhile_sublist isIdentifierPart (l := rest)).length_le
    omega

def tokenize {α : Type} [Scalar α] (text : String) : List (Token α) := tokenizeChars text.toList

end PlugGraph.Expr
