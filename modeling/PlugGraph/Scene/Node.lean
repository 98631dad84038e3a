import PlugGraph.Plug

/-!
# Nodes and their attributes

An attribute of a node keeps the tokens written after it as they are. What a token means depends
on who asks: it may be read as a number, three of them as a vector, or the last one as text.
-/

namespace PlugGraph

structure Attribute where
  /-- The name as written, possibly with a leading dot. -/
  key : String
  /-- The tokens written after the name, in order. -/
  tokens : List String
deriving DecidableEq, Repr

namespace Attribute

/-- The name without a leading dot. -/
def name (a : Attribute) : String := Attr.withoutDot a.key

/-- The finite number that a token denotes inside blanks and double quotes. -/
def tokenValue? {α : Type} [Scalar α] (token : String) : Option α :=
  Numeral.finite? (Text.trimIf (· == '"') (Text.trim token.toList))

/-- The last token that is a number. -/
def value? {α : Type} [Scalar α] (a : Attribute) : Option α :=
  a.tokens.reverse.findSome? tokenValue?

/-- The first three tokens that are numbers. -/
def vector? {α : Type} [Scalar α] (a : Attribute) : Option (Vec3 α) :=
  match a.tokens.filterMap tokenValue? with
  | x :: y :: z :: _ => some ⟨x, y, z⟩
  | _ => none

/-- Double quotes without the backslashes in front of them. -/
def unescapeQuotes : List Char → List Char
  | '\\' :: '"' :: rest => '"' :: unescapeQuotes rest
  | c :: rest => c :: unescapeQuotes rest
  | [] => []

/-- The last token as text: blanks and one pair of double quotes around it removed, and double
quotes inside it unescaped. -/
def text (a : Attribute) : String :=
  match a.tokens.getLast? with
  | none => ""
  | some token => .ofList (unescapeQuotes (Plug.normalizeChars token.toList))

end Attribute

/-- A node: a name, a type that selects its formula, and attributes in the order of declaration. -/
structure Node where
  name : String
  type : String
  attributes : List Attribute
deriving DecidableEq, Repr

namespace Node

/-- The first attribute of a name, which may be given with a leading dot. -/
def attribute? (node : Node) (key : String) : Option Attribute :=
  node.attributes.find? (·.name == Attr.withoutDot key)

def literal? {α : Type} [Scalar α] (node : Node) (key : String) : Option α :=
  (node.attribute? key).bind Attribute.value?

def literal {α : Type} [Scalar α] (node : Node) (key : String) (fallback : α) : α :=
  (node.literal? key).getD fallback

/-- The number authored for the first attribute that has one of the names; `fallback` if there is
no such attribute or it holds no number. The order of declaration decides, not that of the names. -/
def literalAny {α : Type} [Scalar α] (node : Node) (keys : List String) (fallback : α) : α :=
  let wanted := keys.map Attr.withoutDot
  ((node.attributes.find? (wanted.contains ·.name)).bind Attribute.value?).getD fallback

def curveTypeStart : String := "animCurve"

def isCurve (node : Node) : Bool := Text.startsWith node.type curveTypeStart

end Node

end PlugGraph
