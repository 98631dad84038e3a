import PlugGraph.Attr

/-!
# Plugs

A *plug* is one attribute of one node, written `node.attr`. Its text may be surrounded by blanks
and by one pair of double quotes; `normalize` removes both. Plugs are equal when their normalized
texts are, letter case included.
-/

namespace PlugGraph

structure Plug where
  node : String
  attr : String
deriving DecidableEq, Repr

namespace Plug

/-- Blanks at the ends removed, then one pair of surrounding quotes. -/
def normalizeChars (cs : List Char) : List Char :=
  match Text.trim cs with
  | '"' :: rest => if rest.getLast? == some '"' then rest.dropLast else '"' :: rest
  | cs => cs

/-- The text that identifies a plug. -/
def normalize (text : String) : String := .ofList (normalizeChars text.toList)

/-- Node and attribute joined as they stand. -/
def join (node attr : String) : String := node ++ "." ++ attr

def text (plug : Plug) : String := join plug.node plug.attr

/-- The text of the plug of a node's attribute, whose name may have a leading dot. -/
def named (node attr : String) : String := join node (Attr.withoutDot attr)

/-- Splits at the first dot, with something on both sides. -/
def ofText? (text : String) : Option Plug :=
  let cs := normalizeChars text.toList
  let node := cs.takeWhile (· != '.')
  let attr := (cs.dropWhile (· != '.')).drop 1
  if node.isEmpty || attr.isEmpty then none else some ⟨.ofList node, .ofList attr⟩

/-- Splits at the last dot, with something on both sides; a node's path may hold dots. -/
def ofPath? (text : String) : Option Plug :=
  let reversed := (normalizeChars text.toList).reverse
  let attr := (reversed.takeWhile (· != '.')).reverse
  let node := ((reversed.dropWhile (· != '.')).drop 1).reverse
  if node.isEmpty || attr.isEmpty then none
  else some ⟨.ofList node, .ofList attr⟩

/-- The last segment of a node path whose segments are separated by `|`. -/
def leafName (node : String) : String :=
  .ofList (node.toList.reverse.takeWhile (· != '|')).reverse

end Plug

end PlugGraph
