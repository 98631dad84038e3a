import PlugGraph.Number.Numeral
import PlugGraph.Text.Case
import PlugGraph.Vec3

/-!
# Attribute names

An attribute is named by a path such as `translate.translateX` or `input[3]`. Scene files may
write a dot in front of it. This module reads what a name says by its spelling: the array element
it stands for, whether it is an output, and the axis or colour channel that it ends in.
-/

namespace PlugGraph

inductive ColorChannel where
  | red
  | green
  | blue
deriving DecidableEq, Repr

/-- The capital letter of a colour channel. -/
def ColorChannel.letter : ColorChannel → Char
  | red => 'R'
  | green => 'G'
  | blue => 'B'

namespace Attr

/-- The characters of a name without one leading dot. -/
def dropDot : List Char → List Char
  | '.' :: rest => rest
  | cs => cs

/-- A name without one leading dot. -/
def withoutDot (name : String) : String := .ofList (dropDot name.toList)

/-- The array index in a name: the integer between the first `[` and the next `]`. Of a range
such as `[0:7]` it is the first one. -/
def index? (name : String) : Option Int :=
  match name.toList.dropWhile (· != '[') with
  | [] => none
  | _ :: rest =>
    if rest.contains ']' then
      Numeral.integerOfChars? (Text.trim ((rest.takeWhile (· != ']')).takeWhile (· != ':')))
    else none

/-- The name in front of the first `[`; `none` if there is no `[` or nothing in front of it. -/
def arrayName? (name : String) : Option String :=
  let cs := dropDot name.toList
  let front := cs.takeWhile (· != '[')
  if front.isEmpty || !cs.contains '[' then none else some (.ofList front)

def element (array : String) (index : Int) : String :=
  array ++ "[" ++ toString index ++ "]"

/-- Outputs whose short names do not contain `out`. -/
def shortOutputs : List String := ["o", "ox", "oy", "oz", "or", "og", "ob", "oa"]

/-- Whether a name is that of an output, in any letter case. -/
def isOutput (name : String) : Bool :=
  let name := Text.lower name
  Text.containsText name "out" || shortOutputs.contains name

/-- The axis whose letter ends the name. -/
def axis? (name : String) : Option Axis :=
  match name.toList.getLast?.map Char.toUpper with
  | some 'X' => some .x
  | some 'Y' => some .y
  | some 'Z' => some .z
  | _ => none

/-- The colour channel whose letter ends the name. -/
def color? (name : String) : Option ColorChannel :=
  match name.toList.getLast?.map Char.toUpper with
  | some 'R' => some .red
  | some 'G' => some .green
  | some 'B' => some .blue
  | _ => none

/-- The names under which a component of a compound attribute may be written, long name first; the
compound itself comes last. Without a component letter these are the two names of the compound. -/
def componentNames (long short : String) : Option Char → List String
  | none => [long, short]
  | some letter => [long.push letter, short.push letter.toLower, long]

end Attr

end PlugGraph
