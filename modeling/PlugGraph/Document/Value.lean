import PlugGraph.Text.Encoding

/-!
# Values of documents

The values that a JSON or TOML document may hold. Members of an object keep the order in which
their names first appear.
-/

namespace PlugGraph

inductive Moment where
  | dateTime
  | date
  | time
deriving DecidableEq, Repr

inductive Value where
  | null
  | bool (value : Bool)
  | integer (value : Int)
  | number (value : Float)
  /-- The word for what is no number. All its occurrences are one value, which is not so for the
  floats that are no number. -/
  | notANumber
  | string (text : String)
  /-- A date or time as it is written. -/
  | moment (kind : Moment) (text : String)
  | array (items : List Value)
  | object (members : List (String × Value))

/-- What nests in documents. -/
inductive Container where
  | jsonArray
  | jsonObject
  /-- An array or an inline table. -/
  | tomlValue
deriving DecidableEq, Repr

def Container.tooDeepMessage (container : Container) : String :=
  let reading :=
    match container with
    | jsonArray => " while decoding a JSON array from a unicode string"
    | jsonObject => " while decoding a JSON object from a unicode string"
    | tomlValue => ""
  "maximum recursion depth exceeded" ++ reading

inductive Flaw where
  /-- It breaks the grammar or the rules for names. -/
  | malformed
  /-- Its bytes are no text. -/
  | encoding (error : Text.Utf8Error)
  /-- An integer has more digits than are read. -/
  | integerTooLong (digits : Nat)
  /-- A container lies inside too many others. -/
  | tooDeep (container : Container)
deriving DecidableEq, Repr

end PlugGraph
