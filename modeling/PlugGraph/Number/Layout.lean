import PlugGraph.Number.Decimal
import PlugGraph.Number.Double

/-!
# Writing numbers

A `Layout` says how a decimal is laid out as text. `exact` writes the shortest decimal that reads
back as the same float; `general` rounds to a number of significant digits first. Both write
numbers near one positionally and the others with an exponent of at least two digits.
-/

namespace PlugGraph

structure Layout where
  /-- The least decimal exponent that is written positionally. -/
  leastPositional : Int := -4
  /-- The least decimal exponent above that which is written with an exponent again. -/
  leastScientific : Int
  /-- Whether whole numbers are written with `.0` in positional notation. -/
  keepsPoint : Bool
  /-- The name of an undefined value. -/
  nanName : String := "nan"
  /-- The name of infinity. -/
  infinityName : String := "inf"

namespace Layout

/-- Whole numbers keep `.0`, and an exponent is used from `1e+16` on. -/
def exact : Layout := { leastScientific := 16, keepsPoint := true }

/-- At most `precision` digits, without a point in whole numbers. -/
def general (precision : Nat) : Layout := { leastScientific := precision, keepsPoint := false }

/-- A natural number in at least `width` digits. -/
def padded (width n : Nat) : String :=
  let digits := Nat.repr n
  "".pushn '0' (width - digits.length) ++ digits

def write (layout : Layout) (negative : Bool) (d : Decimal) : String :=
  let d := d.normalized
  let digits := (Nat.repr d.digits).toList
  let scientific : Int := d.exponent + digits.length - 1
  let body :=
    if layout.leastPositional ≤ scientific && scientific < layout.leastScientific then
      if scientific < 0 then
        "0.".pushn '0' (-scientific - 1).toNat ++ String.ofList digits
      else if 0 ≤ d.exponent then
        let whole := (String.ofList digits).pushn '0' d.exponent.toNat
        if layout.keepsPoint then whole ++ ".0" else whole
      else
        let whole := (scientific + 1).toNat
        String.ofList (digits.take whole) ++ "." ++ String.ofList (digits.drop whole)
    else
      let mantissa := match digits with
        | first :: second :: rest => String.ofList (first :: '.' :: second :: rest)
        | _ => String.ofList digits
      mantissa ++ "e" ++ (if scientific < 0 then "-" else "+") ++ padded 2 scientific.natAbs
  if negative then "-" ++ body else body

/-- Writes a float after `rounding` it to a decimal. -/
def writeFloat (layout : Layout) (rounding : Binary → Decimal) (x : Float) : String :=
  match Binary.ofFloat? x with
  | some b => layout.write b.negative (rounding b)
  | none =>
    if x.isNaN then layout.nanName
    else if x < 0 then "-" ++ layout.infinityName
    else layout.infinityName

end Layout

namespace Double

/-- The shortest text that reads back as the same float. -/
def text (x : Float) : String := Layout.exact.writeFloat Binary.shortest x

/-- The float rounded to `precision` significant digits, as text. -/
def generalText (precision : Nat) (x : Float) : String :=
  (Layout.general precision).writeFloat (Binary.significant precision) x

end Double

end PlugGraph
