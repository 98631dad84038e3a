/-!
# Sets of characters given by ranges

A character class beyond ASCII is a list of closed ranges of code points.
-/

namespace PlugGraph.Text

/-- Closed ranges of code points. -/
abbrev Ranges := List (Nat × Nat)

def Ranges.holdsCode (ranges : Ranges) (code : Nat) : Bool :=
  ranges.any fun (first, last) => first ≤ code && code ≤ last

def Ranges.holds (ranges : Ranges) (c : Char) : Bool := ranges.holdsCode c.toNat

end PlugGraph.Text
