import PlugGraph.Assoc
import PlugGraph.Document.Value

/-!
# Tables of TOML documents under construction

A document names places by paths. A header declares the table at its path, a double header adds a
table to the list at its path, and a pair puts a value at a place inside the table declared last.
Tables on the way to a place come into being as they are needed.

No place is filled twice. A table may be declared once, and only if it came into being on the way
to another header. A dotted path in front of a value extends tables that came into being in the same
section or on the way to a header, and closes them for all later sections.
-/

namespace PlugGraph.Toml

/-- How a table came into being. -/
inductive Origin where
  /-- On the way of a header to another place. -/
  | passed
  /-- By a header of its own. -/
  | declared
  /-- By a dotted path in the section of that number. -/
  | dotted (number : Nat)
deriving DecidableEq, Repr

/-- What is found at a place. -/
inductive Place where
  | value (value : Value)
  | table (origin : Origin) (entries : List (String × Place))
  /-- A list of tables; the last one, whose entries are given, can still be extended. -/
  | tables (earlier : List (List (String × Place))) (entries : List (String × Place))

/-- How a path goes through a table. -/
inductive Passage where
  | header
  | dotted (number : Nat)
deriving DecidableEq, Repr

namespace Place

/-- What is found at a place that a path goes through. -/
def enter (passage : Passage) : Option Place → Except Flaw Place
  | none =>
    match passage with
    | .header => .ok (table .passed [])
    | .dotted number => .ok (table (.dotted number) [])
  | some (table origin entries) =>
    match passage with
    | .header => .ok (table origin entries)
    | .dotted number =>
      if origin = .passed ∨ origin = .dotted number then .ok (table (.dotted number) entries)
      else .error .malformed
  | some (tables earlier entries) =>
    match passage with
    | .header => .ok (tables earlier entries)
    | .dotted _ => .error .malformed
  | some (value _) => .error .malformed

/-- The entries that can be reached from a place. -/
def entries : Place → List (String × Place)
  | value _ => []
  | table _ entries => entries
  | tables _ entries => entries

def put (here : Place) (key : String) (there : Place) : Place :=
  match here with
  | value v => value v
  | table origin entries => table origin (Assoc.put key there entries)
  | tables earlier entries => tables earlier (Assoc.put key there entries)

/-- Changes what is found at the end of a path. Every step goes through a table and on to one of
its keys. -/
def alter (change : Option Place → Except Flaw Place) :
    List (Passage × String) → Option Place → Except Flaw Place
  | [], place => change place
  | (passage, key) :: path, place => do
    let here ← enter passage place
    let there ← alter change path (Assoc.get? key here.entries)
    return here.put key there

def headerPath (keys : List String) : List (Passage × String) := keys.map (.header, ·)

def declare : Option Place → Except Flaw Place
  | none => .ok (table .declared [])
  | some (table .passed entries) => .ok (table .declared entries)
  | _ => .error .malformed

/-- Adds a table to a list of tables. -/
def append : Option Place → Except Flaw Place
  | none => .ok (tables [] [])
  | some (tables earlier entries) => .ok (tables (entries :: earlier) [])
  | _ => .error .malformed

def fill (v : Value) : Option Place → Except Flaw Place
  | none => .ok (value v)
  | some _ => .error .malformed

/-- The path from the root to the place that a dotted key names in a section: through the tables of
the header, into the first table of the key as part of it, and from there on dotted. -/
def pairPath (number : Nat) (header keys : List String) : List (Passage × String) :=
  let passages := List.replicate (header.length + 1) Passage.header
  let dotted := List.replicate (keys.length - 1) (Passage.dotted number)
  (passages ++ dotted).zip (header ++ keys)

mutual

def toValue : Place → Value
  | value v => v
  | table _ entries => .object (members entries)
  | tables earlier entries => .array (lists earlier [.object (members entries)])

def members : List (String × Place) → List (String × Value)
  | [] => []
  | (key, place) :: rest => (key, toValue place) :: members rest

/-- The tables of a list, from the last one to the first, in front of others. -/
def lists : List (List (String × Place)) → List Value → List Value
  | [], later => later
  | entries :: earlier, later => lists earlier (.object (members entries) :: later)

end

end Place

end PlugGraph.Toml
