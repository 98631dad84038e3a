import PlugGraph.Text.Case

/-!
# Paths

A path is a sequence of names that slashes separate. Empty names and single dots say nothing and are
dropped; double dots are kept.
-/

namespace PlugGraph

structure Path where
  /-- The slashes in front of an absolute path: one, or exactly two. -/
  root : String
  parts : List String
deriving DecidableEq, Repr

namespace Path

def pieces : List Char → List (List Char)
  | [] => [[]]
  | c :: rest =>
    if c == '/' then [] :: pieces rest
    else
      match pieces rest with
      | piece :: others => (c :: piece) :: others
      | [] => [[c]]

def ofText (text : String) : Path :=
  let cs := text.toList
  let slashes := (cs.takeWhile (· == '/')).length
  { root := if slashes == 0 then "" else if slashes == 2 then "//" else "/"
    parts := ((pieces cs).map String.ofList).filter fun part => part != "" && part != "." }

/-- The text of a path; the empty one is a dot. -/
def text (path : Path) : String :=
  if path.root.isEmpty && path.parts.isEmpty then "."
  else path.root ++ "/".intercalate path.parts

def isAbsolute (path : Path) : Bool := !path.root.isEmpty

def name (path : Path) : String := path.parts.getLast?.getD ""

/-- The end of the last name from its last dot on, if the dot is neither its first nor its last
character. -/
def suffix (path : Path) : String :=
  let cs := path.name.toList
  let ending := (cs.reverse.takeWhile (· != '.')).reverse
  let dot := cs.length - ending.length
  if dot ≤ 1 || ending.isEmpty then "" else .ofList ('.' :: ending)

/-- The suffix in small letters. -/
def format (path : Path) : String := Text.lower path.suffix

/-- Follows a path from another one on; an absolute path starts afresh. -/
def join (path next : Path) : Path :=
  if next.isAbsolute then next else { path with parts := path.parts ++ next.parts }

def child (path : Path) (name : String) : Path := { path with parts := path.parts ++ [name] }

/-- A directory and those above it, from the inside out. -/
def withAncestors (path : Path) : List Path :=
  (List.range (path.parts.length + 1)).map fun n =>
    { path with parts := path.parts.take (path.parts.length - n) }

def parent (path : Path) : Path := { path with parts := path.parts.dropLast }

/-- Goes on from a directory to one of its parts, or back where the part is a double dot. -/
def follow (parts : List String) (part : String) : List String :=
  if part == ".." then parts.dropLast else parts ++ [part]

/-- Takes double dots back against the names in front of them. -/
def resolved (path : Path) : Path := { path with parts := path.parts.foldl follow [] }

end Path

end PlugGraph
