import PlugGraph.Plug

/-!
# Assignments

The source of an expression node is a sequence of statements `target = value;`. The target may be
declared by `float` or `int` in front of it, and the semicolon of the last statement may be missing.
Neither a target nor a value extends over a line break, but line breaks may separate them from the
signs around them. Text that forms no statement is passed over.
-/

namespace PlugGraph.Expr

/-- A statement: the value assigned to a target. -/
structure Assignment where
  target : String
  value : String
deriving DecidableEq, Repr

namespace Assignment

def isLineBreak (c : Char) : Bool := c == '\r' || c == '\n'

def isTargetChar (c : Char) : Bool := !(c == '=' || c == ';' || isLineBreak c)

def isValueChar (c : Char) : Bool := !(c == ';' || isLineBreak c)

/-- Reads a value up to its semicolon, from behind the equals sign on. A value of nothing but blanks
counts as long as one of them is no line break. -/
def value? (cs : List Char) : Option (List Char × List Char) :=
  match cs.dropWhile Text.isBlank with
  | [] => none
  | ';' :: rest =>
    if (cs.takeWhile Text.isBlank).any (!isLineBreak ·) then some ([], rest) else none
  | body =>
    match (body.dropWhile isValueChar).dropWhile Text.isBlank with
    | ';' :: rest => some (body.takeWhile isValueChar, rest)
    | _ => none

/-- What a scan for statements does at a position. -/
inductive Scan where
  /-- A statement with its target and value, and what follows it. -/
  | statement (target value rest : List Char)
  /-- No statement starts before `rest`. -/
  | skip (rest : List Char)

/-- Looks for a statement that starts here; there must be something left. -/
def scan (cs : List Char) : Scan :=
  let target := cs.takeWhile isTargetChar
  let behind := cs.dropWhile isTargetChar
  if target.isEmpty then .skip (cs.drop 1)
  else
    match behind.dropWhile Text.isBlank with
    | '=' :: after =>
      match value? after with
      | some (value, rest) => .statement target value rest
      | none => .skip after
    | _ => .skip (behind.drop 1)

/-- The raw statements among characters, in order; `fuel` bounds the number of scans. -/
def scanAll : (fuel : Nat) → List Char → List (List Char × List Char)
  | 0, _ => []
  | _, [] => []
  | fuel + 1, cs =>
    match scan cs with
    | .statement target value rest => (target, value) :: scanAll fuel rest
    | .skip rest => scanAll fuel rest

def declarations : List String := ["float ", "int "]

def dropDeclaration (target : List Char) (declaration : String) : List Char :=
  if declaration.toList.isPrefixOf (target.map Char.toLower) then
    Text.trim (target.drop declaration.length)
  else target

/-- A statement from its raw target and value; `none` if either is blank. -/
def ofRaw? (raw : List Char × List Char) : Option Assignment :=
  let target := declarations.foldl dropDeclaration (Text.trim raw.1)
  let value := Text.trim raw.2
  if target.isEmpty || value.isEmpty then none else some ⟨.ofList target, .ofList value⟩

/-- Adds the semicolon of the last statement if it is missing. -/
def terminated (cs : List Char) : List Char :=
  let trimmed := Text.trimRightIf Text.isBlank cs
  if trimmed.getLast? == some ';' then cs else trimmed ++ [';']

def parse (text : String) : List Assignment :=
  let cs := terminated text.toList
  (scanAll cs.length cs).filterMap ofRaw?

/-- The plug that a statement assigns to. -/
def targetPlug? (a : Assignment) : Option Plug := Plug.ofPath? a.target

/-- Whether a statement assigns to a script variable. -/
def isLocal (a : Assignment) : Bool := !a.target.isEmpty && a.targetPlug?.isNone

end Assignment

end PlugGraph.Expr
