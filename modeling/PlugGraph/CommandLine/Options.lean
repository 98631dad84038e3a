/-!
# Options on a command line

Arguments that start with a dash are options, and the others are operands. A long option may carry
its value behind an equals sign. Short options may be joined, and the rest of the argument behind
one that takes a value is the value. Otherwise the value is the next argument, whatever it looks
like. Two dashes end the options.
-/

namespace PlugGraph.CommandLine

structure OptionForm (ο : Type) where
  key : ο
  long : List String
  short : Option Char := none
  takesValue : Bool := true

/-- Options in the order given, with their values, and operands. -/
structure Parsed (ο : Type) where
  options : List (ο × String)
  operands : List String

variable {ο : Type}

/-- Adds an option in front. -/
def Parsed.addOption (key : ο) (value : String) (parsed : Parsed ο) : Parsed ο :=
  { parsed with options := (key, value) :: parsed.options }

def Parsed.addOperand (operand : String) (parsed : Parsed ο) : Parsed ο :=
  { parsed with operands := operand :: parsed.operands }

def Parsed.addOptions (options : List (ο × String)) (parsed : Parsed ο) : Parsed ο :=
  { parsed with options := options ++ parsed.options }

inductive Argument (ο : Type) where
  | operand
  /-- Two dashes. -/
  | endOfOptions
  /-- Complete options. -/
  | complete (options : List (ο × String))
  /-- Complete options and one whose value is the next argument. -/
  | awaiting (options : List (ο × String)) (last : ο)

/-- Reads joined short options. -/
def readShort (table : List (OptionForm ο)) : List Char → Option (Argument ο)
  | [] => some (.complete [])
  | c :: rest => do
    let option ← table.find? (·.short == some c)
    if option.takesValue then
      if rest.isEmpty then some (.awaiting [] option.key)
      else some (.complete [(option.key, .ofList rest)])
    else
      match ← readShort table rest with
      | .complete options => some (.complete ((option.key, "") :: options))
      | .awaiting options last => some (.awaiting ((option.key, "") :: options) last)
      | other => some other

def readLong (table : List (OptionForm ο)) (cs : List Char) : Option (Argument ο) := do
  let name := cs.takeWhile (· != '=')
  let option ← table.find? (·.long.contains (.ofList name))
  match option.takesValue, cs.dropWhile (· != '=') with
  | true, [] => some (.awaiting [] option.key)
  | true, _ :: value => some (.complete [(option.key, .ofList value)])
  | false, [] => some (.complete [(option.key, "")])
  | false, _ :: _ => none

/-- Reads one argument; `none` if it is an option that does not exist or is used wrongly. -/
def readArgument (table : List (OptionForm ο)) (argument : String) : Option (Argument ο) :=
  match argument.toList with
  | ['-', '-'] => some .endOfOptions
  | '-' :: '-' :: name => readLong table name
  | '-' :: c :: rest => readShort table (c :: rest)
  | _ => some .operand

/-- Reads arguments; operands end the options unless they may be `mixed` with them. -/
def parse (table : List (OptionForm ο)) (mixed : Bool) : List String → Option (Parsed ο)
  | [] => some ⟨[], []⟩
  | argument :: rest => do
    match ← readArgument table argument with
    | .operand =>
      if mixed then return (← parse table mixed rest).addOperand argument
      else return ⟨[], argument :: rest⟩
    | .endOfOptions => return ⟨[], rest⟩
    | .complete options => return (← parse table mixed rest).addOptions options
    | .awaiting options last =>
      match rest with
      | value :: rest => return ((← parse table mixed rest).addOption last value).addOptions options
      | [] => none

def Parsed.values [DecidableEq ο] (parsed : Parsed ο) (key : ο) : List String :=
  (parsed.options.filter (·.1 = key)).map (·.2)

/-- The value given last for an option. -/
def Parsed.value? [DecidableEq ο] (parsed : Parsed ο) (key : ο) : Option String :=
  (parsed.values key).getLast?

def Parsed.has [DecidableEq ο] (parsed : Parsed ο) (key : ο) : Bool :=
  !(parsed.values key).isEmpty

end PlugGraph.CommandLine
