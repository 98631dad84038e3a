import PlugGraph.Display.Markup
import PlugGraph.Display.Panel
import PlugGraph.Document.SceneFile
import PlugGraph.Settings

/-!
# Reports

A report is what a command leaves behind: lines on the standard output, lines on the error output,
and how it ended. Reports follow one another until one of them ends the command (`andThen_assoc`,
`andThen_of_ne_success`).

What is printed is markup or a table of markup, laid out for a terminal of `width` columns. Markup
with a flaw ends a command. So does half of a surrogate pair on the standard output, which cannot be
encoded; the error output shows its code instead.
-/

namespace PlugGraph.CommandLine

open PlugGraph.Display
open PlugGraph.Text (Symbol HalfError)

/-- What ends a command out of turn. -/
inductive Breakdown where
  | file (path : Path) (error : FileError)
  | settings (error : SettingsError)
  | load (error : LoadError)
  | fault (fault : Fault)
  | markup (flaw : Markup.Flaw)
  | encoding (error : HalfError)
deriving DecidableEq, Repr

def flawMessage : Markup.Flaw → String
  | .misplaced => "closing tag doesn't match any open tag"
  | .number => "invalid number in a colour"

def Breakdown.message : Breakdown → String
  | file path error => error.describe path
  | settings error => error.message
  | load error => error.message
  | fault f => f.text
  | markup flaw => flawMessage flaw
  | encoding error => error.describe

inductive Ending where
  | success
  /-- With a message on the error output. -/
  | failure
  /-- With arguments that make no command. -/
  | misuse
  | breakdown (cause : Breakdown)
deriving DecidableEq, Repr

def Ending.exitCode : Ending → Nat
  | success => 0
  | failure => 1
  | misuse => 2
  | breakdown _ => 1

structure Report where
  ending : Ending
  output : List String := []
  errors : List String := []

inductive Stream where
  | output
  | errors
deriving DecidableEq, Repr

namespace Report

def breakdown (cause : Breakdown) : Report := { ending := .breakdown cause }

/-- Goes on with another report, unless this one ends the command. -/
def andThen (first next : Report) : Report :=
  match first.ending with
  | .success => ⟨next.ending, first.output ++ next.output, first.errors ++ next.errors⟩
  | _ => first

@[simp] theorem andThen_of_ne_success {first : Report} (h : first.ending ≠ .success)
    (next : Report) : first.andThen next = first := by
  unfold andThen
  split
  · contradiction
  · rfl

theorem andThen_assoc (a b c : Report) : (a.andThen b).andThen c = a.andThen (b.andThen c) := by
  by_cases ha : a.ending = .success
  · by_cases hb : b.ending = .success <;> simp [andThen, ha, hb]
  · simp [ha]

/-! ### Printing -/

/-- A symbol as the error output shows it. -/
def escaped : Symbol → List Char
  | .half unit => Text.codeEscape unit
  | symbol => symbol.spelling

def ofLines (width : Nat) (stream : Stream) (lines : List Line) : Report :=
  let lines := lines.map (Line.cut width)
  match stream with
  | .errors =>
    { ending := .success, errors := lines.map fun line => .ofList (line.flatMap escaped) }
  | .output =>
    match Text.toUtf8 false (List.intercalate [.char '\n'] lines) with
    | .ok _ => { ending := .success, output := lines.map Symbol.text }
    | .error error => breakdown (.encoding error)

/-- Writes lines laid out from markup, which may have a flaw. -/
def display (width : Nat) (stream : Stream) (lines : Except Markup.Flaw (List Line)) : Report :=
  match lines with
  | .ok lines => ofLines width stream lines
  | .error flaw => breakdown (.markup flaw)

def print (width : Nat) (stream : Stream) (markup : String) : Report :=
  display width stream <|
    (Markup.plain markup).map fun text => Line.fit width (Symbol.ofText text)

def fail (width : Nat) (message : String) : Report :=
  (print width .errors ("[red]✗ " ++ Markup.escape message ++ "[/red]")).andThen
    { ending := .failure }

end Report

/-- A number with six significant digits. -/
def number (x : Float) : String := Double.generalText 6 x

/-- The symbols of a text that is shown as it is. -/
def cell (text : String) : Except Markup.Flaw (List Symbol) :=
  (Markup.plain (Markup.escape text)).map Symbol.ofText

/-- A column whose header and cells are shown as they are. -/
def column (header : String) (flush : Flush) (cells : List String) :
    Except Markup.Flaw Column :=
  return { header := ← cell header, flush, cells := ← cells.mapM cell }

end PlugGraph.CommandLine
