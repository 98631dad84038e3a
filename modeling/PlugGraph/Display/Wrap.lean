import PlugGraph.Text.Blank
import PlugGraph.Text.Width

/-!
# Wrapping

A text is wrapped to lines of a given number of cells. A line is broken in front of a word that does
not fit any more; the blanks behind a word belong to it, but need not fit. A word that is too wide
for any line is either folded, so that it goes on on the next line, or cut.

Breaking loses nothing: the parts of a line make up the line again (`flatten_divide`), and so do the
parts of a folded word (`flatten_chop`). Only blanks beyond the end of a line are dropped then, and
what is still too wide is cut.
-/

namespace PlugGraph.Display

open PlugGraph.Text (Symbol)

abbrev Line := List Symbol

/-- What happens to a word that is too wide for a line. -/
inductive Overflow where
  /-- It goes on on the next line. -/
  | fold
  /-- It is cut, and an ellipsis stands for the rest. -/
  | ellipsis
deriving DecidableEq, Repr

namespace Line

def blanks (count : Nat) : Line := List.replicate count (.char ' ')

def isBlank : Symbol → Bool
  | .char c => Text.isBlank c
  | .half _ => false

/-- The line of a text that holds no line break. -/
def ofString (s : String) : Line := Symbol.ofText s

def trimEnd (line : Line) : Line := (line.reverse.dropWhile isBlank).reverse

/-- The distance between tabulator stops. -/
def tabSize : Nat := 8

/-- Fills up to the next stop with blanks for each tabulator, from a column on. -/
def expandTabs : (column : Nat) → Line → Line
  | _, [] => []
  | column, symbol :: rest =>
    if symbol == .char '\t' then
      let count := tabSize - column % tabSize
      blanks count ++ expandTabs (column + count) rest
    else symbol :: expandTabs (column + symbol.width) rest

/-! ### Words -/

/-- The words of a line with the blanks behind them; the first one has the blanks in front of it as
well. `fuel` bounds the number of symbols. -/
def wordsFrom : (fuel : Nat) → Line → List Line
  | 0, _ => []
  | fuel + 1, line =>
    let front := line.takeWhile isBlank
    let rest := line.drop front.length
    let core := rest.takeWhile (!isBlank ·)
    let behind := (rest.drop core.length).takeWhile isBlank
    if core.isEmpty then []
    else
      (front ++ core ++ behind) :: wordsFrom fuel (rest.drop (core.length + behind.length))

def words (line : Line) : List Line := wordsFrom line.length line

/-- Chops a word into parts that fit on a line, behind the symbols `done` of the current part, which
take `used` cells and of which the last one comes first. -/
def chop (width : Nat) : (used : Nat) → (done : Line) → Line → List Line
  | _, done, [] => [done.reverse]
  | used, done, symbol :: rest =>
    if width < used + symbol.width then done.reverse :: chop width symbol.width [symbol] rest
    else chop width (used + symbol.width) (symbol :: done) rest

/-! ### Breaks -/

/-- How far the words of a line are laid out. -/
structure Filling where
  /-- The offset of the next word. -/
  offset : Nat := 0
  /-- The number of cells used on the current line. -/
  used : Nat := 0
  /-- The offsets at which the line is broken, the last one first. -/
  breaks : List Nat := []

/-- Breaks at an offset, unless it is the start of the line. -/
def Filling.breakAt (filling : Filling) (offset : Nat) : Filling :=
  if offset == 0 then filling else { filling with breaks := offset :: filling.breaks }

/-- Lays out the parts of a folded word, each on a line of its own. -/
def Filling.addParts : Filling → List Line → Filling
  | filling, [] => filling
  | filling, part :: rest =>
    let filling := filling.breakAt filling.offset
    { filling with offset := filling.offset + part.length, used := Text.width part }.addParts rest

def Filling.addWord (overflow : Overflow) (width : Nat) (filling : Filling) (word : Line) :
    Filling :=
  let needed := Text.width (trimEnd word)
  let next := filling.offset + word.length
  if filling.used + needed ≤ width then
    { filling with offset := next, used := filling.used + Text.width word }
  else if width < needed then
    match overflow with
    | .fold => filling.addParts (chop width 0 [] word)
    | .ellipsis =>
      { filling.breakAt filling.offset with offset := next, used := Text.width word }
  else if filling.used == 0 || filling.offset == 0 then { filling with offset := next }
  else { filling.breakAt filling.offset with offset := next, used := Text.width word }

/-- The offsets at which a line is broken, in ascending order. -/
def breaks (overflow : Overflow) (width : Nat) (line : Line) : List Nat :=
  ((words line).foldl (Filling.addWord overflow width) {}).breaks.reverse

/-- Divides a line, which starts at a position, at offsets in ascending order. -/
def divide : (position : Nat) → List Nat → Line → List Line
  | _, [], line => [line]
  | position, offset :: rest, line =>
    line.take (offset - position) :: divide offset rest (line.drop (offset - position))

/-- Drops blanks at the end as long as there are more symbols than `width`. -/
def dropExcess (width : Nat) (line : Line) : Line :=
  let blank := line.length - (trimEnd line).length
  line.take (line.length - min blank (line.length - width))

/-! ### Cutting -/

/-- Looks for the front part of a line that takes `total` cells, between two offsets, by halving. A
symbol of two cells that is cut in half leaves a blank. `fuel` bounds the number of symbols between
the offsets. -/
def cutBetween (line : Line) (total : Nat) : (fuel first last : Nat) → Line
  | 0, first, _ => line.take first
  | fuel + 1, first, last =>
    let middle := (first + last) / 2
    let front := line.take (middle + 1)
    let size := Text.width front
    if size == total + 1 && front.getLast?.map Symbol.width == some 2 then
      front.dropLast ++ blanks 1
    else if size == total then front
    else if total < size then cutBetween line total fuel first middle
    else cutBetween line total fuel middle last

/-- The front part of a line that takes at most `total` cells. -/
def cut (total : Nat) (line : Line) : Line :=
  if total == 0 then []
  else if Text.width line ≤ total then line
  else cutBetween line total line.length 0 line.length

def truncate (overflow : Overflow) (width : Nat) (line : Line) : Line :=
  if Text.width line ≤ width then line
  else
    match overflow with
    | .fold => cut width line
    | .ellipsis => cut (width - 1) line ++ [.char '…']

def padEnd (width : Nat) (line : Line) : Line := line ++ blanks (width - Text.width line)

/-! ### Wrapping -/

/-- The lines of a text, broken where they are too wide. -/
def wrap (overflow : Overflow) (width : Nat) (text : List Symbol) : List Line :=
  (text.splitOn (.char '\n')).flatMap fun line =>
    let line := expandTabs 0 line
    (divide 0 (breaks overflow width line) line).map (dropExcess width)

/-- The lines of a text, broken and cut where they are too wide. -/
def fit (width : Nat) (text : List Symbol) : List Line :=
  (wrap .fold width text).map (truncate .fold width)

/-- Chopping loses nothing. -/
theorem flatten_chop (width used : Nat) (done line : Line) :
    (chop width used done line).flatten = done.reverse ++ line := by
  induction line generalizing used done with
  | nil => simp [chop]
  | cons symbol rest ih => by_cases h : width < used + symbol.width <;> simp [chop, h, ih]

/-- Dividing loses nothing. -/
theorem flatten_divide (position : Nat) (offsets : List Nat) (line : Line) :
    (divide position offsets line).flatten = line := by
  induction offsets generalizing position line with
  | nil => simp [divide]
  | cons offset rest ih => simp [divide, ih]

end Line

/-- The side of a column on which its lines stand. -/
inductive Flush where
  | left
  | right
deriving DecidableEq, Repr

def Flush.place (flush : Flush) (overflow : Overflow) (width : Nat) (line : Line) : Line :=
  match flush with
  | left => (line.truncate overflow width).padEnd width
  | right =>
    let line := line.trimEnd.truncate overflow width
    .blanks (width - Text.width line) ++ line

end PlugGraph.Display
