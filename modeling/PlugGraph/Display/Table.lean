import PlugGraph.Display.Wrap

/-!
# Tables

A table has columns, each with a header. A column is as wide as its widest cell and a blank on
either side. If the columns do not fit together, the widest ones are narrowed until they do: first
to the width of the next widest ones, and so on. A cell is wrapped, so that a row may take several
lines; headers stand at the bottom of their row, all other cells at the top.

Narrowing keeps every column (`length_narrow`).
-/

namespace PlugGraph.Display

open PlugGraph.Text (Symbol)

structure Column where
  header : List Symbol
  flush : Flush := .left
  cells : List (List Symbol)

structure Table where
  columns : List Column
  /-- Whether there are lines around the table and between its columns. -/
  isRuled : Bool

namespace Column

/-- The blanks on both sides of a cell. -/
def padding : Nat := 2

/-- The characters that end a line of a cell when it is measured. -/
def isLineEnd : Symbol → Bool
  | .char c => [0xA, 0xB, 0xC, 0xD, 0x1C, 0x1D, 0x1E, 0x85, 0x2028, 0x2029].contains c.toNat
  | .half _ => false

/-- The width of a text: that of its widest line. -/
def textWidth (text : List Symbol) : Nat :=
  ((text.splitOnP isLineEnd).map Text.width).foldl max 0

/-- The width that a column needs, if it may take up to `limit` cells. -/
def width (limit : Nat) (column : Column) : Nat :=
  if limit ≤ padding then limit
  else min (((column.header :: column.cells).map textWidth).foldl max 0 + padding) limit

/-- The lines of a cell in a column of the given width. -/
def cellLines (flush : Flush) (width : Nat) (cell : List Symbol) : List Line :=
  if width ≤ padding then []
  else
    let inner := width - padding
    (Line.wrap .ellipsis inner cell).map fun line =>
      .blanks 1 ++ flush.place .ellipsis inner line ++ .blanks 1

end Column

namespace Table

/-! ### Widths -/

/-- The natural number next to a quotient; a half goes to the even neighbour. -/
def nearest (numerator denominator : Nat) : Nat :=
  let below := numerator / denominator
  let rest := 2 * (numerator - below * denominator)
  if denominator < rest || (rest == denominator && below % 2 == 1) then below + 1 else below

/-- Takes `excess` cells from the columns that are `widest`, of which `count` are left: the same
share from each, but `most` cells at most. -/
def takeShares (widest most : Nat) : (excess count : Nat) → List Nat → List Nat
  | _, _, [] => []
  | excess, count, width :: rest =>
    if width == widest then
      let share := min most (nearest excess count)
      (width - share) :: takeShares widest most (excess - share) (count - 1) rest
    else width :: takeShares widest most excess count rest

/-- Narrows the widest columns, down to the width of the next widest ones. -/
def narrowWidest (excess : Nat) (widths : List Nat) : List Nat :=
  let widest := widths.foldl max 0
  let next := (widths.filter (· != widest)).foldl max 0
  takeShares widest (min excess (widest - next)) excess (widths.count widest) widths

def total (widths : List Nat) : Nat := widths.foldl (· + ·) 0

/-- Narrows columns until they take no more than `limit` cells. `fuel` bounds the number of cells
taken away. -/
def narrow (limit : Nat) : (fuel : Nat) → List Nat → List Nat
  | 0, widths => widths
  | fuel + 1, widths =>
    if total widths ≤ limit then widths
    else narrow limit fuel (narrowWidest (total widths - limit) widths)

/-- The number of cells that lines around a table and between its columns take. -/
def ruleWidth (table : Table) : Nat := if table.isRuled then table.columns.length + 1 else 0

/-- The widths of the columns of a table that takes up to `limit` cells. -/
def widths (limit : Nat) (table : Table) : List Nat :=
  let limit := limit - table.ruleWidth
  let natural := table.columns.map fun column => max 1 (column.width limit)
  narrow limit (total natural) natural

/-! ### Rows -/

/-- Where the lines of a cell stand if other cells of the row have more. -/
inductive Place where
  | top
  | bottom
deriving DecidableEq, Repr

def Place.fill (place : Place) (width height : Nat) (lines : List Line) : List Line :=
  let more := List.replicate (height - lines.length) (Line.blanks width)
  match place with
  | top => lines ++ more
  | bottom => more ++ lines

def rowLines (place : Place) (cells : List (Nat × List Line)) : List (List Line) :=
  let height := (cells.map (·.2.length)).foldl max 1
  let filled := cells.map fun (width, lines) => place.fill width height lines
  (List.range height).map fun i => filled.map fun lines => lines.getD i []

/-- The characters that begin a line, divide its cells, and end it. -/
structure Rule where
  left : Char
  divider : Char
  right : Char

def Rule.join (rule : Rule) (cells : List Line) : Line :=
  .char rule.left :: List.intercalate [.char rule.divider] cells ++ [.char rule.right]

def Rule.across (rule : Rule) (fill : Char) (widths : List Nat) : Line :=
  rule.join (widths.map fun width => List.replicate width (.char fill))

/-- The cells of columns, row by row; a cell that is missing is empty. -/
def transpose : (height : Nat) → List (List (List Symbol)) → List (List (List Symbol))
  | 0, _ => []
  | height + 1, columns =>
    columns.map (·.headD []) :: transpose height (columns.map List.tail)

def headers (table : Table) : List (List Symbol) := table.columns.map (·.header)

def rows (table : Table) : List (List (List Symbol)) :=
  let cells := table.columns.map (·.cells)
  transpose ((cells.map List.length).foldl max 0) cells

def textLines (table : Table) (widths : List Nat) (place : Place) (row : List (List Symbol)) :
    List (List Line) :=
  rowLines place <| (widths.zip (table.columns.zip row)).map fun (width, column, text) =>
    (width, Column.cellLines column.flush width text)

def lines (limit : Nat) (table : Table) : List Line :=
  let widths := table.widths limit
  let header := table.textLines widths .bottom table.headers
  let body := table.rows.flatMap (table.textLines widths .top)
  if table.isRuled then
    [Rule.across ⟨'┏', '┳', '┓'⟩ '━' widths] ++ header.map (Rule.join ⟨'┃', '┃', '┃'⟩) ++
      [Rule.across ⟨'┡', '╇', '┩'⟩ '━' widths] ++ body.map (Rule.join ⟨'│', '│', '│'⟩) ++
      [Rule.across ⟨'└', '┴', '┘'⟩ '─' widths]
  else (header ++ body).map List.flatten

theorem length_takeShares (widest most excess count : Nat) (widths : List Nat) :
    (takeShares widest most excess count widths).length = widths.length := by
  induction widths generalizing excess count with
  | nil => rfl
  | cons width rest ih => by_cases h : (width == widest) = true <;> simp [takeShares, h, ih]

/-- Narrowing keeps every column. -/
theorem length_narrow (limit fuel : Nat) (widths : List Nat) :
    (narrow limit fuel widths).length = widths.length := by
  induction fuel generalizing widths with
  | zero => rfl
  | succ fuel ih =>
    by_cases h : total widths ≤ limit
    · simp [narrow, h]
    · simp [narrow, h, ih, narrowWidest, length_takeShares]

end Table

end PlugGraph.Display
