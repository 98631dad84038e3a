import PlugGraph.Display.Table

/-!
# Panels

A panel is a frame around lines. It takes the whole width that there is; its title stands in the
middle of the line above, its subtitle in the middle of the line below.
-/

namespace PlugGraph.Display

open PlugGraph.Text (Symbol)

structure Panel where
  table : Table
  title : List Symbol
  subtitle : Option (List Symbol) := none

namespace Panel

/-- The cells that the frame takes on both sides. -/
def frame : Nat := 2

/-- A text with a blank on either side, in the middle of a horizontal line. -/
def centered (width : Nat) (text : List Symbol) : Line :=
  let text := Line.truncate .fold width (.blanks 1 ++ text ++ .blanks 1)
  let space := width - Text.width text
  .replicate (space / 2) (.char '─') ++ text ++ .replicate (space - space / 2) (.char '─')

/-- A horizontal line of the frame with a text, between two corners. A narrow frame has no text. -/
def edge (width : Nat) (left right : Char) (text : Option (List Symbol)) : Line :=
  let inner :=
    match text with
    | some text =>
      if width ≤ 2 * frame then .replicate (width - frame) (.char '─')
      else .char '─' :: centered (width - 2 * frame) text ++ [.char '─']
    | none => .replicate (width - frame) (.char '─')
  .char left :: inner ++ [.char right]

def lines (width : Nat) (panel : Panel) : List Line :=
  let inner := width - frame - Column.padding
  let content := panel.table.lines inner
  let side : Line := [.char '│']
  edge width '╭' '╮' (some panel.title) ::
    content.map (fun line =>
      side ++ .blanks 1 ++ (line.cut inner).padEnd inner ++ .blanks 1 ++ side) ++
    [edge width '╰' '╯' panel.subtitle]

end Panel

end PlugGraph.Display
