import TranscriptSearch.Screen.Canvas

/-!
A terminal in memory.  A frame is drawn by changing only the cells in which it differs from the
frame before.  The cells that a wide character covers behind its own are not drawn, so that they
keep what was there before, unless the character asks to be shown as an emoji.
-/
namespace TranscriptSearch

/-- A terminal: what it shows, and what was drawn on it last.  The cells of all rows stand in one
line. -/
structure Terminal where
  width : Nat
  height : Nat
  cells : List ScreenCell
  /-- The size for which the last frame was drawn. -/
  drawnSize : Nat × Nat
  drawn : List ScreenCell

/-- Whether a character is a wide one that asks to be shown as an emoji. -/
def ScreenCell.isWideEmoji (cell : ScreenCell) : Bool :=
  1 < cell.columns && cell.text.contains '\uFE0F'

/-- The cells of a terminal after a frame is drawn, given the cells before, the last frame and the
new one.  A cell is drawn if it is not the same as in the last frame.  A cell that is `covered` by
the wide character before it is drawn only if that character `clears` it and the last frame had
another text there. -/
def redrawnCells (covered : Nat) (clears : Bool) :
    List ScreenCell → List ScreenCell → List ScreenCell → List ScreenCell
  | cell :: cells, old :: last, new :: frame =>
    if covered = 0 then
      let drawn := new != old
      (if drawn then new else cell) ::
        redrawnCells (new.columns - 1) (drawn && new.isWideEmoji) cells last frame
    else
      (if clears && new.text != old.text then new else cell) ::
        redrawnCells (covered - 1) clears cells last frame
  | cells, _, _ => cells

/-- A list of cells cut or filled up with blank cells to a length. -/
def fitCells (count : Nat) (cells : List ScreenCell) : List ScreenCell :=
  cells.take count ++ blanks (count - cells.length)

namespace Terminal

def new (width height : Nat) : Terminal :=
  ⟨width, height, blanks (width * height), (width, height), blanks (width * height)⟩

/-- Another size.  Cells stay where they are in the line of cells. -/
def resize (s : Terminal) (width height : Nat) : Terminal :=
  { s with width, height, cells := fitCells (width * height) s.cells }

/-- Draws a frame.  If the size is not that of the last frame, the terminal is cleared first. -/
def draw (s : Terminal) (rows : List (List ScreenCell)) : Terminal :=
  let s := if s.drawnSize = (s.width, s.height) then s else new s.width s.height
  let frame := rows.flatten
  { s with cells := redrawnCells 0 false s.cells s.drawn frame, drawn := frame }

def rowsOf (width : Nat) (cells : List ScreenCell) : Nat → List (List ScreenCell)
  | 0 => []
  | count + 1 => cells.take width :: rowsOf width (cells.drop width) count

def rows (s : Terminal) : List (List ScreenCell) :=
  rowsOf s.width s.cells s.height

end Terminal

end TranscriptSearch
