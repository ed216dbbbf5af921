import TranscriptSearch.Screen.Canvas
import TranscriptSearch.Screen.View
import TranscriptSearch.Viewer.FindBar

namespace TranscriptSearch

/-- The lines that a screen has for the transcript.  The last line is the bar. -/
def viewportHeight (screenHeight : Nat) : Nat :=
  screenHeight - 1

def ScreenRow.marks (row : ScreenRow) (all current : List RenderedSpan) : List Mark :=
  let on (kind : HighlightKind) (spans : List RenderedSpan) : List Mark :=
    (spans.filter fun span => span.itemIndex == row.itemIndex && some span.line == row.line).map
      fun span => ⟨span.start, span.stop, kind⟩
  on .all all ++ on .current current

def ScreenRow.painted (row : ScreenRow) (all current : List RenderedSpan) : List PaintedSpan :=
  match row.line.bind (row.item.lines[·]?) with
  | some line => line.painted (row.marks all current)
  | none => []

/-- The place in the transcript: the items on the screen, and how many there are. -/
def TranscriptView.position (v : TranscriptView) (t : Transcript) : String :=
  let total := toString t.size
  if v.window.isEmpty then "0/" ++ total
  else toString (v.window.start + 1) ++ "-" ++ toString v.window.stop ++ "/" ++ total

/-- What stands at the left of the bar: the term, the counter, and a notice if there is one. -/
def barText (bar : FindBar) (status : FindStatus) (notice : Option String) : List PaintedSpan :=
  let term : List PaintedSpan :=
    if bar.isOpen then
      [⟨"/", { foreground := .yellow }⟩, ⟨bar.query, {}⟩, ⟨"▏", { foreground := .yellow }⟩]
    else
      match status.term with
      | some term => [⟨"/" ++ term, { foreground := .darkGray }⟩]
      | none => [⟨"/ find  q quit", { foreground := .darkGray }⟩]
  let counter : List PaintedSpan :=
    if status.counter = "" then [] else [⟨"  ", {}⟩, ⟨status.counter, { bold := true }⟩]
  let notice : List PaintedSpan := match notice with
    | some notice => [⟨"  ", {}⟩, ⟨notice, { foreground := .red }⟩]
    | none => []
  term ++ counter ++ notice

/-- The bar.  The place has as many columns as its text has bytes, and one more, but the left part
keeps at least one column. -/
def barCells (width : Nat) (left : List PaintedSpan) (place : String) : List ScreenCell :=
  let right := min (min (bytesOf place + 1) 65535) (width - 1)
  leftAligned (width - right) left ++ rightAligned right [⟨place, { foreground := .darkGray }⟩]

/-- The cells of a frame, row by row.  A screen of one line has no bar. -/
def TranscriptView.frame (v : TranscriptView) (t : Transcript) (width height : Nat)
    (bar : FindBar)
    (status : FindStatus) (notice : Option String) : List (List ScreenCell) × TranscriptView :=
  let (rows, v) := v.screenRows t
  let body := max (height - 1) (min height 1)
  let lines := rows.map fun row =>
    leftAligned width (row.painted (v.highlights .all) (v.highlights .current))
  let drawn := (lines ++ List.replicate (body - lines.length) (blanks width)).take body
  let place := v.position t ++ if v.isFollowing then "  follow" else ""
  let bars := List.replicate (height - body) (barCells width (barText bar status notice) place)
  (drawn ++ bars, v)

end TranscriptSearch
