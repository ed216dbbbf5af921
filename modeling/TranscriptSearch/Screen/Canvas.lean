import TranscriptSearch.Screen.Paint
import TranscriptSearch.Text.Cluster
import TranscriptSearch.Text.Columns

namespace TranscriptSearch

/-- One cell of the screen. -/
structure ScreenCell where
  text : List Char
  paint : Paint
deriving DecidableEq

/-- Whether a character is one of the two voicing marks of half width, which the screen gives a
column more than a row of text does. -/
def isVoicingMark (c : Char) : Bool :=
  c = '\uFF9E' || c = '\uFF9F'

def ScreenCell.columns (cell : ScreenCell) : Nat :=
  Text.columns cell.text + cell.text.countP isVoicingMark

def ScreenCell.blank : ScreenCell :=
  ⟨[' '], {}⟩

/-- The characters of a span with the marks on them, without those that hold a control
character. -/
def PaintedSpan.glyphs (span : PaintedSpan) : List ScreenCell :=
  ((Text.clusters span.text.toList).filter fun cluster => !cluster.any Text.isControl).map
    fun cluster => ⟨cluster, span.paint⟩

/-- The cells of characters in a row of `width` columns of which `used` are taken.  What has no
width is left out, and so is what no row of this width could hold; the row ends at the first
character for which there is no room. -/
def placeGlyphs (width used : Nat) : List ScreenCell → List ScreenCell
  | [] => []
  | glyph :: rest =>
    let columns := glyph.columns
    if width < columns ∨ columns = 0 then placeGlyphs width used rest
    else if width < used + columns then []
    else
      glyph :: (List.replicate (columns - 1) .blank ++ placeGlyphs width (used + columns) rest)

def blanks (count : Nat) : List ScreenCell :=
  List.replicate count .blank

def leftAligned (width : Nat) (spans : List PaintedSpan) : List ScreenCell :=
  let cells := placeGlyphs width 0 (spans.flatMap PaintedSpan.glyphs)
  cells ++ blanks (width - cells.length)

def rightAligned (width : Nat) (spans : List PaintedSpan) : List ScreenCell :=
  let cells := placeGlyphs width 0 (spans.flatMap PaintedSpan.glyphs)
  blanks (width - cells.length) ++ cells

def runsOfCells : List ScreenCell → List PaintedSpan
  | [] => []
  | cell :: rest =>
    match runsOfCells rest with
    | [] => [⟨.ofList cell.text, cell.paint⟩]
    | run :: more =>
      if run.paint = cell.paint then ⟨.ofList (cell.text ++ run.text.toList), run.paint⟩ :: more
      else ⟨.ofList cell.text, cell.paint⟩ :: run :: more

/-- The runs of a row; a row in which nothing is drawn has none. -/
def runsOfRow (cells : List ScreenCell) : List PaintedSpan :=
  if cells.all (· == .blank) then [] else runsOfCells cells

end TranscriptSearch
