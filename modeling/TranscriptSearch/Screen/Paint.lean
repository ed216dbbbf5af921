import TranscriptSearch.Screen.Style
import TranscriptSearch.Surface.Basic

namespace TranscriptSearch

/-- The colours of the terminal that are used. -/
inductive Colour where
  | reset
  | black
  | red
  | green
  | yellow
  | magenta
  | cyan
  | darkGray
  | lightRed
  | white
deriving DecidableEq

/-- How a character is drawn. -/
structure Paint where
  foreground : Colour := .reset
  background : Colour := .reset
  bold : Bool := false
  dim : Bool := false
  italic : Bool := false
deriving DecidableEq

def Style.paint : Style → Paint
  | .plain => {}
  | .guide => { foreground := .darkGray }
  | .title => { foreground := .white, bold := true }
  | .spanTitle => { foreground := .magenta, bold := true, italic := true }
  | .user => { foreground := .green, italic := true }
  | .assistant => { foreground := .white }
  | .system => { foreground := .darkGray }
  | .toolTitle => { foreground := .yellow, bold := true }
  | .toolArgs => { foreground := .cyan }
  | .toolOutput => { foreground := .darkGray }
  | .truncation => { foreground := .yellow, dim := true }
  | .label => { foreground := .darkGray }
  | .error => { foreground := .red }
  | .muted => { foreground := .darkGray, dim := true, italic := true }

/-- The colours of a highlighted occurrence.  The other attributes of the text remain. -/
def HighlightKind.repaint (kind : HighlightKind) (paint : Paint) : Paint :=
  match kind with
  | .all => { paint with foreground := .black, background := .yellow }
  | .current => { paint with foreground := .black, background := .lightRed, bold := true }

/-- Text with its colours. -/
structure PaintedSpan where
  text : String
  paint : Paint
deriving DecidableEq

/-- A byte range of a row that is highlighted. -/
structure Mark where
  start : Nat
  stop : Nat
  kind : HighlightKind
deriving DecidableEq

def Mark.covers (mark : Mark) (byte : Nat) : Bool :=
  mark.start ≤ byte && byte < mark.stop

/-- The highlight of a byte.  That of the current occurrence goes before the others. -/
def markAt (marks : List Mark) (byte : Nat) : Option HighlightKind :=
  let covering := marks.filter (·.covers byte)
  if covering.any (·.kind == .current) then some .current
  else if covering.isEmpty then none
  else some .all

def markBounds (marks : List Mark) : List Nat :=
  marks.flatMap fun mark => [mark.start, mark.stop]

/-- The pieces of a text that begins at the byte `offset`, cut at bounds.  Each piece comes with
the byte at which it begins.  A bound inside a character cuts nothing. -/
def pieces (bounds : List Nat) (offset : Nat) : List Char → List (Nat × List Char)
  | [] => []
  | c :: rest =>
    match pieces bounds (offset + c.utf8Size) rest with
    | [] => [(offset, [c])]
    | (next, piece) :: more =>
      if next ∈ bounds then (offset, [c]) :: (next, piece) :: more
      else (offset, c :: piece) :: more

/-- A span that begins at the byte `offset` of its row, cut and coloured.  Where the row has no
marks it stays whole, also when it is empty. -/
def StyledSpan.painted (marks : List Mark) (offset : Nat) (span : StyledSpan) :
    List PaintedSpan :=
  if marks.isEmpty then [⟨span.text, span.style.paint⟩]
  else
    (pieces (markBounds marks) offset span.text.toList).map fun (start, piece) =>
      { text := .ofList piece
        paint := match markAt marks start with
          | some kind => kind.repaint span.style.paint
          | none => span.style.paint }

/-- The spans of a row, cut and coloured, from the byte `offset` on. -/
def paintSpans (marks : List Mark) (offset : Nat) : List StyledSpan → List PaintedSpan
  | [] => []
  | span :: rest =>
    span.painted marks offset ++ paintSpans marks (offset + bytesOf span.text) rest

def StyledLine.painted (line : StyledLine) (marks : List Mark) : List PaintedSpan :=
  paintSpans marks 0 line.spans

end TranscriptSearch
