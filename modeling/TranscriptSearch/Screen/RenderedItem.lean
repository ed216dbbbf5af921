import TranscriptSearch.Match.Term
import TranscriptSearch.Number.Sum
import TranscriptSearch.Screen.Style

namespace TranscriptSearch

/-- The rows of an item. -/
structure RenderedItem where
  lines : List StyledLine
deriving DecidableEq

/-- Searchable text within one row, from a byte offset on. -/
structure SearchRun where
  line : Nat
  start : Nat
  text : String
deriving DecidableEq

/-- An occurrence as a byte range of one row. -/
structure RowMatch where
  line : Nat
  start : Nat
  stop : Nat
deriving DecidableEq

/-- The runs of a row from the byte `offset` on, where a run that may go on is at hand. -/
def runsFrom (line offset : Nat) (current : Option SearchRun) : List StyledSpan → List SearchRun
  | [] => current.toList
  | span :: rest =>
    let next := offset + bytesOf span.text
    if !span.style.isSearchable || span.text = "" then runsFrom line next current rest
    else
      match current with
      | none => runsFrom line next (some ⟨line, offset, span.text⟩) rest
      | some run =>
        if run.start + bytesOf run.text = offset then
          runsFrom line next (some { run with text := run.text ++ span.text }) rest
        else run :: runsFrom line next (some ⟨line, offset, span.text⟩) rest

namespace RenderedItem

def height (item : RenderedItem) : Nat :=
  item.lines.length

def texts (item : RenderedItem) : List String :=
  item.lines.map StyledLine.text

/-- The runs of rows of which the first has the given number. -/
def runsOf (first : Nat) : List StyledLine → List SearchRun
  | [] => []
  | line :: rest => runsFrom first 0 none line.spans ++ runsOf (first + 1) rest

def runs (item : RenderedItem) : List SearchRun :=
  runsOf 0 item.lines

def occurrences (item : RenderedItem) (term : SearchTerm) : List RowMatch :=
  item.runs.flatMap fun run =>
    (term.spans run.text).map fun span =>
      ⟨run.line, run.start + span.start, run.start + span.stop⟩

def count (item : RenderedItem) (term : SearchTerm) : Nat :=
  sumOf (item.runs.map fun run => term.count run.text)

def locate? (item : RenderedItem) (term : SearchTerm) (n : Nat) : Option RowMatch :=
  if n = 0 then none else (item.occurrences term)[n - 1]?

end RenderedItem

end TranscriptSearch
