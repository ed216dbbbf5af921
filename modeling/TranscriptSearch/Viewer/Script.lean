import TranscriptSearch.Screen.Terminal
import TranscriptSearch.Viewer.Viewer

namespace TranscriptSearch

/-- An entry of a script. -/
inductive ScriptEntry where
  | event (event : TerminalEvent)
  /-- The file is replaced. -/
  | write (text : String)
deriving DecidableEq

/-- A viewer with the file it reads and the terminal it draws on. -/
structure Stage where
  viewer : Viewer
  file : String
  terminal : Terminal

namespace Stage

/-- A viewer that begins on a terminal of some size, with a term to search for or without. -/
def start (viewer : Viewer) (file : String) (width height : Nat) (term : Option String) : Stage :=
  ⟨viewer.start width height term, file, .new width height⟩

def draw (s : Stage) : Stage :=
  { s with terminal := s.terminal.draw (s.viewer.frame s.terminal.width s.terminal.height) }

def shown (s : Stage) : List (List PaintedSpan) :=
  s.terminal.rows.map runsOfRow

/-- One entry of a batch.  What follows the event at which the viewer quits is not read. -/
def play (s : Stage) (entry : ScriptEntry) : Stage :=
  if s.viewer.quits then s
  else
    match entry with
    | .write text => { s with file := text }
    | .event event =>
      let s := match event with
        | .resize width height => { s with terminal := s.terminal.resize width height }
        | _ => s
      { s with viewer := (s.viewer.handle event).rest }

def idle (s : Stage) : Stage :=
  let s := s.draw
  { s with viewer := s.viewer.rest.endRound s.file }

/-- Three rounds without events, after which every commit, report, reload and repaint has
happened, and what is drawn then. -/
def calm (s : Stage) : Stage :=
  s.idle.idle.idle.draw

def playBatch (s : Stage) (batch : List ScriptEntry) : Stage :=
  let s := batch.foldl play s
  { s with viewer := s.viewer.endRound s.file }

/-- What the terminal shows after each of some batches, and the number of batches that the viewer
did not live to see. -/
def playBatches (s : Stage) : List (List ScriptEntry) → List (List (List PaintedSpan)) × Nat
  | [] => ([], 0)
  | batch :: rest =>
    let s := s.playBatch batch
    if s.viewer.quits then ([], rest.length)
    else
      let s := s.calm
      let (frames, unplayed) := s.playBatches rest
      (s.shown :: frames, unplayed)

/-- What the terminal shows before the first batch and after each one, and the number of batches
not played. -/
def run (s : Stage) (batches : List (List ScriptEntry)) : List (List (List PaintedSpan)) × Nat :=
  let s := s.calm
  let (frames, unplayed) := s.playBatches batches
  (s.shown :: frames, unplayed)

end Stage

end TranscriptSearch
