import TranscriptSearch.Find.Session
import TranscriptSearch.Text.Cluster
import TranscriptSearch.Viewer.Key

namespace TranscriptSearch

/-- What a key in the find bar asks for. -/
inductive FindAction where
  | none
  /-- The term is now this one. -/
  | changed (query : String)
  | next
  | previous
  /-- To leave the bar and keep the term. -/
  | close
  /-- To leave the bar and drop the search. -/
  | cancel
deriving DecidableEq

/-- The find bar. -/
structure FindBar where
  isOpen : Bool
  query : String
deriving DecidableEq

namespace FindBar

def new : FindBar :=
  ⟨false, ""⟩

def edit (bar : FindBar) (query : String) : FindAction × FindBar :=
  (.changed query, { bar with query })

/-- What a key does in the bar.  With control held only three letters do anything. -/
def press (bar : FindBar) (key : Key) : FindAction × FindBar :=
  match key.code with
  | .escape => (.cancel, new)
  | .enter => (if key.shift then .previous else .next, bar)
  | .down => (.next, bar)
  | .up => (.previous, bar)
  | .tab => (.close, { bar with isOpen := false })
  | .char c =>
    if key.control then
      if c = 'u' then bar.edit ""
      else if c = 'n' then (.next, bar)
      else if c = 'p' then (.previous, bar)
      else (.none, bar)
    else bar.edit (bar.query.push c)
  | .backspace =>
    match Text.dropLastCluster? bar.query.toList with
    | some rest => bar.edit (.ofList rest)
    | none => (.none, bar)
  | _ => (.none, bar)

end FindBar

/-- What is shown of a session. -/
structure FindStatus where
  state : SearchState
  term : Option String
  /-- The cursor among the occurrences of the active panel, which counts from one. -/
  current : Option Nat
  /-- The number of occurrences in the active panel. -/
  total : Nat
deriving DecidableEq

def FindSession.status (s : FindSession) : FindStatus :=
  ⟨s.state, s.term, s.current, s.total⟩

/-- The counter: how many occurrences there are, or which of them the cursor is at. -/
def FindStatus.counter (status : FindStatus) : String :=
  let total := toString status.total
  match status.state with
  | .idle => ""
  | .counting => "…"
  | .noMatches => "no matches"
  | .ready => if status.total = 1 then "1 match" else total ++ " matches"
  | .navigating | .highlighted =>
    match status.current with
    | some current => toString current ++ "/" ++ total
    | none => total ++ " matches"

end TranscriptSearch
