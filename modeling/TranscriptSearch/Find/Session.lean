import TranscriptSearch.Find.Debounce
import TranscriptSearch.Find.Outcome

namespace TranscriptSearch

/-- What a session is doing. -/
inductive SearchState where
  /-- There is no term. -/
  | idle
  /-- A term has been typed that is not searched for yet. -/
  | counting
  /-- The term does not occur. -/
  | noMatches
  /-- The term occurs, and no occurrence is selected. -/
  | ready
  /-- An occurrence is being gone to. -/
  | navigating
  /-- The selected occurrence is highlighted. -/
  | highlighted
deriving DecidableEq

/-- The two ways of stepping through occurrences. -/
inductive Direction where
  | forward
  | backward
deriving DecidableEq

/-- A request to go to an occurrence. -/
structure NavigationRequest where
  term : String
  /-- The number of the occurrence, which counts from one. -/
  index : Nat
  seq : Nat
deriving DecidableEq

/-- The occurrence one step from the cursor, going round at the ends.  From a cursor behind the
last occurrence, backward goes to the last one, and forward to the one after its remainder by the
total. -/
def step (current : Option Nat) (total : Nat) (direction : Direction) : Option Nat :=
  if total = 0 then none
  else
    match direction, current with
    | .forward, none => some 1
    | .forward, some c => some (c % total + 1)
    | .backward, none => some total
    | .backward, some c => some (if c ≤ 1 ∨ total < c then total else c - 1)

/-- A search session.  A program counts its requests in 64 bits, which no session uses up; here
the numbers have no bound. -/
structure FindSession where
  debouncer : Debouncer
  state : SearchState
  /-- The term that is searched for. -/
  term : Option String
  /-- The number of its occurrences. -/
  total : Nat
  /-- The cursor, which counts from one. -/
  current : Option Nat
  /-- The number of the latest request; what makes requests obsolete has a number too. -/
  seq : Nat
deriving DecidableEq

namespace FindSession

def new (delay : Nat) : FindSession :=
  ⟨.new delay, .idle, none, 0, none, 0⟩

/-- A text is typed.  If it is not the term that is searched for, requests under way become
obsolete. -/
def input (s : FindSession) (text : String) (now : Nat) : FindSession :=
  let s := { s with debouncer := s.debouncer.input text now }
  if s.term = some text then s else { s with seq := s.seq + 1, state := .counting }

def poll (s : FindSession) (now : Nat) : Option String × FindSession :=
  let (text, debouncer) := s.debouncer.poll now
  (text, { s with debouncer })

def deadline (s : FindSession) : Option Nat :=
  s.debouncer.deadline

/-- A term is searched for that has `total` occurrences.  The cursor is taken away. -/
def commit (s : FindSession) (term : String) (total : Nat) : FindSession :=
  { debouncer := s.debouncer.cancel
    state := if term = "" then .idle else if total = 0 then .noMatches else .ready
    term := if term = "" then none else some term
    total
    current := none
    seq := s.seq + 1 }

/-- Moves the cursor a step on and asks for its occurrence.  The cursor stays moved even if the
occurrence is not found, so that the next step passes it. -/
def begin? (s : FindSession) (direction : Direction) :
    Option (NavigationRequest × FindSession) := do
  let term ← s.term
  let index ← step s.current s.total direction
  let seq := s.seq + 1
  return (⟨term, index, seq⟩, { s with current := some index, seq, state := .navigating })

/-- A request ends.  The answer says whether the session took notice of it. -/
def finish (s : FindSession) (seq : Nat) (outcome : NavOutcome) : Bool × FindSession :=
  if seq ≠ s.seq then (false, s)
  else
    match outcome with
    | .found _ => (true, { s with state := .highlighted })
    | .notFound _ => (true, { s with state := .ready })
    | .superseded => (false, s)

/-- The number of occurrences of the term changes.  The cursor stays if it is still among them,
and requests under way stay in force. -/
def updateTotal (s : FindSession) (total : Nat) : FindSession :=
  if s.term = none then s
  else
    let current := if s.current.any (total < ·) then none else s.current
    let state := match s.state with
      | .noMatches => if 0 < total then .ready else .noMatches
      | .ready => if total = 0 then .noMatches else .ready
      | .highlighted => if total = 0 then .noMatches else .highlighted
      | state => state
    { s with total, current, state }

/-- Everything is dropped, the typed text and the requests under way included. -/
def clear (s : FindSession) : FindSession :=
  ⟨s.debouncer.cancel, .idle, none, 0, none, s.seq + 1⟩

end FindSession

end TranscriptSearch
