import TranscriptSearch.Json.Parser
import TranscriptSearch.Text.Blank
import TranscriptSearch.Transcript.Item

namespace TranscriptSearch

open Json (Value)

/-- Why a text is no transcript. -/
inductive SourceError where
  /-- A JSON document in which no list of events was found. -/
  | noEvents
  /-- Lines of which none is JSON. -/
  | noReadableLine (malformed : Nat)
deriving DecidableEq

def SourceError.message : SourceError → String
  | .noEvents => "JSON document has no events array"
  | .noReadableLine malformed =>
    "no decodable events (" ++ toString malformed ++ " malformed lines)"

namespace SourceEvent

def eventList? (document : Value) : Option (List Value) :=
  match document with
  | .array events => some events
  | document =>
    let ofSample := do
      let sample ← (← (← document.member? "samples").items?).head?
      (← sample.member? "events").items?
    match (document.member? "events").bind Value.items? with
    | some events => some events
    | none => ofSample

/-- The events of a whole document.  An event alone is a document too. -/
def ofDocument (document : Value) : Except SourceError (List SourceEvent) :=
  match eventList? document with
  | some events => .ok (events.map ofValue)
  | none =>
    match document.member? "event" with
    | some _ => .ok [ofValue document]
    | none => .error .noEvents

def filledLines (cs : List Char) : List (List Char) :=
  ((Text.lines cs).map Text.trim).filter (! ·.isEmpty)

/-- The events of a text with one event per line.  Lines that are not JSON are passed over, as
long as any line is. -/
def ofLines (cs : List Char) : Except SourceError (List SourceEvent) :=
  let read := (filledLines cs).map fun line => Json.parse? (.ofList line)
  let events := read.filterMap id
  let malformed := (read.filter Option.isNone).length
  if events.isEmpty && 0 < malformed then .error (.noReadableLine malformed)
  else .ok (events.map ofValue)

def ofText (text : String) : Except SourceError (List SourceEvent) :=
  let cs := Text.trim text.toList
  if cs.isEmpty then .ok []
  else
    match Json.parse? (.ofList cs) with
    | some document => ofDocument document
    | none => ofLines cs

end SourceEvent

end TranscriptSearch
