import TranscriptSearch.Event.Encode
import TranscriptSearch.Event.Text
import TranscriptSearch.Timestamp

namespace TranscriptSearch

open Json (Value)
open Record

/-- An event as it is read from a transcript. -/
structure SourceEvent where
  uuid : Option String
  timestamp : Option Timestamp
  event : Event

/-- An item of the transcript's list. -/
structure Item where
  id : String
  /-- The number of spans around the item. -/
  depth : Nat
  timestamp : Option Timestamp
  event : Event

/-- A source event.  One that cannot be read is kept as an unknown event, so that it does not hide
the others. -/
def SourceEvent.ofValue (value : Value) : SourceEvent where
  uuid := match (value.member? "uuid").bind Value.string? with
    | some "" => none
    | uuid => uuid
  timestamp := ((value.member? "timestamp").bind Value.string?).bind Timestamp.parse?
  event := (Event.decode? value).getD .unknown

def Item.texts (item : Item) : List String :=
  item.event.texts

def depth? (value : Value) : Option Nat :=
  value.nat?.bind fun n => if n < UInt32.size then some n else none

def Item.encode (item : Item) : Value :=
  .object ([("id", .string item.id), ("depth", .number (.int item.depth))] ++
    optionalMember "timestamp" (fun time => .string time.text) item.timestamp ++
    [("payload", item.event.encode)])

def Item.decode? (value : Value) : Option Item := do
  match ← fields? ["id", "depth", "timestamp", "payload"] value with
  | [id, depth, timestamp, payload] =>
    return ⟨← required? Value.string? id, ← required? depth? depth,
      ← optional? (fun v => v.string?.bind Timestamp.parseLoose?) timestamp,
      ← required? Event.decode? payload⟩
  | _ => none

end TranscriptSearch
