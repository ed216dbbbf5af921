import TranscriptSearch.Transcript.Item

/-!
A transcript: the list of items made from a stream of events.  The list grows at its end only,
until a reset empties it and begins a new epoch.  Epochs, positions and depths are numbers without
a bound; a program keeps a depth in 32 bits, which only a stream with 2^32 open spans would fill.
-/
namespace TranscriptSearch

/-- The items of a transcript, with what is needed to go on with the stream of events. -/
structure Transcript where
  items : List Item
  /-- The identifiers of the spans that are open, innermost first. -/
  openSpans : List String
  /-- The number of events taken from the stream since the last reset. -/
  position : Nat
  epoch : Nat

namespace Transcript

def empty : Transcript :=
  ⟨[], [], 0, 0⟩

/-- The spans that are still open when the innermost span of an identifier is closed, together
with all spans inside it.  An identifier without an open span closes nothing. -/
def closeSpan (id : String) (openSpans : List String) : List String :=
  if id ∈ openSpans then (openSpans.dropWhile (· ≠ id)).drop 1 else openSpans

/-- The identifier of an item: its own, or else one made from its place in the stream. -/
def itemId (source : SourceEvent) (position : Nat) : String :=
  source.uuid.getD ("event-" ++ toString position)

/-- A transcript with one more event.  The end of a span makes no item; the beginning of one is an
item outside the span it opens. -/
def push (t : Transcript) (source : SourceEvent) : Transcript :=
  match source.event with
  | .spanEnd id => { t with openSpans := closeSpan id t.openSpans, position := t.position + 1 }
  | event =>
    let item : Item :=
      ⟨itemId source t.position, t.openSpans.length, source.timestamp, event⟩
    let openSpans := match event with
      | .spanBegin id .. => id :: t.openSpans
      | _ => t.openSpans
    { t with items := t.items ++ [item], openSpans, position := t.position + 1 }

def append (t : Transcript) (sources : List SourceEvent) : Transcript :=
  sources.foldl push t

def ofEvents (sources : List SourceEvent) : Transcript :=
  empty.append sources

def ofItems (items : List Item) : Transcript :=
  { empty with items }

def reset (t : Transcript) : Transcript :=
  { empty with epoch := t.epoch + 1 }

def size (t : Transcript) : Nat :=
  t.items.length

def item? (t : Transcript) (index : Nat) : Option Item :=
  t.items[index]?

def indexOf? (t : Transcript) (id : String) : Option Nat :=
  t.items.findIdx? (·.id == id)

end Transcript

end TranscriptSearch
