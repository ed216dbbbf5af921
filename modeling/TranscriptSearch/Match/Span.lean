import TranscriptSearch.Text.Bytes

namespace TranscriptSearch

/-- The bytes from `start` up to, but not including, `stop`. -/
structure Span where
  start : Nat
  stop : Nat
deriving DecidableEq

namespace Span

def size (span : Span) : Nat :=
  span.stop - span.start

def isEmpty (span : Span) : Bool :=
  span.start == span.stop

def textOf (span : Span) (text : String) : String :=
  .ofList (Text.sliceBytes text.toList span.start span.stop)

def shift (span : Span) (offset : Nat) : Span :=
  ⟨offset + span.start, offset + span.stop⟩

end Span

end TranscriptSearch
