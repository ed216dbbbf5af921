namespace TranscriptSearch

/-- The items from `start` up to, but not including, `stop`. -/
structure VisibleWindow where
  start : Nat
  stop : Nat
deriving DecidableEq

namespace VisibleWindow

def empty : VisibleWindow :=
  ⟨0, 0⟩

def contains (window : VisibleWindow) (index : Nat) : Bool :=
  window.start ≤ index && index < window.stop

def isEmpty (window : VisibleWindow) : Bool :=
  window.stop ≤ window.start

def size (window : VisibleWindow) : Nat :=
  window.stop - window.start

end VisibleWindow

/-- Where an item is to stand on the screen. -/
inductive ScrollAlign where
  | start
  | center
  | stop
deriving DecidableEq

/-- The two layers of highlights: every occurrence in view, and the one that was last gone to. -/
inductive HighlightKind where
  | all
  | current
deriving DecidableEq

/-- A byte range of one row of an item as it is shown. -/
structure RenderedSpan where
  itemId : String
  itemIndex : Nat
  line : Nat
  start : Nat
  stop : Nat
deriving DecidableEq

end TranscriptSearch
