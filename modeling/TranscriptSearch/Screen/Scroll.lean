import TranscriptSearch.Number.Sum

/-!
The place of the viewport in a document made of items.  An item has some rows and a blank line
below them; the lines of all items are numbered through from zero.  The viewport either follows
the end of the document or has its top at a fixed line.
-/
namespace TranscriptSearch

/-- Where the viewport is. -/
inductive ScrollMode where
  /-- At the end of the document, also when it grows. -/
  | follow
  /-- With its top at a line. -/
  | anchored (offset : Nat)
deriving DecidableEq

/-- The place of the viewport, and the number of rows of each item. -/
structure ScrollState where
  mode : ScrollMode
  heights : List Nat
deriving DecidableEq

/-- The items that a viewport overlaps: those from `first` up to, but not including, `stop`. -/
structure VisibleRange where
  first : Nat
  stop : Nat
  /-- The lines of the first item above the viewport. -/
  skip : Nat
  /-- The top line of the viewport. -/
  offset : Nat
deriving DecidableEq

def VisibleRange.indices (range : VisibleRange) : List Nat :=
  List.range' range.first (range.stop - range.first)

namespace ScrollState

def linesOf (heights : List Nat) : Nat :=
  sumOf (heights.map (· + 1))

/-- The item that a line belongs to, and the number of the line within the item. -/
def itemAtLine? : List Nat → Nat → Option (Nat × Nat)
  | [], _ => none
  | height :: rest, line =>
    if line ≤ height then some (0, line)
    else (itemAtLine? rest (line - (height + 1))).map fun (index, skip) => (index + 1, skip)

def itemsAbove : List Nat → Nat → Nat
  | [], _ => 0
  | height :: rest, line => if line = 0 then 0 else itemsAbove rest (line - (height + 1)) + 1

def empty : ScrollState :=
  ⟨.follow, []⟩

def isFollowing (s : ScrollState) : Bool :=
  s.mode == .follow

def totalLines (s : ScrollState) : Nat :=
  linesOf s.heights

def maxOffset (s : ScrollState) (viewport : Nat) : Nat :=
  s.totalLines - viewport

def offset (s : ScrollState) (viewport : Nat) : Nat :=
  match s.mode with
  | .follow => s.maxOffset viewport
  | .anchored offset => min offset (s.maxOffset viewport)

def isAtBottom (s : ScrollState) (viewport : Nat) : Bool :=
  s.maxOffset viewport ≤ s.offset viewport

def itemStart? (s : ScrollState) (index : Nat) : Option Nat :=
  if index < s.heights.length then some (linesOf (s.heights.take index)) else none

def itemHeight? (s : ScrollState) (index : Nat) : Option Nat :=
  s.heights[index]?

def setHeights (s : ScrollState) (heights : List Nat) : ScrollState :=
  { s with heights }

def pushHeights (s : ScrollState) (heights : List Nat) : ScrollState :=
  { s with heights := s.heights ++ heights }

/-- Another number of rows for one item, and whether that is a change. -/
def setHeight (s : ScrollState) (index height : Nat) : Bool × ScrollState :=
  match s.heights[index]? with
  | some old =>
    if height = old then (false, s) else (true, { s with heights := s.heights.set index height })
  | none => (false, s)

def visibleRange? (s : ScrollState) (viewport : Nat) : Option VisibleRange :=
  if viewport = 0 then none
  else
    let offset := s.offset viewport
    (itemAtLine? s.heights offset).map fun (first, skip) =>
      ⟨first, itemsAbove s.heights (offset + viewport), skip, offset⟩

/-- The viewport is put at a line, or as far down as it can be. -/
def anchor (s : ScrollState) (offset viewport : Nat) : ScrollState :=
  { s with mode := .anchored (min offset (s.maxOffset viewport)) }

/-- The viewport stays where it is and does not follow any more. -/
def stopFollowing (s : ScrollState) (viewport : Nat) : ScrollState :=
  if s.isFollowing then { s with mode := .anchored (s.offset viewport) } else s

def follow (s : ScrollState) : ScrollState :=
  { s with mode := .follow }

def scrollUp (s : ScrollState) (lines viewport : Nat) : ScrollState :=
  { s with mode := .anchored (s.offset viewport - lines) }

/-- The viewport moves down by a number of lines.  One that reaches the end begins to follow it.
The line it comes to is a word of 64 bits; if it is too large for one, the move fails. -/
def scrollDown? (s : ScrollState) (lines viewport : Nat) : Option ScrollState :=
  if s.isFollowing then some s
  else
    (addWords? (s.offset viewport) lines).map fun line =>
      if s.maxOffset viewport ≤ line then s.follow else { s with mode := .anchored line }

def pageUp (s : ScrollState) (viewport : Nat) : ScrollState :=
  s.scrollUp (max viewport 1) viewport

def pageDown? (s : ScrollState) (viewport : Nat) : Option ScrollState :=
  s.scrollDown? (max viewport 1) viewport

def toTop (s : ScrollState) : ScrollState :=
  { s with mode := .anchored 0 }

end ScrollState

/-- A change of the items' rows, or a move of the viewport. -/
inductive ScrollStep where
  | setHeights (heights : List Nat)
  | pushHeights (heights : List Nat)
  | setHeight (index height : Nat)
  | anchor (line viewport : Nat)
  | stopFollowing (viewport : Nat)
  | follow
  | scrollUp (lines viewport : Nat)
  | scrollDown (lines : UInt64) (viewport : Nat)
  | pageUp (viewport : Nat)
  | pageDown (viewport : Nat)
  | toTop

namespace ScrollState

/-- A state with as many lines as words of 64 bits can number. -/
def checked? (s : ScrollState) : Option ScrollState :=
  if s.totalLines < UInt64.size then some s else none

/-- The state after a step, unless the step fails: the lines are more than words can number, or a
move down comes to a line that is too large for a word. -/
def next? (s : ScrollState) : ScrollStep → Option ScrollState
  | .setHeights heights => (s.setHeights heights).checked?
  | .pushHeights heights => (s.pushHeights heights).checked?
  | .setHeight index height => (s.setHeight index height).2.checked?
  | .anchor line viewport => some (s.anchor line viewport)
  | .stopFollowing viewport => some (s.stopFollowing viewport)
  | .follow => some s.follow
  | .scrollUp lines viewport => some (s.scrollUp lines viewport)
  | .scrollDown lines viewport => s.scrollDown? lines.toNat viewport
  | .pageUp viewport => some (s.pageUp viewport)
  | .pageDown viewport => s.pageDown? viewport
  | .toTop => some s.toTop

end ScrollState

end TranscriptSearch
