import TranscriptSearch.Screen.Cell
import TranscriptSearch.Screen.Scroll
import TranscriptSearch.Surface.Basic
import TranscriptSearch.Transcript.Basic

/-!
A transcript on the screen.  An item is rendered when it is first on the screen; until then it is
taken to have two rows.  After every move, items are rendered until none on the screen is left
out, and only items on the screen show their rows to a search.
-/
namespace TranscriptSearch

/-- A view of a transcript.  The transcript itself is an argument of each operation: it grows
while the view stays as it is, until `sync`.  Its epoch, generation and revision have no bound
here, where a program counts them in 64 bits. -/
structure TranscriptView where
  options : CellOptions
  width : Nat
  /-- The number of lines of the viewport. -/
  height : Nat
  /-- The place of the viewport, and the rows that each item has or is taken to have. -/
  scroll : ScrollState
  /-- The items, each with its rows once it is rendered. -/
  cells : List (Option RenderedItem)
  /-- The epoch of the transcript whose items these are. -/
  epoch : Nat
  /-- The number of times that an item got another height, that items were added, or that all were
  laid out anew. -/
  generation : Nat
  allSpans : Option (List RenderedSpan)
  currentSpans : Option (List RenderedSpan)
  /-- The number of times that the highlights changed. -/
  revision : Nat
  /-- Whether a scroll that a search asked for is under way. -/
  programmatic : Bool

/-- A line of the screen: a row of an item, or the blank line below it. -/
structure ScreenRow where
  item : RenderedItem
  itemIndex : Nat
  line : Option Nat

def RenderedItem.screenRows (item : RenderedItem) (index skip : Nat) : List ScreenRow :=
  ((List.range (item.height + 1)).drop skip).map fun line =>
    ⟨item, index, if line < item.height then some line else none⟩

namespace TranscriptView

/-- The number of rows that an item is taken to have until it is rendered: a title and one row
more. -/
def estimatedHeight : Nat := 2

def cellHeight : Option RenderedItem → Nat
  | some item => item.height
  | none => estimatedHeight

def mode (v : TranscriptView) : ScrollMode :=
  v.scroll.mode

def moveBy (v : TranscriptView) (move : ScrollState → ScrollState) : TranscriptView :=
  { v with scroll := move v.scroll }

def moveBy? (v : TranscriptView) (move : ScrollState → Option ScrollState) :
    Option TranscriptView :=
  (move v.scroll).map fun scroll => { v with scroll }

def visibleRange? (v : TranscriptView) : Option VisibleRange :=
  v.scroll.visibleRange? v.height

def window (v : TranscriptView) : VisibleWindow :=
  match v.visibleRange? with
  | some range => ⟨range.first, range.stop⟩
  | none => .empty

def isMeasured (v : TranscriptView) (index : Nat) : Bool :=
  (v.cells[index]?.join).isSome

/-- The rows of an item, which is rendered if it was not yet. -/
def rendered (v : TranscriptView) (t : Transcript) (index : Nat) :
    Option RenderedItem × TranscriptView :=
  match v.cells[index]?, t.item? index with
  | some (some item), _ => (some item, v)
  | _, none => (none, v)
  | none, some entry => (some (entry.render v.width v.options), v)
  | some none, some entry =>
    let item := entry.render v.width v.options
    let (changed, scroll) := v.scroll.setHeight index item.height
    let generation := if changed then v.generation + 1 else v.generation
    (some item, { v with cells := v.cells.set index (some item), scroll, generation })

def renderAll (v : TranscriptView) (t : Transcript) (indices : List Nat) : TranscriptView :=
  indices.foldl (fun v index => (v.rendered t index).2) v

def pending (v : TranscriptView) : Nat :=
  v.cells.countP Option.isNone

theorem pending_set_some {cells : List (Option RenderedItem)} {index : Nat} (item : RenderedItem)
    (h : cells[index]? = some none) :
    (cells.set index (some item)).countP Option.isNone < cells.countP Option.isNone := by
  induction cells generalizing index with
  | nil => simp at h
  | cons cell rest ih =>
    cases index with
    | zero =>
      simp only [List.getElem?_cons_zero, Option.some.injEq] at h
      subst h
      simp
    | succ index =>
      simp only [List.getElem?_cons_succ] at h
      simp only [List.set_cons_succ, List.countP_cons]
      exact Nat.add_lt_add_right (ih h) _

theorem rendered_eq_or_pending_lt (v : TranscriptView) (t : Transcript) (index : Nat) :
    (v.rendered t index).2 = v ∨ (v.rendered t index).2.pending < v.pending := by
  unfold rendered
  split
  · exact .inl rfl
  · exact .inl rfl
  · exact .inl rfl
  · next h _ => exact .inr (pending_set_some _ h)

theorem renderAll_eq_or_pending_lt (v : TranscriptView) (t : Transcript) (indices : List Nat) :
    v.renderAll t indices = v ∨ (v.renderAll t indices).pending < v.pending := by
  induction indices generalizing v with
  | nil => exact .inl rfl
  | cons index rest ih =>
    have step : v.renderAll t (index :: rest) = (v.rendered t index).2.renderAll t rest := rfl
    rw [step]
    rcases v.rendered_eq_or_pending_lt t index with same | less
    · rw [same]
      exact ih v
    · rcases ih (v.rendered t index).2 with same' | less'
      · rw [same']
        exact .inr less
      · exact .inr (Nat.lt_trans less' less)

/-- Renders the items on the screen.  If that changes heights, other items may have come onto the
screen, and these are rendered next. -/
def measure (v : TranscriptView) (t : Transcript) : TranscriptView :=
  match v.visibleRange? with
  | none => v
  | some range =>
    let next := v.renderAll t range.indices
    if _h : next.generation = v.generation then next else next.measure t
termination_by v.pending
decreasing_by
  rcases v.renderAll_eq_or_pending_lt t range.indices with same | less
  · exact absurd (congrArg generation same) ‹_›
  · exact less

def relayout (v : TranscriptView) (t : Transcript) : TranscriptView :=
  measure
    { v with
      scroll := v.scroll.setHeights (List.replicate t.size estimatedHeight)
      cells := List.replicate t.size none
      generation := v.generation + 1 } t

/-- A view of a transcript, of 80 columns and 24 lines, that follows its end. -/
def new (t : Transcript) (options : CellOptions) : TranscriptView :=
  relayout
    { options
      width := 80
      height := 24
      scroll := .empty
      cells := []
      epoch := t.epoch
      generation := 0
      allSpans := none
      currentSpans := none
      revision := 0
      programmatic := false } t

/-- Another size of the viewport, and whether it is another.  Only another width calls for new
rows. -/
def resize (v : TranscriptView) (t : Transcript) (width height : Nat) : Bool × TranscriptView :=
  if width = v.width ∧ height = v.height then (false, v)
  else
    let resized := { v with width, height }
    (true, if width = v.width then resized.measure t else resized.relayout t)

/-- Takes up what happened to the transcript, and says whether anything did.  A new epoch begins
without highlights.  A viewport that shows the end begins to follow it, unless a search is
scrolling. -/
def sync (v : TranscriptView) (t : Transcript) : Bool × TranscriptView :=
  if t.epoch ≠ v.epoch then
    (true, relayout { v with
      epoch := t.epoch, allSpans := none, currentSpans := none, revision := v.revision + 1 } t)
  else if t.size ≤ v.cells.length then (false, v)
  else
    let added := t.size - v.cells.length
    let scroll := v.scroll.pushHeights (List.replicate added estimatedHeight)
    let resumes := v.scroll.isAtBottom v.height && !v.programmatic
    let grown := { v with
      scroll := if resumes then scroll.follow else scroll
      cells := v.cells ++ List.replicate added none
      generation := v.generation + 1 }
    (true, grown.measure t)

def setExpandArguments (v : TranscriptView) (t : Transcript) (expandArguments : Bool) :
    TranscriptView :=
  if v.options.expandArguments = expandArguments then v
  else relayout { v with options := { v.options with expandArguments } } t

def materialized (v : TranscriptView) (t : Transcript) (index : Nat) :
    Option RenderedItem × TranscriptView :=
  if v.window.contains index then v.rendered t index else (none, v)

def alignedOffset (start rows height : Nat) : ScrollAlign → Nat
  | .start => start
  | .center => start + rows / 2 - height / 2
  | .stop => start + rows - height

def scrollToItem (v : TranscriptView) (t : Transcript) (index : Nat) (align : ScrollAlign) :
    TranscriptView :=
  match v.scroll.itemStart? index, v.scroll.itemHeight? index with
  | some start, some rows =>
    (v.moveBy (·.anchor (alignedOffset start rows v.height align) v.height)).measure t
  | _, _ => v

def scrollUp (v : TranscriptView) (t : Transcript) (lines : Nat) : TranscriptView :=
  (v.moveBy (·.scrollUp lines v.height)).measure t

/-- The view after a move down, which fails if it comes to a line that is too large for a word. -/
def scrollDown? (v : TranscriptView) (t : Transcript) (lines : Nat) : Option TranscriptView :=
  (v.moveBy? (·.scrollDown? lines v.height)).map (measure · t)

def pageUp (v : TranscriptView) (t : Transcript) : TranscriptView :=
  (v.moveBy (·.pageUp v.height)).measure t

def pageDown? (v : TranscriptView) (t : Transcript) : Option TranscriptView :=
  (v.moveBy? (·.pageDown? v.height)).map (measure · t)

def toTop (v : TranscriptView) (t : Transcript) : TranscriptView :=
  (v.moveBy (·.toTop)).measure t

def isFollowing (v : TranscriptView) : Bool :=
  v.scroll.isFollowing

/-- The viewport begins to follow the end, or stays where it is. -/
def setFollowing (v : TranscriptView) (t : Transcript) (following : Bool) : TranscriptView :=
  if following then (v.moveBy (·.follow)).measure t else v.moveBy (·.stopFollowing v.height)

def isAtBottom (v : TranscriptView) : Bool :=
  v.scroll.isAtBottom v.height

def setProgrammatic (v : TranscriptView) (programmatic : Bool) : TranscriptView :=
  { v with programmatic }

def layer? (v : TranscriptView) : HighlightKind → Option (List RenderedSpan)
  | .all => v.allSpans
  | .current => v.currentSpans

def highlights (v : TranscriptView) (kind : HighlightKind) : List RenderedSpan :=
  (v.layer? kind).getD []

def setHighlight (v : TranscriptView) (kind : HighlightKind) (spans : List RenderedSpan) :
    TranscriptView :=
  match kind with
  | .all => { v with allSpans := some spans, revision := v.revision + 1 }
  | .current => { v with currentSpans := some spans, revision := v.revision + 1 }

def clearHighlight (v : TranscriptView) (kind : HighlightKind) : TranscriptView :=
  if (v.layer? kind).isNone then v
  else
    match kind with
    | .all => { v with allSpans := none, revision := v.revision + 1 }
    | .current => { v with currentSpans := none, revision := v.revision + 1 }

/-- The lines of some items, of the first from `skip` on, as far as there is room. -/
def rowsOf (v : TranscriptView) (t : Transcript) (room skip : Nat) :
    List Nat → List ScreenRow × TranscriptView
  | [] => ([], v)
  | index :: rest =>
    match v.rendered t index with
    | (none, v) => ([], v)
    | (some item, v) =>
      let rows := item.screenRows index skip
      if room < rows.length then (rows.take room, v)
      else
        let (more, v) := v.rowsOf t (room - rows.length) 0 rest
        (rows ++ more, v)

def screenRows (v : TranscriptView) (t : Transcript) : List ScreenRow × TranscriptView :=
  match v.visibleRange? with
  | none => ([], v)
  | some range => v.rowsOf t v.height range.skip range.indices

end TranscriptView

end TranscriptSearch
