import TranscriptSearch.Match.Segments
import TranscriptSearch.Surface.RenderSurface

namespace TranscriptSearch

/-- A window of a fixed number of items. -/
structure PagedSurface where
  /-- The number of items in the window. -/
  page : Nat
  window : VisibleWindow
  windowVersion : Nat
  layoutVersion : Nat
  /-- Whether scrolls wait until they are settled. -/
  holdsScrolls : Bool
  /-- The item of the scroll that waits. -/
  heldScroll : Option Nat
  /-- Whether items outside the window have rows, too. -/
  rendersAll : Bool
  /-- The items that were scrolled to. -/
  scrolls : List Nat
  /-- The rows that take the place of an item's own, by identifier. -/
  replacedRows : List (String × List String)
  /-- The numbers of occurrences that take the place of the real ones, by identifier. -/
  claimedCounts : List (String × Nat)
  allSpans : List RenderedSpan
  currentSpans : List RenderedSpan
  /-- The spans that were current, without immediate repetitions. -/
  history : List RenderedSpan
  following : Bool
  programmatic : Bool
  /-- The number of times that `programmatic` was set. -/
  programmaticChanges : Nat

namespace PagedSurface

def new (t : Transcript) (page : Nat) : PagedSurface where
  page
  window := ⟨0, min page t.size⟩
  windowVersion := 0
  layoutVersion := 0
  holdsScrolls := false
  heldScroll := none
  rendersAll := false
  scrolls := []
  replacedRows := []
  claimedCounts := []
  allSpans := []
  currentSpans := []
  history := []
  following := false
  programmatic := false
  programmaticChanges := 0

def announce (s : PagedSurface) (window : VisibleWindow) : PagedSurface :=
  { s with window, windowVersion := s.windowVersion + 1 }

/-- The window begins at an item, unless its end is too large for a word. -/
def setWindow? (s : PagedSurface) (t : Transcript) (start : Nat) : Option PagedSurface :=
  (addWords? start s.page).map fun stop => s.announce ⟨start, min stop t.size⟩

/-- The window has an item in its middle, as far as the ends of the transcript allow. -/
def centerOn (s : PagedSurface) (t : Transcript) (index : Nat) : PagedSurface :=
  let start := min (index - s.page / 2) (t.size - s.page)
  s.announce ⟨start, min (start + s.page) t.size⟩

def scrollTo (s : PagedSurface) (t : Transcript) (index : Nat) : PagedSurface :=
  let s := { s with scrolls := s.scrolls ++ [index] }
  if s.holdsScrolls then { s with heldScroll := some index } else s.centerOn t index

def settle (s : PagedSurface) (t : Transcript) : PagedSurface :=
  match s.heldScroll with
  | some index => { s with heldScroll := none }.centerOn t index
  | none => s

/-- Other rows for the item with an identifier; the layout is announced unless it is to be kept
quiet. -/
def replaceRows (s : PagedSurface) (id : String) (rows : List String) (quiet : Bool) :
    PagedSurface :=
  { s with
    replacedRows := (id, rows) :: s.replacedRows
    layoutVersion := if quiet then s.layoutVersion else s.layoutVersion + 1 }

/-- Another number of occurrences for the item with an identifier. -/
def claimCount (s : PagedSurface) (id : String) (count : Nat) : PagedSurface :=
  { s with claimedCounts := (id, count) :: s.claimedCounts }

/-- The index and the rows of the first item with an identifier, if it shows rows. -/
def rows? (s : PagedSurface) (t : Transcript) (id : String) : Option (Nat × List String) := do
  let index ← t.indexOf? id
  if s.rendersAll || s.window.contains index then
    match s.replacedRows.lookup id with
    | some rows => return (index, rows)
    | none => return (index, (← t.item? index).texts)
  else none

def occurrenceCount (s : PagedSurface) (t : Transcript) (id term : String) : Nat :=
  match s.claimedCounts.lookup id with
  | some count => count
  | none =>
    match SearchTerm.ofString? term, s.rows? t id with
    | some term, some (_, rows) => term.countIn rows
    | _, _ => 0

def locate? (s : PagedSurface) (t : Transcript) (id term : String) (n : Nat) :
    Option RenderedSpan := do
  let term ← SearchTerm.ofString? term
  let (index, rows) ← s.rows? t id
  let found ← term.locate? rows n
  return ⟨id, index, found.segment, found.span.start, found.span.stop⟩

def spansOf (s : PagedSurface) (t : Transcript) (term : SearchTerm) (index : Nat) (item : Item) :
    List RenderedSpan :=
  match s.rows? t item.id with
  | none => []
  | some (_, rows) =>
    rows.zipIdx.flatMap fun (row, line) =>
      (term.spans row).map fun span => ⟨item.id, index, line, span.start, span.stop⟩

def visibleOccurrences (s : PagedSurface) (t : Transcript) (term : String) (limit : Nat) :
    List RenderedSpan :=
  match SearchTerm.ofString? term with
  | none => []
  | some term =>
    let shown := (t.items.zipIdx.take s.window.stop).drop s.window.start
    (shown.flatMap fun (item, index) => s.spansOf t term index item).take limit

/-- A list with a span at its end, unless the list ends in that span already. -/
def remember (history : List RenderedSpan) (span : RenderedSpan) : List RenderedSpan :=
  if history.getLast? = some span then history else history ++ [span]

def applyHighlight (s : PagedSurface) (kind : HighlightKind) (spans : List RenderedSpan) :
    PagedSurface :=
  match kind with
  | .all => { s with allSpans := spans }
  | .current => { s with currentSpans := spans, history := spans.foldl remember s.history }

def clearHighlight (s : PagedSurface) : HighlightKind → PagedSurface
  | .all => { s with allSpans := [] }
  | .current => { s with currentSpans := [] }

def isAtBottom (s : PagedSurface) (t : Transcript) : Bool :=
  t.size ≤ s.window.stop

def setProgrammatic (s : PagedSurface) (programmatic : Bool) : PagedSurface :=
  { s with programmatic, programmaticChanges := s.programmaticChanges + 1 }

instance : RenderSurface PagedSurface where
  window := window
  announcedWindow := window
  windowVersion := windowVersion
  layoutVersion := layoutVersion
  scrollTo s t index _ := s.scrollTo t index
  occurrenceCount s t id term := (s.occurrenceCount t id term, s)
  locate s t id term n := (s.locate? t id term n, s)
  visibleOccurrences s t term limit := (s.visibleOccurrences t term limit, s)
  applyHighlight := applyHighlight
  clearHighlight := clearHighlight
  isFollowing := following
  setFollowing s _ following := { s with following }
  isAtBottom := isAtBottom
  setProgrammatic := setProgrammatic

end PagedSurface

end TranscriptSearch
