import TranscriptSearch.Screen.View
import TranscriptSearch.Surface.RenderSurface

namespace TranscriptSearch

/-- A view, and what was announced of it. -/
structure ScreenSurface where
  view : TranscriptView
  window : VisibleWindow
  windowVersion : Nat
  generation : Nat
  layoutVersion : Nat

namespace ScreenSurface

def new (view : TranscriptView) : ScreenSurface :=
  ⟨view, view.window, 0, view.generation, 0⟩

/-- The surface with a view of which it announces what is news. -/
def update (s : ScreenSurface) (view : TranscriptView) : ScreenSurface where
  view
  window := view.window
  windowVersion := if s.window = view.window then s.windowVersion else s.windowVersion + 1
  generation := view.generation
  layoutVersion := if s.generation = view.generation then s.layoutVersion else s.layoutVersion + 1

/-- The rows of the first item with an identifier, and its index, if it is on the screen. -/
def cell? (s : ScreenSurface) (t : Transcript) (id : String) :
    Option (Nat × RenderedItem) × ScreenSurface :=
  match t.indexOf? id with
  | none => (none, s)
  | some index =>
    let (item, view) := s.view.materialized t index
    (item.map (index, ·), { s with view })

def occurrenceCount (s : ScreenSurface) (t : Transcript) (id term : String) :
    Nat × ScreenSurface :=
  match SearchTerm.ofString? term with
  | none => (0, s)
  | some term =>
    let (cell, s) := s.cell? t id
    (match cell with
      | some (_, item) => item.count term
      | none => 0, s)

def locate (s : ScreenSurface) (t : Transcript) (id term : String) (n : Nat) :
    Option RenderedSpan × ScreenSurface :=
  match SearchTerm.ofString? term with
  | none => (none, s)
  | some term =>
    let (cell, s) := s.cell? t id
    (do
      let (index, item) ← cell
      let found ← item.locate? term n
      return ⟨id, index, found.line, found.start, found.stop⟩, s)

def spansOf (v : TranscriptView) (t : Transcript) (term : SearchTerm) (index : Nat) :
    List RenderedSpan × TranscriptView :=
  match v.materialized t index with
  | (none, v) => ([], v)
  | (some cell, v) =>
    match t.item? index with
    | none => ([], v)
    | some item =>
      ((cell.occurrences term).map fun found =>
        ⟨item.id, index, found.line, found.start, found.stop⟩, v)

/-- The occurrences of a term in some items on the screen, as long as there is room. -/
def spansIn (v : TranscriptView) (t : Transcript) (term : SearchTerm) (room : Nat) :
    List Nat → List RenderedSpan × TranscriptView
  | [] => ([], v)
  | index :: rest =>
    if room = 0 then ([], v)
    else
      let (spans, v) := spansOf v t term index
      let (more, v) := spansIn v t term (room - spans.length) rest
      (spans.take room ++ more, v)

def visibleOccurrences (s : ScreenSurface) (t : Transcript) (term : String) (limit : Nat) :
    List RenderedSpan × ScreenSurface :=
  match SearchTerm.ofString? term with
  | none => ([], s)
  | some term =>
    let window := s.view.window
    let (spans, view) :=
      spansIn s.view t term limit (List.range' window.start window.size)
    (spans, { s with view })

instance : RenderSurface ScreenSurface where
  window s := s.view.window
  announcedWindow := window
  windowVersion := windowVersion
  layoutVersion := layoutVersion
  scrollTo s t index align := s.update (s.view.scrollToItem t index align)
  occurrenceCount := occurrenceCount
  locate := locate
  visibleOccurrences := visibleOccurrences
  applyHighlight s kind spans := { s with view := s.view.setHighlight kind spans }
  clearHighlight s kind := { s with view := s.view.clearHighlight kind }
  isFollowing s := s.view.isFollowing
  setFollowing s t following := s.update (s.view.setFollowing t following)
  isAtBottom s _ := s.view.isAtBottom
  setProgrammatic s programmatic := { s with view := s.view.setProgrammatic programmatic }

end ScreenSurface

end TranscriptSearch
