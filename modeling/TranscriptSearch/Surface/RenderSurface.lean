import TranscriptSearch.Surface.Basic
import TranscriptSearch.Transcript.Basic

/-!
What a search needs of the place where a transcript is shown.  Only items in the window need to
have rendered rows.  The window and the layout are announced: an announcement has a version, and
whoever has seen an older version knows that there is news.
-/
namespace TranscriptSearch

/-- The operations on a place where a transcript is shown.  The transcript is an argument, because
the place shows it but does not own it.  Questions about rendered rows may cause rows to be
rendered, so they give the place back as well. -/
class RenderSurface (σ : Type) where
  /-- The items that are visible now. -/
  window : σ → VisibleWindow
  /-- The window as it was last announced. -/
  announcedWindow : σ → VisibleWindow
  /-- The number of announcements of the window. -/
  windowVersion : σ → Nat
  /-- The number of announcements of the layout. -/
  layoutVersion : σ → Nat
  /-- Asks for an item to be brought into the window; this may take effect later. -/
  scrollTo : σ → Transcript → Nat → ScrollAlign → σ
  /-- The number of occurrences of a term that the item with an identifier shows. -/
  occurrenceCount : σ → Transcript → String → String → Nat × σ
  /-- The place of an occurrence of a term, counted from one, in the item with an identifier. -/
  locate : σ → Transcript → String → String → Nat → Option RenderedSpan × σ
  /-- The first occurrences of a term in the window, as many as allowed. -/
  visibleOccurrences : σ → Transcript → String → Nat → List RenderedSpan × σ
  /-- Puts spans into a layer of highlights. -/
  applyHighlight : σ → HighlightKind → List RenderedSpan → σ
  /-- Takes a layer of highlights away. -/
  clearHighlight : σ → HighlightKind → σ
  /-- Whether the window follows the end of the transcript. -/
  isFollowing : σ → Bool
  /-- The window begins to follow the end, or ceases to. -/
  setFollowing : σ → Transcript → Bool → σ
  /-- Whether the end of the transcript is visible. -/
  isAtBottom : σ → Transcript → Bool
  /-- A scroll that a search asked for begins or is over. -/
  setProgrammatic : σ → Bool → σ

namespace RenderSurface

/-- The versions of the latest announcements, of the window and of the layout. -/
def versions {σ : Type} [RenderSurface σ] (surface : σ) : Nat × Nat :=
  (windowVersion surface, layoutVersion surface)

end RenderSurface

end TranscriptSearch
