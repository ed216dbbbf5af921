import TranscriptSearch.Find.Panel
import TranscriptSearch.Proofs.Find.LandingRounds
import TranscriptSearch.Proofs.Screen.ScreenSearch
import TranscriptSearch.Proofs.Screen.Turns

namespace TranscriptSearch

open RenderSurface

namespace ScreenSurface

/-- Whether a surface shows a transcript and has taken up all that happened to it. -/
structure IsShowing (s : ScreenSurface) (t : Transcript) : Prop where
  reachable : TranscriptView.Reachable t s.view
  inSync : s.view.InSync t

/-- Whether a surface, perhaps after some requests, shows a transcript and stands where another
one does. -/
structure StaysAs (t : Transcript) (s after : ScreenSurface) : Prop where
  isShowing : after.IsShowing t
  stands : s.view.StandsLike after.view

variable {s after last : ScreenSurface} {t : Transcript} {target : MatchTarget}

theorem IsShowing.windowIsMeasured (h : s.IsShowing t) : s.view.WindowIsMeasured :=
  h.reachable.isMeasuredFor h.inSync.1

theorem IsShowing.lt_length (h : s.IsShowing t) {index : Nat}
    (hcontains : s.view.window.contains index = true) : index < s.view.cells.length := by
  obtain ⟨item, hitem⟩ := TranscriptView.isMeasured_iff.mp (h.windowIsMeasured index hcontains)
  exact (List.getElem?_eq_some_iff.mp hitem).1

theorem StaysAs.refl (h : s.IsShowing t) : StaysAs t s s :=
  ⟨h, .refl s.view⟩

theorem StaysAs.trans (h : StaysAs t s after) (h' : StaysAs t after last) : StaysAs t s last :=
  ⟨h'.isShowing, h.stands.trans h'.stands⟩

theorem StaysAs.of_step (h : s.IsShowing t) (step : ViewStep) (hstep : step.nextTranscript t = t)
    (hview : after.view = step.nextView t s.view) (hstands : s.view.StandsLike after.view) :
    StaysAs t s after := by
  refine ⟨⟨?_, hstands.epoch_eq.trans h.inSync.1, ?_⟩, hstands⟩
  · have hreachable := TranscriptView.Reachable.step step h.reachable
    rw [hstep, ← hview] at hreachable
    exact hreachable
  · rw [hstands.cells_eq]
    exact h.inSync.2

namespace IsShowing

theorem setProgrammatic (h : s.IsShowing t) (programmatic : Bool) :
    StaysAs t s (RenderSurface.setProgrammatic s programmatic) :=
  .of_step h (.setProgrammatic programmatic) rfl rfl ⟨rfl, rfl, rfl, rfl, rfl, rfl, rfl⟩

theorem setFollowing (h : s.IsShowing t) {following : Bool}
    (hbottom : following = true → s.view.isAtBottom = true) :
    StaysAs t s (RenderSurface.setFollowing s t following) :=
  .of_step h (.setFollowing following) rfl rfl (.setFollowing h.windowIsMeasured hbottom t)

theorem applyHighlight (h : s.IsShowing t) (kind : HighlightKind) (spans : List RenderedSpan) :
    StaysAs t s (RenderSurface.applyHighlight s kind spans) :=
  .of_step h (.setHighlight kind spans) rfl rfl (.setHighlight s.view kind spans)

theorem clearHighlight (h : s.IsShowing t) (kind : HighlightKind) :
    StaysAs t s (RenderSurface.clearHighlight s kind) :=
  .of_step h (.clearHighlight kind) rfl rfl (.clearHighlight s.view kind)

theorem occurrenceCount (h : s.IsShowing t) (itemId term : String) :
    (RenderSurface.occurrenceCount s t itemId term).2 = s :=
  occurrenceCount_eq h.windowIsMeasured itemId term

theorem locate (h : s.IsShowing t) (itemId term : String) (n : Nat) :
    (RenderSurface.locate s t itemId term n).2 = s :=
  locate_eq h.windowIsMeasured itemId term n

theorem visibleOccurrences (h : s.IsShowing t) (term : String) (limit : Nat) :
    (RenderSurface.visibleOccurrences s t term limit).2 = s :=
  visibleOccurrences_eq h.windowIsMeasured term limit

theorem scrollTo (h : s.IsShowing t) (index : Nat) (align : ScrollAlign) :
    (RenderSurface.scrollTo s t index align).IsShowing t ∧
      (RenderSurface.scrollTo s t index align).view.height = s.view.height := by
  have hreachable := TranscriptView.Reachable.step (.scrollToItem index align) h.reachable
  change TranscriptView.Reachable t (s.view.scrollToItem t index align) at hreachable
  by_cases hindex : index < s.view.cells.length
  · have hrenders := h.reachable.isInStep.renders_scrollToItem hindex t align
    refine ⟨⟨hreachable, hrenders.epoch_eq.trans h.inSync.1, ?_⟩, hrenders.height_eq⟩
    exact hrenders.length_eq.trans h.inSync.2
  · have hlength := h.reachable.isInStep.length_heights
    have hnone : s.view.scroll.itemStart? index = none := if_neg (by omega)
    have hsame : s.view.scrollToItem t index align = s.view := by
      rw [TranscriptView.scrollToItem, hnone]
    refine ⟨⟨hreachable, ?_⟩, congrArg TranscriptView.height hsame⟩
    change (s.view.scrollToItem t index align).InSync t
    rw [hsame]
    exact h.inSync

theorem ensureVisible (h : s.IsShowing t) (index : Nat) (cancelled : Bool) :
    (TranscriptSearch.ensureVisible s t index cancelled).2.IsShowing t ∧
      (TranscriptSearch.ensureVisible s t index cancelled).2.view.height = s.view.height := by
  rw [TranscriptSearch.ensureVisible]
  split
  · exact ⟨h, rfl⟩
  · split
    · exact ⟨h, rfl⟩
    · have hset := h.setProgrammatic true
      obtain ⟨hscrolled, hheight⟩ := hset.isShowing.scrollTo index .center
      simp only
      split
      · exact ⟨(hscrolled.setProgrammatic false).isShowing, hheight⟩
      · exact ⟨hscrolled, hheight⟩

theorem land (h : s.IsShowing t) (kept : Option KeptCounts) (term : String) (live : Bool)
    (index occurrence : Nat) :
    (TranscriptSearch.land t kept term live s index occurrence).2.IsShowing t ∧
      (TranscriptSearch.land t kept term live s index occurrence).2.view.height =
        s.view.height := by
  have hbegin : s.IsShowing t ∧ s.view.height = s.view.height := ⟨h, rfl⟩
  refine land_keeps (P := fun later : ScreenSurface =>
    later.IsShowing t ∧ later.view.height = s.view.height)
    ?_ ?_ ?_ kept live hbegin index occurrence
  · rintro later itemId ⟨hlater, hheight⟩
    rw [hlater.occurrenceCount]
    exact ⟨hlater, hheight⟩
  · rintro later itemId n ⟨hlater, hheight⟩
    rw [hlater.locate]
    exact ⟨hlater, hheight⟩
  · rintro later next cancelled ⟨hlater, hheight⟩
    obtain ⟨hseen, hsame⟩ := hlater.ensureVisible next cancelled
    exact ⟨hseen, hsame.trans hheight⟩

theorem refresh (h : s.IsShowing t) (highlighting : Highlighting) (limit : Nat) :
    StaysAs t s (highlighting.refresh s t limit) := by
  rcases highlighting with ⟨_ | term, anchor, seen⟩
  · exact .refl h
  · rw [Highlighting.refresh]
    simp only [h.visibleOccurrences]
    generalize (RenderSurface.visibleOccurrences s t term limit).1 = spans
    have hpainted := h.applyHighlight .all spans
    rcases anchor with _ | ⟨itemId, occurrence⟩
    · exact hpainted.trans (hpainted.isShowing.clearHighlight .current)
    · have hlocated := hpainted.isShowing.locate itemId term occurrence
      simp only
      split
      · next span located hlocate =>
          rw [hlocate] at hlocated
          obtain rfl : located = _ := hlocated
          exact hpainted.trans (hpainted.isShowing.applyHighlight .current [span])
      · next located hlocate =>
          rw [hlocate] at hlocated
          obtain rfl : located = _ := hlocated
          exact hpainted.trans (hpainted.isShowing.clearHighlight .current)

end IsShowing

end ScreenSurface

namespace FindPanel

open ScreenSurface

variable {p after : FindPanel ScreenSurface} {target : MatchTarget}

/-- A panel whose viewport of four lines is at the top of a transcript. -/
def atTop (t : Transcript) : FindPanel ScreenSurface :=
  .new t (.new (((TranscriptView.new t ⟨5, false⟩).resize t 40 4).2.toTop t)) {}

theorem reachable_atTop (t : Transcript) :
    TranscriptView.Reachable t (atTop t).surface.view :=
  .step .toTop (.step (.resize 40 4) (.new t ⟨5, false⟩))

end FindPanel

end TranscriptSearch
