import TranscriptSearch.Find.Highlighting
import TranscriptSearch.Proofs.Screen.Announcements
import TranscriptSearch.Proofs.Screen.SameScreen

/-!
Highlights that do not get stale.  They are computed anew when the surface has announced another
window or another layout, and only then.  That is enough: as long as both are the same, and all
that happened to the transcript is taken up, a search of the screen finds what it found when the
highlights were computed, and nothing has wiped them out.
-/

namespace TranscriptSearch

open RenderSurface
open TranscriptView (ShowsSame)

namespace ScreenSurface

variable {behind : Bool} {t : Transcript} {s : ScreenSurface}

/-- The window and the layout that were announced last. -/
def announced (s : ScreenSurface) : VisibleWindow × Nat :=
  (s.window, s.generation)

/-- A surface with both layers of highlights painted anew. -/
def paint (s : ScreenSurface) (all : List RenderedSpan) (current : Option RenderedSpan) :
    ScreenSurface :=
  match current with
  | some span => applyHighlight (applyHighlight s .all all) .current [span]
  | none => clearHighlight (applyHighlight s .all all) .current

section Paint

variable (all : List RenderedSpan) (current : Option RenderedSpan)

theorem highlights_paint_all (s : ScreenSurface) :
    (s.paint all current).view.highlights .all = all := by
  cases current with
  | some span => rfl
  | none =>
      change ((s.view.setHighlight .all all).clearHighlight .current).highlights .all = all
      unfold TranscriptView.clearHighlight
      split <;> rfl

theorem highlights_paint_current (s : ScreenSurface) :
    (s.paint all current).view.highlights .current = current.toList := by
  cases current with
  | some span => rfl
  | none =>
      change ((s.view.setHighlight .all all).clearHighlight .current).highlights .current = []
      unfold TranscriptView.clearHighlight
      split
      · next hnone =>
          rw [TranscriptView.highlights, Option.isNone_iff_eq_none.mp hnone, Option.getD_none]
      · rfl

theorem standsLike_paint (s : ScreenSurface) : s.view.StandsLike (s.paint all current).view := by
  have hall := TranscriptView.StandsLike.setHighlight s.view .all all
  cases current with
  | some span => exact hall.trans (.setHighlight _ .current [span])
  | none => exact hall.trans (.clearHighlight _ .current)

theorem versions_paint (s : ScreenSurface) : versions (s.paint all current) = versions s := by
  cases current <;> rfl

theorem KeepsUp.applyHighlight (h : KeepsUp behind t s) (kind : HighlightKind)
    (spans : List RenderedSpan) : KeepsUp behind t (RenderSurface.applyHighlight s kind spans) :=
  .step (.applyHighlight kind spans) (fun _ => id) h

theorem KeepsUp.clearHighlight (h : KeepsUp behind t s) (kind : HighlightKind) :
    KeepsUp behind t (RenderSurface.clearHighlight s kind) :=
  .step (.clearHighlight kind) (fun _ => id) h

theorem KeepsUp.paint (h : KeepsUp behind t s) : KeepsUp behind t (s.paint all current) := by
  cases current with
  | some span => exact (h.applyHighlight .all all).applyHighlight .current [span]
  | none => exact (h.applyHighlight .all all).clearHighlight .current

end Paint

theorem locate_of_standsLike (hmeasured : s.view.WindowIsMeasured) (last : ScreenSurface)
    (h : s.view.StandsLike last.view) (t : Transcript) (itemId term : String) (n : Nat) :
    RenderSurface.locate last t itemId term n =
      ((RenderSurface.locate s t itemId term n).1, last) := by
  have hsame := ShowsSame.of_standsLike h t
  exact Prod.ext (fst_locate_eq hsame hmeasured itemId term n)
    (locate_eq (hsame.windowIsMeasured hmeasured) itemId term n)

end ScreenSurface

namespace Highlighting

variable {h : Highlighting} {t t' : Transcript} {s last : ScreenSurface} {term : String}
  {limit : Nat}

/-- Whether the surface has announced a change that is not taken into account yet. -/
def isPending (h : Highlighting) (s : ScreenSurface) : Bool :=
  h.seen.any (· ≠ versions s)

/-- The place of the current occurrence on the screen. -/
def current? (h : Highlighting) (t : Transcript) (s : ScreenSurface) (term : String) :
    Option RenderedSpan :=
  h.anchor.bind fun (itemId, occurrence) => (locate s t itemId term occurrence).1

/-- Whether both layers of highlights are what they would be if they were computed now. -/
structure IsFresh (h : Highlighting) (limit : Nat) (t : Transcript) (s : ScreenSurface)
    (term : String) : Prop where
  all_eq : s.view.highlights .all = (visibleOccurrences s t term limit).1
  current_eq : s.view.highlights .current = (h.current? t s term).toList

theorem current?_eq (hsame : ShowsSame t s.view t' last.view)
    (hmeasured : s.view.WindowIsMeasured)
    (h : Highlighting) (term : String) : h.current? t' last term = h.current? t s term := by
  rw [current?, current?]
  cases h.anchor with
  | none => rfl
  | some anchor => exact ScreenSurface.fst_locate_eq hsame hmeasured anchor.1 term anchor.2

theorem IsFresh.of_showsSame (hfresh : h.IsFresh limit t s term)
    (hsame : ShowsSame t s.view t' last.view) (hmeasured : s.view.WindowIsMeasured)
    (hlayers : ∀ kind, last.view.layer? kind = s.view.layer? kind) :
    h.IsFresh limit t' last term := by
  constructor
  · rw [TranscriptView.highlights, hlayers]
    exact hfresh.all_eq.trans
      (ScreenSurface.fst_visibleOccurrences_eq hsame hmeasured term limit).symm
  · rw [TranscriptView.highlights, hlayers, current?_eq hsame hmeasured]
    exact hfresh.current_eq

theorem refresh_eq (hterm : h.term = some term) (hmeasured : s.view.WindowIsMeasured)
    (t : Transcript) (limit : Nat) :
    h.refresh s t limit =
      s.paint (visibleOccurrences s t term limit).1 (h.current? t s term) := by
  have hseen : (visibleOccurrences s t term limit).2 = s :=
    ScreenSurface.visibleOccurrences_eq hmeasured term limit
  rcases h with ⟨_, _ | ⟨itemId, occurrence⟩, seen⟩
  · obtain rfl : _ = some term := hterm
    simp only [refresh, hseen]
    rfl
  · obtain rfl : _ = some term := hterm
    -- The occurrence is looked up when the other ones are painted already.
    have hlocated := ScreenSurface.locate_of_standsLike hmeasured
      (applyHighlight s .all (visibleOccurrences s t term limit).1)
        (.setHighlight s.view .all _) t
      itemId term occurrence
    simp only [refresh, hseen, hlocated, current?, Option.bind_some]
    cases (locate s t itemId term occurrence).1 <;> rfl

theorem isFresh_refresh (hterm : h.term = some term) (hmeasured : s.view.WindowIsMeasured)
    (t : Transcript) (limit : Nat) : h.IsFresh limit t (h.refresh s t limit) term := by
  rw [refresh_eq hterm hmeasured]
  have hsame := ShowsSame.of_standsLike (ScreenSurface.standsLike_paint
    (visibleOccurrences s t term limit).1 (h.current? t s term) s) t
  constructor
  · rw [ScreenSurface.highlights_paint_all]
    exact (ScreenSurface.fst_visibleOccurrences_eq hsame hmeasured term limit).symm
  · rw [ScreenSurface.highlights_paint_current, current?_eq hsame hmeasured]

theorem versions_refresh (hterm : h.term = some term) (hmeasured : s.view.WindowIsMeasured)
    (t : Transcript) (limit : Nat) : versions (h.refresh s t limit) = versions s := by
  rw [refresh_eq hterm hmeasured, ScreenSurface.versions_paint]

theorem keepsUp_refresh {behind : Bool} (hkeeps : s.KeepsUp behind t) (h : Highlighting)
    (limit : Nat) : (h.refresh s t limit).KeepsUp behind t := by
  cases hterm : h.term with
  | none =>
      rw [refresh, hterm]
      exact hkeeps
  | some term =>
      rw [refresh_eq hterm hkeeps.view.windowIsMeasured]
      exact hkeeps.paint _ _

end Highlighting

/-- A surface with highlights on it. -/
structure HighlightedSurface where
  surface : ScreenSurface
  highlighting : Highlighting
  /-- The window and the layout that were announced when the highlights were last computed. -/
  computedAt : VisibleWindow × Nat

namespace HighlightedSurface

variable {p : HighlightedSurface} {behind : Bool} {t : Transcript} {term : String} {limit : Nat}

/-- A surface with highlights that have just been computed. -/
def computed (h : Highlighting) (s : ScreenSurface) : HighlightedSurface :=
  ⟨s, h, s.announced⟩

def showTerm (p : HighlightedSurface) (t : Transcript) (limit : Nat) (term : String) :
    HighlightedSurface :=
  let (h, s) := p.highlighting.showTerm p.surface t limit term
  computed h s

def showTarget (p : HighlightedSurface) (t : Transcript) (limit : Nat) (term : String)
    (target : MatchTarget) : HighlightedSurface :=
  let (h, s) := p.highlighting.showTarget p.surface t limit term target
  computed h s

def refresh (p : HighlightedSurface) (t : Transcript) (limit : Nat) : HighlightedSurface :=
  computed p.highlighting (p.highlighting.refresh p.surface t limit)

def watch (p : HighlightedSurface) (t : Transcript) (limit : Nat) : HighlightedSurface :=
  let (h, s) := p.highlighting.watch p.surface t limit
  ⟨s, h, if p.highlighting.isPending p.surface then s.announced else p.computedAt⟩

def clear (p : HighlightedSurface) : HighlightedSurface :=
  let (h, s) := p.highlighting.clear p.surface
  computed h s

/-- The surfaces with highlights that a transcript comes to be shown on when what happens to it is
taken up before anything else is done that could move the window, and when nothing but the
highlighting paints while a term is shown.  The first argument says whether there is something to
take up. -/
inductive KeepsUp (limit : Nat) : Bool → Transcript → HighlightedSurface → Prop
  | new {behind : Bool} {t : Transcript} {s : ScreenSurface} :
      ScreenSurface.KeepsUp behind t s → KeepsUp limit behind t (computed .none s)
  | step {behind : Bool} {t : Transcript} {p : HighlightedSurface} (step : SurfaceStep)
      (hstep : behind = true → ¬ step.IsOperation)
      (hpaints : p.highlighting.term ≠ none → ¬ step.Paints) :
      KeepsUp limit behind t p →
        KeepsUp limit (step.leavesBehind behind) (step.nextTranscript t)
          { p with surface := step.next t p.surface }
  | showTerm {behind : Bool} {t : Transcript} {p : HighlightedSurface} (term : String) :
      KeepsUp limit behind t p → KeepsUp limit behind t (p.showTerm t limit term)
  | showTarget {behind : Bool} {t : Transcript} {p : HighlightedSurface} (term : String)
      (target : MatchTarget) :
      KeepsUp limit behind t p → KeepsUp limit behind t (p.showTarget t limit term target)
  | refresh {behind : Bool} {t : Transcript} {p : HighlightedSurface} :
      KeepsUp limit behind t p → KeepsUp limit behind t (p.refresh t limit)
  | watch {behind : Bool} {t : Transcript} {p : HighlightedSurface} :
      KeepsUp limit behind t p → KeepsUp limit behind t (p.watch t limit)
  | clear {behind : Bool} {t : Transcript} {p : HighlightedSurface} :
      KeepsUp limit behind t p → KeepsUp limit behind t p.clear

/-- Whether the highlights were computed on an earlier state of the surface.  Since then what was
news has got a later version, and the view has kept its items and highlights unless it has come to
another layout. -/
structure ComputedOn (limit : Nat) (t : Transcript) (p : HighlightedSurface) (term : String)
    (earlier : Transcript) (s : ScreenSurface) : Prop where
  term_eq : p.highlighting.term = some term
  fresh : p.highlighting.IsFresh limit earlier s term
  computedAt_eq : p.computedAt = s.announced
  seen : ∃ seen, p.highlighting.seen = some seen ∧ seen.1 ≤ s.windowVersion ∧
    seen.2 ≤ s.layoutVersion
  extends_earlier : t.Extends earlier
  announcesNews : s.AnnouncesNews p.surface
  keeps : s.view.Keeps p.surface.view ∨ s.view.generation < p.surface.view.generation

theorem ComputedOn.step {earlier : Transcript} {s : ScreenSurface}
    (h : p.ComputedOn limit t term earlier s) (hmeasured : p.surface.view.WindowIsMeasured)
    {step : SurfaceStep} (hpaints : ¬ step.Paints) :
    ComputedOn limit (step.nextTranscript t) { p with surface := step.next t p.surface } term
      earlier s where
  term_eq := h.term_eq
  fresh := h.fresh
  computedAt_eq := h.computedAt_eq
  seen := h.seen
  extends_earlier := (step.extends_nextTranscript t).trans h.extends_earlier
  announcesNews := h.announcesNews.trans (SurfaceStep.announcesNews_next hmeasured t step)
  keeps := by
    cases hview : step.viewStep? with
    | none =>
        simp only [SurfaceStep.next_eq_self hmeasured hview]
        exact h.keeps
    | some viewStep =>
        rw [SurfaceStep.Paints, hview] at hpaints
        simp only [SurfaceStep.view_next hview]
        exact TranscriptView.keeps_or_lt_next h.keeps t hpaints

theorem computedOn_refresh {h : Highlighting} {s : ScreenSurface} (hterm : h.term = some term)
    (hmeasured : s.view.WindowIsMeasured) {seen : Nat × Nat} (hwindow : seen.1 ≤ s.windowVersion)
    (hlayout : seen.2 ≤ s.layoutVersion) (t : Transcript) (limit : Nat) :
    ComputedOn limit t (computed { h with seen := some seen } (h.refresh s t limit)) term t
      (h.refresh s t limit) := by
  have hfresh := Highlighting.isFresh_refresh hterm hmeasured t limit
  obtain ⟨hwindow', hlayout'⟩ :=
    Prod.mk.inj (Highlighting.versions_refresh hterm hmeasured t limit)
  exact ⟨hterm, ⟨hfresh.all_eq, hfresh.current_eq⟩, rfl,
    ⟨seen, rfl, Nat.le_trans hwindow (Nat.le_of_eq hwindow'.symm),
      Nat.le_trans hlayout (Nat.le_of_eq hlayout'.symm)⟩,
    .refl t, .refl _, .inl (.refl _)⟩

theorem ComputedOn.seen_le {earlier : Transcript} {s : ScreenSurface}
    (h : p.ComputedOn limit t term earlier s) :
    ∃ seen, p.highlighting.seen = some seen ∧ seen.1 ≤ p.surface.windowVersion ∧
      seen.2 ≤ p.surface.layoutVersion := by
  obtain ⟨seen, hseen, hwindow, hlayout⟩ := h.seen
  exact ⟨seen, hseen, Nat.le_trans hwindow h.announcesNews.windowVersion_le,
    Nat.le_trans hlayout h.announcesNews.layoutVersion_le⟩

theorem ComputedOn.computedAt_eq_of_not_isPending {earlier : Transcript} {s : ScreenSurface}
    (h : p.ComputedOn limit t term earlier s)
    (hpending : p.highlighting.isPending p.surface = false) :
    p.computedAt = p.surface.announced := by
  obtain ⟨seen, hseen, hwindow, hlayout⟩ := h.seen
  have hversions : seen = versions p.surface := by
    rw [Highlighting.isPending, hseen] at hpending
    simpa using hpending
  obtain rfl := hversions
  -- Versions do not go down, so they are the same as when the highlights were computed.
  have hnews := h.announcesNews
  rw [h.computedAt_eq]
  exact Prod.ext (hnews.window_eq (Nat.le_antisymm hwindow hnews.windowVersion_le)).symm
    (hnews.generation_eq (Nat.le_antisymm hlayout hnews.layoutVersion_le)).symm

/-- Highlights are fresh as long as the window and the layout are those that they were computed
for. -/
theorem ComputedOn.isFresh {earlier : Transcript} {s : ScreenSurface} {behind' : Bool}
    (h : p.ComputedOn limit t term earlier s) (hs : ScreenSurface.KeepsUp behind' earlier s)
    (hp : ScreenSurface.KeepsUp false t p.surface) (hsame : p.computedAt = p.surface.announced) :
    p.highlighting.IsFresh limit t p.surface term := by
  obtain ⟨hwindow, hgeneration⟩ := Prod.mk.inj (h.computedAt_eq.symm.trans hsame)
  rw [hs.isAnnounced.window_eq, hp.isAnnounced.window_eq] at hwindow
  rw [hs.isAnnounced.generation_eq, hp.isAnnounced.generation_eq] at hgeneration
  rcases h.keeps with hkeeps | hlt
  · have hscreen := hkeeps.toKeepsItems.showsSame hs.view.reachable.isFaithful
      hp.view.reachable.isFaithful hp.view.inSync h.extends_earlier hs.view.windowIsMeasured
      hp.view.windowIsMeasured hwindow.symm
    exact h.fresh.of_showsSame hscreen hs.view.windowIsMeasured hkeeps.layer_eq
  · exact absurd hgeneration (Nat.ne_of_lt hlt)

/-- Whether nothing is highlighted, or the highlights were computed on a surface that the present
one comes from. -/
def HasComputed (limit : Nat) (t : Transcript) (p : HighlightedSurface) : Prop :=
  p.highlighting = .none ∨
    ∃ term behind earlier s, ScreenSurface.KeepsUp behind earlier s ∧
      p.ComputedOn limit t term earlier s

theorem watch_of_not_isPending (h : p.highlighting.isPending p.surface = false) (t : Transcript)
    (limit : Nat) : p.watch t limit = p := by
  have hwatch : p.highlighting.watch p.surface t limit = (p.highlighting, p.surface) := by
    rw [Highlighting.watch, ← Highlighting.isPending, h]
    rfl
  simp only [watch, hwatch, h]
  rfl

theorem watch_of_isPending (h : p.highlighting.isPending p.surface = true) (t : Transcript)
    (limit : Nat) :
    p.watch t limit = computed { p.highlighting with seen := some (versions p.surface) }
      (p.highlighting.refresh p.surface t limit) := by
  have hwatch : p.highlighting.watch p.surface t limit =
      ({ p.highlighting with seen := some (versions p.surface) },
        p.highlighting.refresh p.surface t limit) := by
    rw [Highlighting.watch, ← Highlighting.isPending, h]
    rfl
  simp only [watch, hwatch, h]
  rfl

namespace HasComputed

theorem put (h : p.HasComputed limit t) {s : ScreenSurface}
    (hs : ScreenSurface.KeepsUp behind t s)
    (hversions : versions s = versions p.surface) (term : String)
    (anchor : Option (String × Nat)) :
    (computed (p.highlighting.put s t limit term anchor).1
      (p.highlighting.put s t limit term anchor).2).HasComputed limit t := by
  have hmeasured := hs.view.windowIsMeasured
  obtain ⟨shown, hshown⟩ : ∃ shown : Highlighting,
      shown = { p.highlighting with term := some term, anchor } := ⟨_, rfl⟩
  have hterm : shown.term = some term := by rw [hshown]
  have hput : p.highlighting.put s t limit term anchor =
      ({ shown with seen := some (p.highlighting.seen.getD (versions s)) },
        shown.refresh s t limit) := by
    rw [← shown.versions_refresh hterm hmeasured t limit, hshown]
    rfl
  have hseen : (p.highlighting.seen.getD (versions s)).1 ≤ s.windowVersion ∧
      (p.highlighting.seen.getD (versions s)).2 ≤ s.layoutVersion := by
    rcases h with hnone | ⟨_, _, _, _, -, hcomputed⟩
    · rw [hnone]
      exact ⟨Nat.le_refl _, Nat.le_refl _⟩
    · obtain ⟨seen, hseen, hwindow, hlayout⟩ := hcomputed.seen_le
      obtain ⟨hwindow', hlayout'⟩ := Prod.mk.inj hversions
      rw [hseen]
      exact ⟨Nat.le_trans hwindow (Nat.le_of_eq hwindow'.symm),
        Nat.le_trans hlayout (Nat.le_of_eq hlayout'.symm)⟩
  rw [hput]
  exact .inr ⟨term, behind, t, _, shown.keepsUp_refresh hs limit,
    computedOn_refresh hterm hmeasured hseen.1 hseen.2 t limit⟩

theorem refresh (h : p.HasComputed limit t) (hp : ScreenSurface.KeepsUp behind t p.surface) :
    (p.refresh t limit).HasComputed limit t := by
  rcases h with hnone | ⟨term, _, _, _, -, hcomputed⟩
  · exact .inl hnone
  · obtain ⟨seen, hseen, hwindow, hlayout⟩ := hcomputed.seen_le
    have hrefresh :=
      computedOn_refresh hcomputed.term_eq hp.view.windowIsMeasured hwindow hlayout t limit
    rw [← hseen] at hrefresh
    exact .inr ⟨term, behind, t, _, p.highlighting.keepsUp_refresh hp limit, hrefresh⟩

theorem watch (h : p.HasComputed limit t) (hp : ScreenSurface.KeepsUp behind t p.surface) :
    (p.watch t limit).HasComputed limit t := by
  cases hpending : p.highlighting.isPending p.surface with
  | false =>
      rw [watch_of_not_isPending hpending]
      exact h
  | true =>
      rcases h with hnone | ⟨term, _, _, _, -, hcomputed⟩
      · rw [hnone] at hpending
        exact absurd hpending Bool.false_ne_true
      · rw [watch_of_isPending hpending]
        exact .inr ⟨term, behind, t, _, p.highlighting.keepsUp_refresh hp limit,
          computedOn_refresh hcomputed.term_eq hp.view.windowIsMeasured (Nat.le_refl _)
            (Nat.le_refl _) t limit⟩

end HasComputed

namespace KeepsUp

theorem surface (h : KeepsUp limit behind t p) : ScreenSurface.KeepsUp behind t p.surface := by
  induction h with
  | new hsurface => exact hsurface
  | step step hstep _ _ ih => exact .step step hstep ih
  | @showTerm behind t p term _ ih =>
      exact Highlighting.keepsUp_refresh (ih.clearHighlight .current)
        { p.highlighting with term := some term, anchor := none } limit
  | @showTarget behind t p term target _ ih =>
      exact Highlighting.keepsUp_refresh ih { p.highlighting with
        term := some term, anchor := some (target.itemId, target.occurrence) } limit
  | refresh _ ih => exact Highlighting.keepsUp_refresh ih _ limit
  | @watch behind t p _ ih =>
      cases hpending : p.highlighting.isPending p.surface with
      | false =>
          rw [watch_of_not_isPending hpending]
          exact ih
      | true =>
          rw [watch_of_isPending hpending]
          exact Highlighting.keepsUp_refresh ih _ limit
  | clear _ ih => exact (ih.clearHighlight .all).clearHighlight .current

theorem hasComputed (h : KeepsUp limit behind t p) : p.HasComputed limit t := by
  induction h with
  | new hsurface => exact .inl rfl
  | step step hstep hpaints hbefore ih =>
      rcases ih with hnone | ⟨term, behind', earlier, s, hs, hcomputed⟩
      · exact .inl hnone
      · refine .inr ⟨term, behind', earlier, s, hs,
          hcomputed.step hbefore.surface.view.windowIsMeasured (hpaints ?_)⟩
        rw [hcomputed.term_eq]
        exact Option.some_ne_none term
  | showTerm term hbefore ih =>
    exact ih.put (hbefore.surface.clearHighlight .current) rfl term none
  | showTarget term target hbefore ih =>
      exact ih.put hbefore.surface rfl term (some (target.itemId, target.occurrence))
  | refresh hbefore ih => exact ih.refresh hbefore.surface
  | watch hbefore ih => exact ih.watch hbefore.surface
  | clear _ _ => exact .inl rfl

end KeepsUp

theorem KeepsUp.isPending_watch (h : KeepsUp limit behind t p) :
    (p.watch t limit).highlighting.isPending (p.watch t limit).surface = false := by
  cases hpending : p.highlighting.isPending p.surface with
  | false =>
      rw [watch_of_not_isPending hpending]
      exact hpending
  | true =>
      rcases h.hasComputed with hnone | ⟨term, _, _, _, -, hcomputed⟩
      · rw [hnone] at hpending
        exact absurd hpending Bool.false_ne_true
      · have hversions := Highlighting.versions_refresh hcomputed.term_eq
          h.surface.view.windowIsMeasured t limit
        rw [watch_of_isPending hpending]
        simp [computed, Highlighting.isPending, hversions]

/-- Highlights on a surface that keeps up with its transcript are what they would be if they were
computed now: whenever no announcement is left to be taken into account, and whenever the window
and the layout are those that they were computed for. -/
theorem isFresh_of_keepsUp (h : KeepsUp limit false t p)
    (hterm : p.highlighting.term = some term) :
    (p.highlighting.isPending p.surface = false → p.highlighting.IsFresh limit t p.surface term) ∧
      (p.computedAt = p.surface.announced → p.highlighting.IsFresh limit t p.surface term) := by
  rcases h.hasComputed with hnone | ⟨term', behind, earlier, s, hs, hcomputed⟩
  · rw [hnone] at hterm
    exact absurd hterm (Option.some_ne_none term).symm
  · obtain rfl : term' = term := Option.some.inj (hcomputed.term_eq.symm.trans hterm)
    have hfresh := hcomputed.isFresh hs h.surface
    exact ⟨fun hpending => hfresh (hcomputed.computedAt_eq_of_not_isPending hpending), hfresh⟩

/-- A view at the top of the six long inputs, scrolled down to the second one after a term was
shown. -/
def scrolledInputs : HighlightedSurface :=
  let shown := (computed .none (.new TranscriptView.longInputsTop)).showTarget
    TranscriptView.longInputs 10 "a" ⟨0, "event-0", 1, ⟨"event-0", 0, 1, 2, 3⟩⟩
  { shown with
    surface := (SurfaceStep.update (.scrollDown 5)).next TranscriptView.longInputs shown.surface }

theorem keepsUp_scrolledInputs : KeepsUp 10 false TranscriptView.longInputs scrolledInputs :=
  .step (.update (.scrollDown 5)) nofun (fun _ => id)
    (.showTarget "a" _ (.new (.new TranscriptView.keepsUp_longInputsTop)))

theorem isFresh_scrolledInputs_watch :
    scrolledInputs.highlighting.isPending scrolledInputs.surface = true ∧
      scrolledInputs.surface.view.highlights .all = [⟨"event-0", 0, 1, 2, 3⟩] ∧
      (scrolledInputs.watch TranscriptView.longInputs 10).highlighting.IsFresh 10
        TranscriptView.longInputs
          (scrolledInputs.watch TranscriptView.longInputs 10).surface "a" ∧
      (scrolledInputs.watch TranscriptView.longInputs 10).surface.view.highlights .all =
        [⟨"event-0", 0, 1, 2, 3⟩, ⟨"event-1", 1, 1, 2, 3⟩] :=
  ⟨by decide +kernel, by decide +kernel,
    (isFresh_of_keepsUp (.watch keepsUp_scrolledInputs) (by decide +kernel)).1
      keepsUp_scrolledInputs.isPending_watch,
    by decide +kernel⟩

end HighlightedSurface

end TranscriptSearch
