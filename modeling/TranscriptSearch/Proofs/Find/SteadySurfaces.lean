import TranscriptSearch.Find.Panel
import TranscriptSearch.Proofs.Find.LandingRounds
import TranscriptSearch.Proofs.Screen.SameScreen
import TranscriptSearch.Surface.Paged

namespace TranscriptSearch

open RenderSurface

/-- Whether one surface answers as another one does. -/
structure AnswersAlike {σ : Type} [RenderSurface σ] (t : Transcript) (s after : σ) : Prop where
  locate_eq : ∀ itemId term n, (locate after t itemId term n).1 = (locate s t itemId term n).1
  visibleOccurrences_eq : ∀ term limit,
    (visibleOccurrences after t term limit).1 = (visibleOccurrences s t term limit).1
  isAtBottom_eq : isAtBottom after t = isAtBottom s t

/-- A surface that says what is in its layers of highlights, and changes only by what it is asked
to change while it shows a transcript. -/
class SteadySurface (σ : Type) [RenderSurface σ] where
  Shows : σ → Transcript → Prop
  layer : σ → HighlightKind → List RenderedSpan
  occurrenceCount_eq : ∀ {s : σ} {t : Transcript}, Shows s t → ∀ itemId term,
    (occurrenceCount s t itemId term).2 = s
  locate_eq : ∀ {s : σ} {t : Transcript}, Shows s t → ∀ itemId term n,
    (locate s t itemId term n).2 = s
  visibleOccurrences_eq : ∀ {s : σ} {t : Transcript}, Shows s t → ∀ term limit,
    (visibleOccurrences s t term limit).2 = s
  shows_scrollTo : ∀ {s : σ} {t : Transcript}, Shows s t → ∀ index align,
    Shows (scrollTo s t index align) t
  shows_setProgrammatic : ∀ {s : σ} {t : Transcript}, Shows s t → ∀ programmatic,
    Shows (setProgrammatic s programmatic) t
  shows_setFollowing : ∀ {s : σ} {t : Transcript}, Shows s t → ∀ following,
    Shows (setFollowing s t following) t
  shows_applyHighlight : ∀ {s : σ} {t : Transcript}, Shows s t → ∀ kind spans,
    Shows (applyHighlight s kind spans) t
  shows_clearHighlight : ∀ {s : σ} {t : Transcript}, Shows s t → ∀ kind,
    Shows (clearHighlight s kind) t
  alike_setFollowing : ∀ {s : σ} {t : Transcript}, Shows s t → isAtBottom s t = true →
    AnswersAlike t s (setFollowing s t true)
  alike_applyHighlight : ∀ {s : σ} {t : Transcript}, Shows s t → ∀ kind spans,
    AnswersAlike t s (applyHighlight s kind spans)
  alike_clearHighlight : ∀ {s : σ} {t : Transcript}, Shows s t → ∀ kind,
    AnswersAlike t s (clearHighlight s kind)
  isFollowing_setFollowing : ∀ (s : σ) (t : Transcript) (following : Bool),
    isFollowing (setFollowing s t following) = following
  isFollowing_applyHighlight : ∀ (s : σ) (kind : HighlightKind) (spans : List RenderedSpan),
    isFollowing (applyHighlight s kind spans) = isFollowing s
  isFollowing_clearHighlight : ∀ (s : σ) (kind : HighlightKind),
    isFollowing (clearHighlight s kind) = isFollowing s
  layer_applyHighlight : ∀ (s : σ) (kind other : HighlightKind) (spans : List RenderedSpan),
    layer (applyHighlight s kind spans) other = if other = kind then spans else layer s other
  layer_clearHighlight : ∀ (s : σ) (kind other : HighlightKind),
    layer (clearHighlight s kind) other = if other = kind then [] else layer s other
  layer_setFollowing : ∀ (s : σ) (t : Transcript) (following : Bool) (kind : HighlightKind),
    layer (setFollowing s t following) kind = layer s kind
  layer_setProgrammatic : ∀ (s : σ) (programmatic : Bool) (kind : HighlightKind),
    layer (setProgrammatic s programmatic) kind = layer s kind

attribute [simp] SteadySurface.isFollowing_setFollowing SteadySurface.isFollowing_applyHighlight
  SteadySurface.isFollowing_clearHighlight SteadySurface.layer_setFollowing
  SteadySurface.layer_setProgrammatic

instance : SteadySurface PagedSurface where
  Shows _ _ := True
  layer s
    | .all => s.allSpans
    | .current => s.currentSpans
  occurrenceCount_eq _ _ _ := rfl
  locate_eq _ _ _ _ := rfl
  visibleOccurrences_eq _ _ _ := rfl
  shows_scrollTo _ _ _ := trivial
  shows_setProgrammatic _ _ := trivial
  shows_setFollowing _ _ := trivial
  shows_applyHighlight _ _ _ := trivial
  shows_clearHighlight _ _ := trivial
  alike_setFollowing _ _ := ⟨fun _ _ _ => rfl, fun _ _ => rfl, rfl⟩
  alike_applyHighlight _ kind _ := by
    cases kind <;> exact ⟨fun _ _ _ => rfl, fun _ _ => rfl, rfl⟩
  alike_clearHighlight _ kind := by
    cases kind <;> exact ⟨fun _ _ _ => rfl, fun _ _ => rfl, rfl⟩
  isFollowing_setFollowing _ _ _ := rfl
  isFollowing_applyHighlight _ kind _ := by cases kind <;> rfl
  isFollowing_clearHighlight _ kind := by cases kind <;> rfl
  layer_applyHighlight _ kind other _ := by cases kind <;> cases other <;> rfl
  layer_clearHighlight _ kind other := by cases kind <;> cases other <;> rfl
  layer_setFollowing _ _ _ _ := rfl
  layer_setProgrammatic _ _ _ := rfl

namespace TranscriptView

theorem isFollowing_setFollowing (v : TranscriptView) (t : Transcript) (following : Bool) :
    (v.setFollowing t following).isFollowing = following := by
  rw [setFollowing]
  split
  · next hfollowing =>
      have hmode := ((v.moveBy (·.follow)).renders_measure t).mode_eq
      change (((v.moveBy (·.follow)).measure t).mode == .follow) = following
      rw [hmode, hfollowing]
      rfl
  · next hfollowing =>
      change ((v.scroll.stopFollowing v.height).mode == .follow) = following
      rw [Bool.not_eq_true] at hfollowing
      rw [hfollowing, ScrollState.stopFollowing]
      split
      · rfl
      · next hstopped => exact Bool.not_eq_true _ ▸ hstopped

theorem layer?_setFollowing (v : TranscriptView) (t : Transcript) (following : Bool)
    (kind : HighlightKind) : (v.setFollowing t following).layer? kind = v.layer? kind := by
  rw [setFollowing]
  split
  · exact ((v.moveBy (·.follow)).renders_measure t).layer?_eq kind
  · cases kind <;> rfl

theorem highlights_setHighlight (v : TranscriptView) (kind other : HighlightKind)
    (spans : List RenderedSpan) :
    (v.setHighlight kind spans).highlights other =
      if other = kind then spans else v.highlights other := by
  cases kind <;> cases other <;> rfl

theorem highlights_clearHighlight (v : TranscriptView) (kind other : HighlightKind) :
    (v.clearHighlight kind).highlights other =
      if other = kind then [] else v.highlights other := by
  unfold clearHighlight
  split
  · next hnone =>
      split
      · next hkind => rw [hkind, highlights, Option.isNone_iff_eq_none.mp hnone, Option.getD_none]
      · rfl
  · cases kind <;> cases other <;> rfl

theorem StandsLike.isAtBottom_eq {v after : TranscriptView} (h : v.StandsLike after) :
    after.isAtBottom = v.isAtBottom := by
  have hmax : after.scroll.maxOffset v.height = v.scroll.maxOffset v.height := by
    rw [ScrollState.maxOffset, ScrollState.maxOffset, ScrollState.totalLines,
      ScrollState.totalLines, h.heights_eq]
  rw [isAtBottom, isAtBottom, ScrollState.isAtBottom, ScrollState.isAtBottom, h.height_eq, hmax,
    h.offset_eq]

end TranscriptView

namespace ScreenSurface

/-- Whether a surface shows a transcript and its view has taken up the present epoch. -/
structure IsCurrent (s : ScreenSurface) (t : Transcript) : Prop where
  reachable : TranscriptView.Reachable t s.view
  epoch_eq : s.view.epoch = t.epoch

namespace IsCurrent

variable {s after : ScreenSurface} {t : Transcript}

theorem windowIsMeasured (h : s.IsCurrent t) : s.view.WindowIsMeasured :=
  h.reachable.isMeasuredFor h.epoch_eq

theorem step (h : s.IsCurrent t) (step : ViewStep) (hstep : step.nextTranscript t = t)
    (hview : after.view = step.nextView t s.view) (hepoch : after.view.epoch = s.view.epoch) :
    after.IsCurrent t := by
  have hreachable := TranscriptView.Reachable.step step h.reachable
  rw [hstep, ← hview] at hreachable
  exact ⟨hreachable, hepoch.trans h.epoch_eq⟩

theorem scrollTo (h : s.IsCurrent t) (index : Nat) (align : ScrollAlign) :
    (RenderSurface.scrollTo s t index align).IsCurrent t := by
  refine h.step (.scrollToItem index align) rfl rfl ?_
  change (s.view.scrollToItem t index align).epoch = s.view.epoch
  rw [TranscriptView.scrollToItem]
  split
  · exact (TranscriptView.renders_measure _ t).epoch_eq
  · rfl

theorem setFollowing (h : s.IsCurrent t) (following : Bool) :
    (RenderSurface.setFollowing s t following).IsCurrent t := by
  refine h.step (.setFollowing following) rfl rfl ?_
  change (s.view.setFollowing t following).epoch = s.view.epoch
  rw [TranscriptView.setFollowing]
  split
  · exact (TranscriptView.renders_measure _ t).epoch_eq
  · rfl

theorem alike (h : s.IsCurrent t) (hstands : s.view.StandsLike after.view) :
    AnswersAlike t s after where
  locate_eq := fst_locate_eq (.of_standsLike hstands t) h.windowIsMeasured
  visibleOccurrences_eq := fst_visibleOccurrences_eq (.of_standsLike hstands t) h.windowIsMeasured
  isAtBottom_eq := hstands.isAtBottom_eq

end IsCurrent

instance : SteadySurface ScreenSurface where
  Shows := IsCurrent
  layer s := s.view.highlights
  occurrenceCount_eq h := ScreenSurface.occurrenceCount_eq h.windowIsMeasured
  locate_eq h := ScreenSurface.locate_eq h.windowIsMeasured
  visibleOccurrences_eq h := ScreenSurface.visibleOccurrences_eq h.windowIsMeasured
  shows_scrollTo h := h.scrollTo
  shows_setProgrammatic h programmatic := h.step (.setProgrammatic programmatic) rfl rfl rfl
  shows_setFollowing h := h.setFollowing
  shows_applyHighlight h kind spans := h.step (.setHighlight kind spans) rfl rfl
    (TranscriptView.StandsLike.setHighlight _ kind spans).epoch_eq
  shows_clearHighlight h kind := h.step (.clearHighlight kind) rfl rfl
    (TranscriptView.StandsLike.clearHighlight _ kind).epoch_eq
  alike_setFollowing {s t} h hbottom := by
    have hstands : s.view.StandsLike (s.view.setFollowing t true) :=
      .setFollowing h.windowIsMeasured (fun _ => hbottom) t
    exact h.alike hstands
  alike_applyHighlight h kind spans := h.alike (.setHighlight _ kind spans)
  alike_clearHighlight h kind := h.alike (.clearHighlight _ kind)
  isFollowing_setFollowing s := s.view.isFollowing_setFollowing
  isFollowing_applyHighlight _ kind _ := by cases kind <;> rfl
  isFollowing_clearHighlight s kind := by
    change (s.view.clearHighlight kind).isFollowing = s.view.isFollowing
    unfold TranscriptView.clearHighlight
    split
    · rfl
    · cases kind <;> rfl
  layer_applyHighlight s := s.view.highlights_setHighlight
  layer_clearHighlight s := s.view.highlights_clearHighlight
  layer_setFollowing s t following kind :=
    congrArg (·.getD []) (s.view.layer?_setFollowing t following kind)
  layer_setProgrammatic _ _ kind := by cases kind <;> rfl

end ScreenSurface

namespace AnswersAlike

variable {σ : Type} [RenderSurface σ] {t : Transcript} {s after last : σ}

theorem refl (t : Transcript) (s : σ) : AnswersAlike t s s :=
  ⟨fun _ _ _ => rfl, fun _ _ => rfl, rfl⟩

theorem trans (h : AnswersAlike t s after) (h' : AnswersAlike t after last) :
    AnswersAlike t s last where
  locate_eq itemId term n := (h'.locate_eq itemId term n).trans (h.locate_eq itemId term n)
  visibleOccurrences_eq term limit :=
    (h'.visibleOccurrences_eq term limit).trans (h.visibleOccurrences_eq term limit)
  isAtBottom_eq := h'.isAtBottom_eq.trans h.isAtBottom_eq

end AnswersAlike

namespace SteadySurface

variable {σ : Type} [RenderSurface σ] [SteadySurface σ] {s : σ} {t : Transcript}

theorem shows_ensureVisible (h : Shows s t) (index : Nat) (cancelled : Bool) :
    Shows (ensureVisible s t index cancelled).2 t := by
  have hscrolled : Shows (scrollTo (setProgrammatic s true) t index .center) t :=
    shows_scrollTo (shows_setProgrammatic h true) index .center
  rw [ensureVisible]
  split
  · exact h
  · split
    · exact h
    · simp only
      split
      · exact shows_setProgrammatic hscrolled false
      · exact hscrolled

theorem shows_land (h : Shows s t) (kept : Option KeptCounts) (term : String) (live : Bool)
    (index occurrence : Nat) : Shows (land t kept term live s index occurrence).2 t := by
  refine land_keeps (P := fun s : σ => Shows s t) ?_ ?_ ?_ kept live h index occurrence
  · intro s itemId h
    rw [occurrenceCount_eq h]
    exact h
  · intro s itemId n h
    rw [locate_eq h]
    exact h
  · intro s index cancelled h
    exact shows_ensureVisible h index cancelled

theorem shows_approach (h : Shows s t) (kept : Option KeptCounts) (term : String)
    (index occurrence : Nat) : Shows (approach t kept term s index occurrence).2 t := by
  have hvisible := shows_ensureVisible h index false
  rw [approach]
  split
  · next how seen hseen =>
      rw [hseen] at hvisible
      exact shows_land hvisible kept term true index occurrence
  · next seen hseen =>
      rw [hseen] at hvisible
      exact hvisible

theorem refresh_eq_paint (h : Shows s t) {highlighting : Highlighting} {term : String}
    (hterm : highlighting.term = some term) (limit : Nat) :
    highlighting.refresh s t limit =
      match highlighting.anchor.bind fun anchor => (locate s t anchor.1 term anchor.2).1 with
      | some span =>
        applyHighlight (applyHighlight s .all (visibleOccurrences s t term limit).1)
          .current [span]
      | none =>
        clearHighlight (applyHighlight s .all (visibleOccurrences s t term limit).1)
          .current := by
  rcases highlighting with ⟨_, _ | ⟨itemId, occurrence⟩, seen⟩
  · obtain rfl : _ = some term := hterm
    simp only [Highlighting.refresh, visibleOccurrences_eq h]
    rfl
  · obtain rfl : _ = some term := hterm
    -- The current occurrence is looked up when the other ones are painted already.
    have hpainted := shows_applyHighlight h .all (visibleOccurrences s t term limit).1
    have halike := alike_applyHighlight h .all (visibleOccurrences s t term limit).1
    have hlocated : locate (applyHighlight s .all (visibleOccurrences s t term limit).1) t itemId
        term occurrence = ((locate s t itemId term occurrence).1,
          applyHighlight s .all (visibleOccurrences s t term limit).1) :=
      Prod.ext (halike.locate_eq itemId term occurrence)
        (locate_eq hpainted itemId term occurrence)
    simp only [Highlighting.refresh, visibleOccurrences_eq h, hlocated, Option.bind_some]
    cases (locate s t itemId term occurrence).1 <;> rfl

theorem alike_refresh (h : Shows s t) (highlighting : Highlighting) (limit : Nat) :
    AnswersAlike t s (highlighting.refresh s t limit) := by
  cases hterm : highlighting.term with
  | none =>
      rw [Highlighting.refresh, hterm]
      exact .refl t s
  | some term =>
      rw [refresh_eq_paint h hterm]
      have hpainted := shows_applyHighlight h .all (visibleOccurrences s t term limit).1
      have halike := alike_applyHighlight h .all (visibleOccurrences s t term limit).1
      split
      · exact halike.trans (alike_applyHighlight hpainted .current _)
      · exact halike.trans (alike_clearHighlight hpainted .current)

theorem shows_refresh (h : Shows s t) (highlighting : Highlighting) (limit : Nat) :
    Shows (highlighting.refresh s t limit) t := by
  cases hterm : highlighting.term with
  | none =>
      rw [Highlighting.refresh, hterm]
      exact h
  | some term =>
      rw [refresh_eq_paint h hterm]
      have hpainted := shows_applyHighlight h .all (visibleOccurrences s t term limit).1
      split
      · exact shows_applyHighlight hpainted .current _
      · exact shows_clearHighlight hpainted .current

theorem isFollowing_refresh (h : Shows s t) (highlighting : Highlighting) (limit : Nat) :
    isFollowing (highlighting.refresh s t limit) = isFollowing s := by
  cases hterm : highlighting.term with
  | none => rw [Highlighting.refresh, hterm]
  | some term =>
      rw [refresh_eq_paint h hterm]
      split <;> simp

end SteadySurface

namespace FindPanel

open SteadySurface

variable {σ : Type} [RenderSurface σ] [SteadySurface σ] {p : FindPanel σ}

theorem shows_suppressFollowing (h : Shows p.surface p.transcript) :
    Shows p.suppressFollowing.surface p.transcript := by
  simp only [suppressFollowing, FollowHold.suppress]
  split
  · exact h
  · split
    · exact shows_setFollowing h false
    · exact h

theorem shows_restoreFollowing (h : Shows p.surface p.transcript) :
    Shows p.restoreFollowing.surface p.transcript := by
  simp only [restoreFollowing, FollowHold.restore]
  split
  · exact shows_setFollowing h true
  · exact h

theorem alike_restoreFollowing (h : Shows p.surface p.transcript) :
    AnswersAlike p.transcript p.surface p.restoreFollowing.surface := by
  simp only [restoreFollowing, FollowHold.restore]
  split
  · next hrestores => exact alike_setFollowing h hrestores.2
  · exact .refl p.transcript p.surface

theorem layer_restoreFollowing (p : FindPanel σ) (kind : HighlightKind) :
    layer p.restoreFollowing.surface kind = layer p.surface kind := by
  simp only [restoreFollowing, FollowHold.restore]
  split
  · exact layer_setFollowing p.surface p.transcript true kind
  · rfl

end FindPanel

end TranscriptSearch
