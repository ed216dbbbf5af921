import TranscriptSearch.Proofs.Find.LandingRounds
import TranscriptSearch.Proofs.Find.PanelRuns

namespace TranscriptSearch

open RenderSurface

/-- A request to a surface that may change what is seen. -/
inductive SurfaceCall where
  | scrollTo (index : Nat) (align : ScrollAlign)
  | applyHighlight (kind : HighlightKind) (spans : List RenderedSpan)
  | clearHighlight (kind : HighlightKind)
  | setFollowing (following : Bool)
  | setProgrammatic (programmatic : Bool)
deriving DecidableEq

/-- A surface with the requests it has got so far. -/
structure Recorded (σ : Type) where
  surface : σ
  calls : List SurfaceCall

instance {σ : Type} [RenderSurface σ] : RenderSurface (Recorded σ) where
  window s := window s.surface
  announcedWindow s := announcedWindow s.surface
  windowVersion s := windowVersion s.surface
  layoutVersion s := layoutVersion s.surface
  scrollTo s t index align :=
    ⟨scrollTo s.surface t index align, s.calls ++ [.scrollTo index align]⟩
  occurrenceCount s t id term :=
    ((occurrenceCount s.surface t id term).1,
      ⟨(occurrenceCount s.surface t id term).2, s.calls⟩)
  locate s t id term n :=
    ((locate s.surface t id term n).1, ⟨(locate s.surface t id term n).2, s.calls⟩)
  visibleOccurrences s t term limit :=
    ((visibleOccurrences s.surface t term limit).1,
      ⟨(visibleOccurrences s.surface t term limit).2, s.calls⟩)
  applyHighlight s kind spans :=
    ⟨applyHighlight s.surface kind spans, s.calls ++ [.applyHighlight kind spans]⟩
  clearHighlight s kind := ⟨clearHighlight s.surface kind, s.calls ++ [.clearHighlight kind]⟩
  isFollowing s := isFollowing s.surface
  setFollowing s t following :=
    ⟨setFollowing s.surface t following, s.calls ++ [.setFollowing following]⟩
  isAtBottom s t := isAtBottom s.surface t
  setProgrammatic s programmatic :=
    ⟨setProgrammatic s.surface programmatic, s.calls ++ [.setProgrammatic programmatic]⟩

variable {σ : Type} [RenderSurface σ]

namespace Recorded

theorem occurrenceCount_surface (s : Recorded σ) (t : Transcript) (itemId term : String) :
    occurrenceCount s.surface t itemId term =
      ((occurrenceCount s t itemId term).1, (occurrenceCount s t itemId term).2.surface) := rfl

theorem locate_surface (s : Recorded σ) (t : Transcript) (itemId term : String) (n : Nat) :
    locate s.surface t itemId term n =
      ((locate s t itemId term n).1, (locate s t itemId term n).2.surface) := rfl

theorem ensureVisible_surface (s : Recorded σ) (t : Transcript) (index : Nat) (cancelled : Bool) :
    ensureVisible s.surface t index cancelled =
      ((ensureVisible s t index cancelled).1, (ensureVisible s t index cancelled).2.surface) := by
  have hwindow : window s = window s.surface := rfl
  have hannounced : announcedWindow (scrollTo (setProgrammatic s true) t index .center) =
      announcedWindow (scrollTo (setProgrammatic s.surface true) t index .center) := rfl
  simp only [ensureVisible, hwindow, hannounced]
  split
  · rfl
  · split
    · rfl
    · split <;> rfl

theorem land_surface (t : Transcript) (kept : Option KeptCounts) (term : String) (live : Bool)
    (s : Recorded σ) (index occurrence : Nat) :
    land t kept term live s.surface index occurrence =
      ((land t kept term live s index occurrence).1,
        (land t kept term live s index occurrence).2.surface) := by
  fun_induction land t kept term live s index occurrence with
  | case1 s index occurrence hitem => rw [land_eq, hitem]
  | case2 s index occurrence item hitem shown counted hcount hle span located hlocate =>
      rw [land_eq, hitem]
      simp only [occurrenceCount_surface, hcount, if_pos hle, locate_surface, hlocate]
  | case3 s index occurrence item hitem shown counted hcount hle located hlocate =>
      rw [land_eq, hitem]
      simp only [occurrenceCount_surface, hcount, if_pos hle, locate_surface, hlocate]
  | case4 s index occurrence item hitem shown counted hcount hgt hnext =>
      rw [land_eq, hitem]
      simp only [occurrenceCount_surface, hcount, if_neg hgt, hnext]
  | case5 s index occurrence item hitem shown counted hcount hgt next hnext seen hseen =>
      rw [land_eq, hitem]
      simp only [occurrenceCount_surface, hcount, if_neg hgt, hnext, ensureVisible_surface, hseen]
  | case6 s index occurrence item hitem shown counted hcount hgt next hnext how seen
    hhow hseen ih =>
      rw [land_eq, hitem]
      simp only [occurrenceCount_surface, hcount, if_neg hgt, hnext, ensureVisible_surface, hseen]
      exact ih
  | case7 s index occurrence item hitem shown counted hcount hgt next hnext seen hseen =>
      rw [land_eq, hitem]
      simp only [occurrenceCount_surface, hcount, if_neg hgt, hnext, ensureVisible_surface, hseen]

theorem approach_surface (t : Transcript) (kept : Option KeptCounts) (term : String)
    (s : Recorded σ) (index occurrence : Nat) :
    approach t kept term s.surface index occurrence =
      ((approach t kept term s index occurrence).1,
        (approach t kept term s index occurrence).2.surface) := by
  rw [approach, approach, ensureVisible_surface]
  rcases ensureVisible s t index false with ⟨_ | how, seen⟩
  · rfl
  · exact land_surface t kept term true seen index occurrence

theorem refresh_surface (h : Highlighting) (s : Recorded σ) (t : Transcript) (limit : Nat) :
    h.refresh s.surface t limit = (h.refresh s t limit).surface := by
  rcases h with ⟨_ | term, _ | ⟨itemId, occurrence⟩, seen⟩
  · rfl
  · rfl
  · rfl
  · rw [Highlighting.refresh, Highlighting.refresh]
    simp only
    generalize hpainted : applyHighlight (visibleOccurrences s t term limit).2 .all
      (visibleOccurrences s t term limit).1 = painted
    have hsurface : applyHighlight (visibleOccurrences s.surface t term limit).2 .all
        (visibleOccurrences s.surface t term limit).1 = painted.surface := by
      rw [← hpainted]
      rfl
    rw [hsurface, locate_surface]
    rcases locate painted t itemId term occurrence with ⟨_ | span, located⟩
    · rfl
    · rfl

theorem restore_surface (hold : FollowHold) (s : Recorded σ) (t : Transcript) :
    hold.restore s.surface t =
      ((hold.restore s t).1, (hold.restore s t).2.1, (hold.restore s t).2.2.surface) := by
  have hbottom : isAtBottom s t = isAtBottom s.surface t := rfl
  simp only [FollowHold.restore, hbottom]
  split <;> rfl

theorem suppress_surface (hold : FollowHold) (s : Recorded σ) (t : Transcript) :
    hold.suppress s.surface t = ((hold.suppress s t).1, (hold.suppress s t).2.surface) := by
  have hfollowing : isFollowing s = isFollowing s.surface := rfl
  simp only [FollowHold.suppress, hfollowing]
  split
  · rfl
  · split <;> rfl

theorem put_surface (h : Highlighting) (s : Recorded σ) (t : Transcript) (limit : Nat)
    (term : String) (anchor : Option (String × Nat)) :
    h.put s.surface t limit term anchor =
      ((h.put s t limit term anchor).1, (h.put s t limit term anchor).2.surface) := by
  simp only [Highlighting.put, refresh_surface]
  rfl

end Recorded

namespace FindPanel

/-- The panel without the record. -/
def forget (p : FindPanel (Recorded σ)) : FindPanel σ :=
  ⟨p.transcript, p.surface.surface, p.settings, p.kept, p.tickets, p.hold, p.highlighting,
    p.unmounted⟩

/-- The panel with a record of its own, which is empty. -/
def recorded (p : FindPanel σ) : FindPanel (Recorded σ) :=
  ⟨p.transcript, ⟨p.surface, []⟩, p.settings, p.kept, p.tickets, p.hold, p.highlighting,
    p.unmounted⟩

variable (p : FindPanel (Recorded σ))

theorem forget_restoreFollowing : p.forget.restoreFollowing = p.restoreFollowing.forget := by
  simp only [restoreFollowing, forget, Recorded.restore_surface]

theorem forget_suppressFollowing : p.forget.suppressFollowing = p.suppressFollowing.forget := by
  simp only [suppressFollowing, forget, Recorded.suppress_surface]

theorem forget_highlightTarget (term : String) (target : MatchTarget) :
    p.forget.highlightTarget term target = (p.highlightTarget term target).forget := by
  simp only [highlightTarget, Highlighting.showTarget, forget, Recorded.put_surface]

theorem forget_highlightTerm (term : String) :
    p.forget.highlightTerm term = (p.highlightTerm term).forget := by
  have hcleared : clearHighlight p.surface.surface .current =
      (clearHighlight p.surface .current).surface := rfl
  simp only [highlightTerm, Highlighting.showTerm, forget, hcleared, Recorded.put_surface]

theorem forget_watch : p.forget.watch = p.watch.forget := by
  have hversions : versions p.surface.surface = versions p.surface := rfl
  simp only [watch, Highlighting.watch, forget, hversions, Recorded.refresh_surface]
  split <;> rfl

theorem forget_conclude (term : String) (ticket : Nat) (outcome : NavOutcome) :
    p.forget.conclude term ticket outcome =
      ((p.conclude term ticket outcome).1, (p.conclude term ticket outcome).2.forget) := by
  have htickets : p.forget.tickets = p.tickets := rfl
  simp only [conclude, htickets]
  split
  · rw [forget_restoreFollowing]
    cases outcome with
    | found target => exact Prod.ext rfl (forget_highlightTarget _ _ _)
    | notFound reason => exact Prod.ext rfl (forget_highlightTerm _ _)
    | superseded => rfl
  · rfl

theorem forget_advance (term : String) (ticket : Nat) (landing : Landing) (s : Recorded σ) :
    p.forget.advance term ticket (landing, s.surface) =
      ((p.advance term ticket (landing, s)).1,
        (p.advance term ticket (landing, s)).2.forget) := by
  cases landing with
  | done outcome =>
      have hconclude := forget_conclude { p with surface := s } term ticket outcome
      exact congrArg
        (fun concluded : NavOutcome × FindPanel σ => (Progress.done concluded.1, concluded.2))
        hconclude
  | waiting index occurrence => rfl

theorem forget_goTo (term : String) (n : Nat) :
    p.forget.goTo term n = ((p.goTo term n).1, (p.goTo term n).2.forget) := by
  simp only [goTo]
  generalize hcounted : FindPanel.count { p with tickets := p.tickets.issue.2 } term = counted
  have hforget : FindPanel.count { p.forget with tickets := p.forget.tickets.issue.2 } term =
      (counted.1, counted.2.forget) := by
    rw [← hcounted]
    rfl
  have hunmounted : p.forget.unmounted = p.unmounted := rfl
  rw [hforget]
  simp only [hunmounted]
  split
  · rfl
  · split
    · exact Prod.ext rfl (forget_restoreFollowing _)
    · have hlocate : counted.2.forget.transcript.locate? counted.2.forget.kept term n =
          counted.2.transcript.locate? counted.2.kept term n := rfl
      rw [hlocate]
      cases counted.2.transcript.locate? counted.2.kept term n with
      | none => exact Prod.ext rfl (forget_restoreFollowing _)
      | some location =>
          simp only
          rw [forget_suppressFollowing]
          have happroach := Recorded.approach_surface counted.2.suppressFollowing.transcript
            counted.2.suppressFollowing.kept term counted.2.suppressFollowing.surface
              location.item
            location.occurrence
          refine Eq.trans ?_ (forget_advance _ _ _ _ _)
          exact congrArg _ happroach

theorem forget_resume (wait : Waiting) :
    p.forget.resume wait = ((p.resume wait).1, (p.resume wait).2.forget) := by
  have htickets : p.forget.tickets = p.tickets := rfl
  simp only [resume, htickets]
  split
  · have hland := Recorded.land_surface p.transcript p.kept wait.term true (endScroll p.surface)
      wait.index wait.occurrence
    refine Eq.trans ?_ (forget_advance _ _ _ _ _)
    exact congrArg _ hland
  · rfl

theorem forget_clear : p.forget.clear = p.clear.forget := by
  rw [clear, clear]
  exact forget_restoreFollowing { p with
    tickets := p.tickets.cancelAll
    highlighting := .none
    surface := clearHighlight (clearHighlight p.surface .all) .current }

end FindPanel

namespace PanelStep

/-- The same step where requests are recorded.  The surface moves without being asked to. -/
def recorded {σ : Type} : PanelStep σ → PanelStep (Recorded σ)
  | .start term n => .start term n
  | .resume number => .resume number
  | .clear => .clear
  | .unmount => .unmount
  | .highlightTerm term => .highlightTerm term
  | .watch => .watch
  | .moveSurface move => .moveSurface fun s => { s with surface := move s.surface }
  | .setTranscript t => .setTranscript t

end PanelStep

namespace PanelRun

/-- The run after some steps, with their requests recorded. -/
def record (r : PanelRun (Recorded σ)) (steps : List (PanelStep σ)) : PanelRun (Recorded σ) :=
  r.run (steps.map .recorded)

/-- The run without the record. -/
def forget (r : PanelRun (Recorded σ)) : PanelRun σ :=
  ⟨r.panel.forget, r.navigations⟩

theorem forget_next (r : PanelRun (Recorded σ)) (step : PanelStep σ) :
    (r.next step.recorded).forget = r.forget.next step := by
  cases step with
  | start term n =>
      change _ = PanelRun.mk (r.panel.forget.goTo term n).2
        (r.navigations ++ [(r.panel.forget.goTo term n).1])
      rw [FindPanel.forget_goTo]
      rfl
  | resume number =>
      have hnavigations : r.forget.navigations = r.navigations := rfl
      simp only [PanelStep.recorded, next, hnavigations]
      split
      · next wait _ =>
          change _ = PanelRun.mk (r.panel.forget.resume wait).2
            (r.navigations.set number (r.panel.forget.resume wait).1)
          rw [FindPanel.forget_resume]
          rfl
      · rfl
  | clear =>
      change _ = PanelRun.mk r.panel.forget.clear r.navigations
      rw [FindPanel.forget_clear]
      rfl
  | unmount =>
      have hclear := FindPanel.forget_clear { r.panel with unmounted := true }
      exact congrArg (PanelRun.mk · r.navigations) hclear.symm
  | highlightTerm term =>
      exact congrArg (PanelRun.mk · r.navigations) (r.panel.forget_highlightTerm term).symm
  | watch => exact congrArg (PanelRun.mk · r.navigations) r.panel.forget_watch.symm
  | moveSurface move => rfl
  | setTranscript t => rfl

theorem forget_record (r : PanelRun (Recorded σ)) (steps : List (PanelStep σ)) :
    (r.record steps).forget = r.forget.run steps := by
  induction steps generalizing r with
  | nil => rfl
  | cons step steps ih =>
      have hnext := ih (r.next step.recorded)
      rw [forget_next] at hnext
      exact hnext

end PanelRun

end TranscriptSearch
