import TranscriptSearch.Proofs.Screen.LaidOut
import TranscriptSearch.Proofs.Screen.ScreenSearch

namespace TranscriptSearch

open RenderSurface

/-- A change of the transcript, or something that is done with a surface. -/
inductive SurfaceStep where
  /-- An operation of the view that is announced, or a change of the transcript, which the surface
  does not know of. -/
  | update (step : ViewStep)
  | scrollTo (index : Nat) (align : ScrollAlign)
  | setFollowing (following : Bool)
  | setProgrammatic (programmatic : Bool)
  | occurrenceCount (itemId term : String)
  | locate (itemId term : String) (n : Nat)
  | visibleOccurrences (term : String) (limit : Nat)
  | applyHighlight (kind : HighlightKind) (spans : List RenderedSpan)
  | clearHighlight (kind : HighlightKind)
  | draw

namespace SurfaceStep

/-- The surface after a step. -/
def next (t : Transcript) (s : ScreenSurface) : SurfaceStep → ScreenSurface
  | .update (.append _) => s
  | .update .reset => s
  | .update step => s.update (step.nextView t s.view)
  | .scrollTo index align => RenderSurface.scrollTo s t index align
  | .setFollowing following => RenderSurface.setFollowing s t following
  | .setProgrammatic programmatic => RenderSurface.setProgrammatic s programmatic
  | .occurrenceCount itemId term => (RenderSurface.occurrenceCount s t itemId term).2
  | .locate itemId term n => (RenderSurface.locate s t itemId term n).2
  | .visibleOccurrences term limit => (RenderSurface.visibleOccurrences s t term limit).2
  | .applyHighlight kind spans => RenderSurface.applyHighlight s kind spans
  | .clearHighlight kind => RenderSurface.clearHighlight s kind
  | .draw => { s with view := (s.view.screenRows t).2 }

/-- What a step is to the view, unless it is a question or drawing. -/
def viewStep? : SurfaceStep → Option ViewStep
  | .update step => some step
  | .scrollTo index align => some (.scrollToItem index align)
  | .setFollowing following => some (.setFollowing following)
  | .setProgrammatic programmatic => some (.setProgrammatic programmatic)
  | .applyHighlight kind spans => some (.setHighlight kind spans)
  | .clearHighlight kind => some (.clearHighlight kind)
  | _ => none

/-- Whether a step does not announce what becomes of the view. -/
def IsUnannounced : SurfaceStep → Prop
  | .update _ => False
  | .scrollTo .. => False
  | .setFollowing _ => False
  | _ => True

/-- Whether a step moves the viewport, asks the view for rows or calls for other ones. -/
def IsOperation (step : SurfaceStep) : Prop :=
  step.viewStep?.elim False ViewStep.IsOperation

/-- Whether a step paints highlights or takes them away. -/
def Paints (step : SurfaceStep) : Prop :=
  step.viewStep?.elim False ViewStep.Paints

/-- The transcript after a step. -/
def nextTranscript (t : Transcript) (step : SurfaceStep) : Transcript :=
  step.viewStep?.elim t (·.nextTranscript t)

/-- Whether the view has something to take up after a step, if `behind` says whether it had
before. -/
def leavesBehind (behind : Bool) (step : SurfaceStep) : Bool :=
  step.viewStep?.elim behind (·.leavesBehind behind)

end SurfaceStep

namespace ScreenSurface

variable {s after last : ScreenSurface}

/-- Whether the announced window and layout are those of the view. -/
structure IsAnnounced (s : ScreenSurface) : Prop where
  window_eq : s.window = s.view.window
  generation_eq : s.generation = s.view.generation

/-- Whether the window and the layout of a surface are the same as before, and nothing was
announced. -/
structure StaysAnnounced (s after : ScreenSurface) : Prop where
  viewWindow_eq : after.view.window = s.view.window
  viewGeneration_eq : after.view.generation = s.view.generation
  window_eq : after.window = s.window
  generation_eq : after.generation = s.generation
  versions_eq : versions after = versions s

theorem StaysAnnounced.refl (s : ScreenSurface) : s.StaysAnnounced s :=
  ⟨rfl, rfl, rfl, rfl, rfl⟩

theorem StaysAnnounced.isAnnounced (h : s.StaysAnnounced after) (hbefore : s.IsAnnounced) :
    after.IsAnnounced :=
  ⟨h.window_eq.trans (hbefore.window_eq.trans h.viewWindow_eq.symm),
    h.generation_eq.trans (hbefore.generation_eq.trans h.viewGeneration_eq.symm)⟩

/-- Whether all that was announced between two states of a surface got a later version, if it was
news. -/
structure AnnouncesNews (s after : ScreenSurface) : Prop where
  windowVersion_le : s.windowVersion ≤ after.windowVersion
  layoutVersion_le : s.layoutVersion ≤ after.layoutVersion
  window_eq : after.windowVersion = s.windowVersion → after.window = s.window
  generation_eq : after.layoutVersion = s.layoutVersion → after.generation = s.generation

namespace AnnouncesNews

theorem refl (s : ScreenSurface) : s.AnnouncesNews s :=
  ⟨Nat.le_refl _, Nat.le_refl _, fun _ => rfl, fun _ => rfl⟩

theorem trans (h : s.AnnouncesNews after) (h' : after.AnnouncesNews last) :
    s.AnnouncesNews last where
  windowVersion_le := Nat.le_trans h.windowVersion_le h'.windowVersion_le
  layoutVersion_le := Nat.le_trans h.layoutVersion_le h'.layoutVersion_le
  window_eq hversion := by
    -- A version that is the same at last was the same in between.
    have hbefore := h.windowVersion_le
    have hafter := h'.windowVersion_le
    exact (h'.window_eq (by omega)).trans (h.window_eq (by omega))
  generation_eq hversion := by
    have hbefore := h.layoutVersion_le
    have hafter := h'.layoutVersion_le
    exact (h'.generation_eq (by omega)).trans (h.generation_eq (by omega))

theorem version_le_and_eq {α : Type} [DecidableEq α] (version : Nat) (old new : α) :
    version ≤ (if old = new then version else version + 1) ∧
      ((if old = new then version else version + 1) = version → new = old) := by
  split
  · next hsame => exact ⟨Nat.le_refl _, fun _ => hsame.symm⟩
  · exact ⟨Nat.le_succ _, fun hversion => absurd hversion (Nat.succ_ne_self _)⟩

theorem update (s : ScreenSurface) (view : TranscriptView) : s.AnnouncesNews (s.update view) := by
  have hwindow := version_le_and_eq s.windowVersion s.window view.window
  have hlayout := version_le_and_eq s.layoutVersion s.generation view.generation
  exact ⟨hwindow.1, hlayout.1, hwindow.2, hlayout.2⟩

end AnnouncesNews

theorem StaysAnnounced.announcesNews (h : s.StaysAnnounced after) : s.AnnouncesNews after := by
  obtain ⟨hwindow, hlayout⟩ := Prod.mk.inj h.versions_eq
  exact ⟨Nat.le_of_eq hwindow.symm, Nat.le_of_eq hlayout.symm, fun _ => h.window_eq,
    fun _ => h.generation_eq⟩

theorem staysAnnounced_of_paints (s : ScreenSurface) (t : Transcript) (step : ViewStep)
    (h : step.Paints) : s.StaysAnnounced { s with view := step.nextView t s.view } := by
  cases step with
  | setHighlight kind spans => cases kind <;> exact ⟨rfl, rfl, rfl, rfl, rfl⟩
  | clearHighlight kind =>
      change s.StaysAnnounced { s with view := s.view.clearHighlight kind }
      unfold TranscriptView.clearHighlight
      split
      · exact .refl s
      · cases kind <;> exact ⟨rfl, rfl, rfl, rfl, rfl⟩
  | _ => exact False.elim h

end ScreenSurface

namespace SurfaceStep

open ScreenSurface

variable {t : Transcript} {s : ScreenSurface} {step : SurfaceStep}

theorem next_eq_self (h : s.view.WindowIsMeasured) (hstep : step.viewStep? = none) :
    step.next t s = s := by
  cases step with
  | occurrenceCount itemId term => exact occurrenceCount_eq h itemId term
  | locate itemId term n => exact locate_eq h itemId term n
  | visibleOccurrences term limit => exact visibleOccurrences_eq h term limit
  | draw => exact congrArg (fun view => { s with view }) (h.screenRows_eq t)
  | _ => simp [viewStep?] at hstep

theorem view_next {viewStep : ViewStep} (hstep : step.viewStep? = some viewStep) (t : Transcript)
    (s : ScreenSurface) : (step.next t s).view = viewStep.nextView t s.view := by
  cases step with
  | update step =>
      obtain rfl := Option.some.inj hstep
      cases step <;> rfl
  | _ => cases hstep <;> rfl

theorem extends_nextTranscript (step : SurfaceStep) (t : Transcript) :
    (step.nextTranscript t).Extends t := by
  rw [nextTranscript]
  cases step.viewStep? with
  | none => exact .refl t
  | some viewStep => exact viewStep.extends_nextTranscript t

theorem staysAnnounced_next (h : s.view.WindowIsMeasured) (hstep : step.IsUnannounced)
    (t : Transcript) : s.StaysAnnounced (step.next t s) := by
  by_cases hview : step.viewStep? = none
  · rw [next_eq_self h hview]
    exact .refl s
  · cases step with
    | update step => exact False.elim hstep
    | scrollTo index align => exact False.elim hstep
    | setFollowing following => exact False.elim hstep
    | setProgrammatic programmatic => exact ⟨rfl, rfl, rfl, rfl, rfl⟩
    | applyHighlight kind spans =>
        exact s.staysAnnounced_of_paints t (.setHighlight kind spans) trivial
    | clearHighlight kind =>
        exact s.staysAnnounced_of_paints t (.clearHighlight kind) trivial
    | _ => exact absurd rfl hview

theorem staysAnnounced_or_update (h : s.view.WindowIsMeasured) (t : Transcript)
    (step : SurfaceStep) :
    s.StaysAnnounced (step.next t s) ∨ ∃ view, step.next t s = s.update view := by
  by_cases hstep : step.IsUnannounced
  · exact .inl (staysAnnounced_next h hstep t)
  · cases step with
    | update step =>
        cases step with
        | append sources => exact .inl (.refl s)
        | reset => exact .inl (.refl s)
        | _ => exact .inr ⟨_, rfl⟩
    | scrollTo index align => exact .inr ⟨_, rfl⟩
    | setFollowing following => exact .inr ⟨_, rfl⟩
    | _ => exact absurd trivial hstep

theorem announcesNews_next (h : s.view.WindowIsMeasured) (t : Transcript) (step : SurfaceStep) :
    s.AnnouncesNews (step.next t s) := by
  rcases staysAnnounced_or_update h t step with hstays | ⟨view, hnext⟩
  · exact hstays.announcesNews
  · rw [hnext]
    exact .update s view

theorem isAnnounced_next (h : s.view.WindowIsMeasured) (hbefore : s.IsAnnounced) (t : Transcript)
    (step : SurfaceStep) : (step.next t s).IsAnnounced := by
  rcases staysAnnounced_or_update h t step with hstays | ⟨view, hnext⟩
  · exact hstays.isAnnounced hbefore
  · rw [hnext]
    exact ⟨rfl, rfl⟩

end SurfaceStep

namespace ScreenSurface

variable {behind : Bool} {t : Transcript} {s : ScreenSurface}

/-- The surfaces that a transcript comes to be shown on when what happens to it is taken up before
anything else is done that could move the window.  The first argument says whether there is
something to take up. -/
inductive KeepsUp : Bool → Transcript → ScreenSurface → Prop
  | new {behind : Bool} {t : Transcript} {v : TranscriptView} :
      TranscriptView.KeepsUp behind t v → KeepsUp behind t (.new v)
  | step {behind : Bool} {t : Transcript} {s : ScreenSurface} (step : SurfaceStep)
      (hstep : behind = true → ¬ step.IsOperation) :
      KeepsUp behind t s →
        KeepsUp (step.leavesBehind behind) (step.nextTranscript t) (step.next t s)

namespace KeepsUp

theorem append (h : KeepsUp behind t s) (sources : List SourceEvent) :
    KeepsUp true (t.append sources) s :=
  .step (.update (.append sources)) (fun _ => id) h

theorem sync (h : KeepsUp behind t s) : KeepsUp false t (s.update (s.view.sync t).2) :=
  .step (.update .sync) (fun _ => id) h

theorem view (h : KeepsUp behind t s) : TranscriptView.KeepsUp behind t s.view := by
  induction h with
  | new hview => exact hview
  | @step behind t s step hstep _ ih =>
      cases hview : step.viewStep? with
      | none =>
          rw [SurfaceStep.next_eq_self ih.windowIsMeasured hview, SurfaceStep.leavesBehind,
            SurfaceStep.nextTranscript, hview]
          exact ih
      | some viewStep =>
          rw [SurfaceStep.IsOperation, hview] at hstep
          rw [SurfaceStep.view_next hview, SurfaceStep.leavesBehind, SurfaceStep.nextTranscript,
            hview]
          exact .step viewStep hstep ih

theorem isAnnounced (h : KeepsUp behind t s) : s.IsAnnounced := by
  induction h with
  | new hview => exact ⟨rfl, rfl⟩
  | step step hstep hbefore ih =>
      exact SurfaceStep.isAnnounced_next hbefore.view.windowIsMeasured ih _ step

end KeepsUp

/-- A surface that keeps up with its transcript has announced the window and the layout of its
view.  Steps that are not announced change neither, and after any step what is news has a later
version. -/
theorem isAnnounced_of_keepsUp (h : KeepsUp behind t s) :
    s.IsAnnounced ∧
      (∀ step : SurfaceStep, step.IsUnannounced → s.StaysAnnounced (step.next t s)) ∧
      ∀ step : SurfaceStep, s.AnnouncesNews (step.next t s) := by
  have hmeasured := h.view.windowIsMeasured
  exact ⟨h.isAnnounced, fun _ hstep => SurfaceStep.staysAnnounced_next hmeasured hstep t,
    SurfaceStep.announcesNews_next hmeasured t⟩

/-- A surface of four lines at the top of the six long inputs, after a seventh has come. -/
def grownSurface : ScreenSurface :=
  (ScreenSurface.new TranscriptView.longInputsTop).update TranscriptView.grownInputsTop

theorem keepsUp_grownSurface : KeepsUp false TranscriptView.grownInputs grownSurface :=
  ((KeepsUp.new TranscriptView.keepsUp_longInputsTop).append [⟨none, none, .input "e"⟩]).sync

theorem isAnnounced_grownSurface :
    grownSurface.IsAnnounced ∧ versions grownSurface = (0, 1) ∧
      grownSurface.StaysAnnounced
        ((SurfaceStep.locate "event-0" "a" 1).next TranscriptView.grownInputs grownSurface) :=
  ⟨(isAnnounced_of_keepsUp keepsUp_grownSurface).1, by decide +kernel,
    (isAnnounced_of_keepsUp keepsUp_grownSurface).2.1 (.locate "event-0" "a" 1) trivial⟩

end ScreenSurface

end TranscriptSearch
