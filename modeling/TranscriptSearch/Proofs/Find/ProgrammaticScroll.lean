import TranscriptSearch.Proofs.Find.LandingRounds
import TranscriptSearch.Proofs.Find.PanelRuns
import TranscriptSearch.Proofs.Screen.ScreenSearch

namespace TranscriptSearch

open RenderSurface

/-- A surface that shows whether a scroll that a search asked for is under way.  Only the
beginning and the end of such a scroll change that. -/
class FlaggedSurface (σ : Type) [RenderSurface σ] where
  flag : σ → Bool
  flag_setProgrammatic : ∀ (s : σ) (programmatic : Bool),
    flag (setProgrammatic s programmatic) = programmatic
  flag_scrollTo : ∀ (s : σ) (t : Transcript) (index : Nat) (align : ScrollAlign),
    flag (scrollTo s t index align) = flag s
  flag_occurrenceCount : ∀ (s : σ) (t : Transcript) (itemId term : String),
    flag (occurrenceCount s t itemId term).2 = flag s
  flag_locate : ∀ (s : σ) (t : Transcript) (itemId term : String) (n : Nat),
    flag (locate s t itemId term n).2 = flag s
  flag_visibleOccurrences : ∀ (s : σ) (t : Transcript) (term : String) (limit : Nat),
    flag (visibleOccurrences s t term limit).2 = flag s
  flag_applyHighlight : ∀ (s : σ) (kind : HighlightKind) (spans : List RenderedSpan),
    flag (applyHighlight s kind spans) = flag s
  flag_clearHighlight : ∀ (s : σ) (kind : HighlightKind), flag (clearHighlight s kind) = flag s
  flag_setFollowing : ∀ (s : σ) (t : Transcript) (following : Bool),
    flag (setFollowing s t following) = flag s

open FlaggedSurface

attribute [simp] flag_setProgrammatic flag_scrollTo flag_occurrenceCount flag_locate
  flag_visibleOccurrences flag_applyHighlight flag_clearHighlight flag_setFollowing

instance : FlaggedSurface PagedSurface where
  flag := PagedSurface.programmatic
  flag_setProgrammatic _ _ := rfl
  flag_scrollTo s t index _ := by
    change (s.scrollTo t index).programmatic = s.programmatic
    rw [PagedSurface.scrollTo]
    split <;> rfl
  flag_occurrenceCount _ _ _ _ := rfl
  flag_locate _ _ _ _ _ := rfl
  flag_visibleOccurrences _ _ _ _ := rfl
  flag_applyHighlight _ kind _ := by cases kind <;> rfl
  flag_clearHighlight _ kind := by cases kind <;> rfl
  flag_setFollowing _ _ _ := rfl

instance : FlaggedSurface ScreenSurface where
  flag s := s.view.programmatic
  flag_setProgrammatic _ _ := rfl
  flag_scrollTo s t index align := by
    change (s.view.scrollToItem t index align).programmatic = s.view.programmatic
    rw [TranscriptView.scrollToItem]
    split
    · exact (TranscriptView.renders_measure _ t).programmatic_eq
    · rfl
  flag_occurrenceCount s t itemId term :=
    (s.renders_occurrenceCount t itemId term).programmatic_eq
  flag_locate s t itemId term n := (s.renders_locate t itemId term n).programmatic_eq
  flag_visibleOccurrences s t term limit :=
    (s.renders_visibleOccurrences t term limit).programmatic_eq
  flag_applyHighlight _ kind _ := by cases kind <;> rfl
  flag_clearHighlight s kind := by
    change (s.view.clearHighlight kind).programmatic = s.view.programmatic
    unfold TranscriptView.clearHighlight
    split
    · rfl
    · cases kind <;> rfl
  flag_setFollowing s t following := by
    change (s.view.setFollowing t following).programmatic = s.view.programmatic
    rw [TranscriptView.setFollowing]
    split
    · exact (TranscriptView.renders_measure _ t).programmatic_eq
    · rfl

/-- How a part of a navigation leaves the flag: set if the navigation waits after it, and never
set otherwise unless it was before. -/
structure LeavesFlag (waits : Prop) (before after : Bool) : Prop where
  set : waits → after = true
  kept : after = true → waits ∨ before = true

namespace LeavesFlag

variable {waits : Prop} {before between after : Bool}

theorem of_eq (h : after = before) (hwaits : ¬ waits) : LeavesFlag waits before after :=
  ⟨fun hwait => absurd hwait hwaits, fun hafter => .inr (h.symm.trans hafter)⟩

theorem of_false (h : after = false) (hwaits : ¬ waits) : LeavesFlag waits before after :=
  ⟨fun hwait => absurd hwait hwaits,
    fun hafter => absurd (h.symm.trans hafter) Bool.false_ne_true⟩

theorem of_true (h : after = true) (hwaits : waits) : LeavesFlag waits before after :=
  ⟨fun _ => h, fun _ => .inl hwaits⟩

theorem trans {scrolling : Prop} (h : LeavesFlag scrolling before between) (hended : ¬ scrolling)
    (h' : LeavesFlag waits between after) : LeavesFlag waits before after := by
  refine ⟨h'.set, fun hafter => ?_⟩
  rcases h'.kept hafter with hwaits | hbetween
  · exact .inl hwaits
  · exact .inr ((h.kept hbetween).resolve_left hended)

end LeavesFlag

/-- Whether the way to an occurrence has led to an item that is not in the window yet. -/
def Landing.IsWaiting (landing : Landing) : Prop :=
  ∃ index occurrence, landing = .waiting index occurrence

/-- Whether a navigation has to wait. -/
def Progress.IsWaiting (progress : Progress) : Prop :=
  ∃ wait, progress = .waiting wait

theorem Landing.not_isWaiting_done (outcome : NavOutcome) :
    ¬ (Landing.done outcome).IsWaiting := by
  rintro ⟨index, occurrence, heq⟩
  exact Landing.noConfusion heq

theorem Progress.not_isWaiting_done (outcome : NavOutcome) :
    ¬ (Progress.done outcome).IsWaiting := by
  rintro ⟨wait, heq⟩
  exact Progress.noConfusion heq

section Navigation

variable {σ : Type} [RenderSurface σ] [FlaggedSurface σ]

theorem leavesFlag_ensureVisible (s : σ) (t : Transcript) (index : Nat) (cancelled : Bool) :
    LeavesFlag ((ensureVisible s t index cancelled).1 = none) (flag s)
      (flag (ensureVisible s t index cancelled).2) := by
  rw [ensureVisible]
  split
  · exact .of_eq rfl (by simp)
  · split
    · exact .of_eq rfl (by simp)
    · simp only
      split
      · exact .of_false (by simp) (by simp)
      · exact .of_true (by simp) rfl

theorem leavesFlag_land (t : Transcript) (kept : Option KeptCounts) (term : String) (live : Bool)
    (s : σ) (index occurrence : Nat) :
    LeavesFlag (land t kept term live s index occurrence).1.IsWaiting (flag s)
      (flag (land t kept term live s index occurrence).2) := by
  have hcounted : ∀ {s counted : σ} {item : Item} {shown : Nat},
      occurrenceCount s t item.id term = (shown, counted) → flag counted = flag s := by
    intro s counted item shown hcount
    rw [← flag_occurrenceCount s t item.id term, hcount]
  have hlocated : ∀ {counted located : σ} {item : Item} {occurrence : Nat} {span},
      locate counted t item.id term occurrence = (span, located) →
      flag located = flag counted := by
    intro counted located item occurrence span hlocate
    rw [← flag_locate counted t item.id term occurrence, hlocate]
  fun_induction land t kept term live s index occurrence with
  | case1 s index occurrence hitem => exact .of_eq rfl (Landing.not_isWaiting_done _)
  | case2 s index occurrence item hitem shown counted hcount hle span located hlocate =>
      exact .of_eq ((hlocated hlocate).trans (hcounted hcount)) (Landing.not_isWaiting_done _)
  | case3 s index occurrence item hitem shown counted hcount hle located hlocate =>
      exact .of_eq ((hlocated hlocate).trans (hcounted hcount)) (Landing.not_isWaiting_done _)
  | case4 s index occurrence item hitem shown counted hcount hgt hnext =>
      exact .of_eq (hcounted hcount) (Landing.not_isWaiting_done _)
  | case5 s index occurrence item hitem shown counted hcount hgt next hnext seen hseen =>
      have hvisible := leavesFlag_ensureVisible counted t next (!live)
      rw [hseen, hcounted hcount] at hvisible
      exact hvisible.trans (by simp) (.of_eq rfl (Landing.not_isWaiting_done _))
  | case6 s index occurrence item hitem shown counted hcount hgt next hnext how seen
    hhow hseen ih =>
      have hvisible := leavesFlag_ensureVisible counted t next (!live)
      rw [hseen, hcounted hcount] at hvisible
      exact hvisible.trans (by simp) ih
  | case7 s index occurrence item hitem shown counted hcount hgt next hnext seen hseen =>
      have hvisible := leavesFlag_ensureVisible counted t next (!live)
      rw [hseen] at hvisible
      exact .of_true (hvisible.set rfl) ⟨next, occurrence - shown, rfl⟩

theorem leavesFlag_approach (t : Transcript) (kept : Option KeptCounts) (term : String)
    (s : σ) (index occurrence : Nat) :
    LeavesFlag (approach t kept term s index occurrence).1.IsWaiting (flag s)
      (flag (approach t kept term s index occurrence).2) := by
  have hvisible := leavesFlag_ensureVisible s t index false
  rw [approach]
  split
  · next how seen hseen =>
      rw [hseen] at hvisible
      exact hvisible.trans (by simp) (leavesFlag_land t kept term true seen index occurrence)
  · next seen hseen =>
      rw [hseen] at hvisible
      exact .of_true (hvisible.set rfl) ⟨index, occurrence, rfl⟩

theorem flag_refresh (h : Highlighting) (s : σ) (t : Transcript) (limit : Nat) :
    flag (h.refresh s t limit) = flag s := by
  rcases h with ⟨_ | term, anchor, seen⟩
  · rfl
  · rw [Highlighting.refresh]
    simp only
    generalize hpainted : applyHighlight (visibleOccurrences s t term limit).2 .all
      (visibleOccurrences s t term limit).1 = painted
    have hflag : flag painted = flag s := by
      rw [← hpainted]
      simp
    rcases anchor with _ | ⟨itemId, occurrence⟩
    · exact (flag_clearHighlight painted .current).trans hflag
    · have hlocated := flag_locate painted t itemId term occurrence
      simp only
      split
      · next span located hlocate =>
          rw [hlocate] at hlocated
          exact (flag_applyHighlight located .current [span]).trans (hlocated.trans hflag)
      · next located hlocate =>
          rw [hlocate] at hlocated
          exact (flag_clearHighlight located .current).trans (hlocated.trans hflag)

end Navigation

namespace FindPanel

variable {σ : Type} [RenderSurface σ] [FlaggedSurface σ]

@[simp] theorem flag_restoreFollowing (p : FindPanel σ) :
    flag p.restoreFollowing.surface = flag p.surface := by
  simp only [restoreFollowing, FollowHold.restore]
  split
  · exact flag_setFollowing p.surface p.transcript true
  · rfl

@[simp] theorem flag_suppressFollowing (p : FindPanel σ) :
    flag p.suppressFollowing.surface = flag p.surface := by
  simp only [suppressFollowing, FollowHold.suppress]
  split
  · rfl
  · split
    · exact flag_setFollowing p.surface p.transcript false
    · rfl

@[simp] theorem flag_clear (p : FindPanel σ) : flag p.clear.surface = flag p.surface := by
  simp [clear, Highlighting.clear]

theorem flag_highlightTerm (p : FindPanel σ) (term : String) :
    flag (p.highlightTerm term).surface = flag p.surface :=
  (flag_refresh { p.highlighting with term := some term, anchor := none }
    (clearHighlight p.surface .current) p.transcript p.settings.maxHighlightSpans).trans
    (flag_clearHighlight p.surface .current)

theorem flag_watch (p : FindPanel σ) : flag p.watch.surface = flag p.surface := by
  simp only [watch, Highlighting.watch]
  split
  · exact flag_refresh p.highlighting p.surface p.transcript p.settings.maxHighlightSpans
  · rfl

theorem flag_highlightTarget (p : FindPanel σ) (term : String) (target : MatchTarget) :
    flag (p.highlightTarget term target).surface = flag p.surface :=
  flag_refresh { p.highlighting with
    term := some term, anchor := some (target.itemId, target.occurrence) } p.surface p.transcript
    p.settings.maxHighlightSpans

theorem flag_conclude (p : FindPanel σ) (term : String) (ticket : Nat) (outcome : NavOutcome) :
    flag (p.conclude term ticket outcome).2.surface = flag p.surface := by
  rw [conclude]
  split
  · cases outcome with
    | found target => exact (flag_highlightTarget _ _ _).trans p.flag_restoreFollowing
    | notFound reason => exact (flag_highlightTerm _ _).trans p.flag_restoreFollowing
    | superseded => exact p.flag_restoreFollowing
  · rfl

theorem leavesFlag_advance (p : FindPanel σ) (term : String) (ticket : Nat) {before : Bool}
    {landing : Landing × σ} (h : LeavesFlag landing.1.IsWaiting before (flag landing.2)) :
    LeavesFlag (p.advance term ticket landing).1.IsWaiting before
      (flag (p.advance term ticket landing).2.surface) := by
  rcases landing with ⟨outcome | ⟨index, occurrence⟩, s⟩
  · have hconclude := flag_conclude { p with surface := s } term ticket outcome
    exact h.trans (Landing.not_isWaiting_done _)
      (.of_eq hconclude (Progress.not_isWaiting_done _))
  · exact .of_true (h.set ⟨index, occurrence, rfl⟩) ⟨⟨term, ticket, index, occurrence⟩, rfl⟩

theorem leavesFlag_goTo (p : FindPanel σ) (term : String) (n : Nat) :
    LeavesFlag (p.goTo term n).1.IsWaiting (flag p.surface) (flag (p.goTo term n).2.surface) := by
  rw [goTo]
  simp only
  split
  · exact .of_eq rfl (Progress.not_isWaiting_done _)
  · split
    · exact .of_eq (flag_restoreFollowing _) (Progress.not_isWaiting_done _)
    · split
      · exact .of_eq (flag_restoreFollowing _) (Progress.not_isWaiting_done _)
      · next location hlocation =>
          refine leavesFlag_advance _ term _ ?_
          have happroach := leavesFlag_approach p.transcript
            (FindPanel.count { p with tickets := p.tickets.issue.2 } term).2.kept term
            (FindPanel.count { p with tickets := p.tickets.issue.2 }
              term).2.suppressFollowing.surface
            location.item location.occurrence
          rw [flag_suppressFollowing] at happroach
          exact happroach

/-- A wait that is over takes the flag back, whoever set it. -/
theorem leavesFlag_resume (p : FindPanel σ) (wait : Waiting) :
    LeavesFlag (p.resume wait).1.IsWaiting false (flag (p.resume wait).2.surface) := by
  rw [resume]
  simp only
  split
  · refine leavesFlag_advance _ wait.term wait.ticket ?_
    have hland := leavesFlag_land p.transcript p.kept wait.term true (endScroll p.surface)
      wait.index wait.occurrence
    have hended : flag (endScroll p.surface) = false := flag_setProgrammatic p.surface false
    rw [hended] at hland
    exact hland
  · exact .of_eq (flag_setProgrammatic p.surface false) (Progress.not_isWaiting_done _)

end FindPanel

namespace PanelStep

variable {σ : Type} [RenderSurface σ] [FlaggedSurface σ]

/-- Whether a step leaves the flag to the navigations: what moves the surface does not touch
it. -/
def KeepsFlag : PanelStep σ → Prop
  | .moveSurface move => ∀ s, flag (move s) = flag s
  | _ => True

/-- Whether a step is neither the beginning of a navigation nor the end of a wait. -/
def IsQuiet {σ : Type} : PanelStep σ → Prop
  | .start .. => False
  | .resume _ => False
  | _ => True

end PanelStep

namespace PanelRun

variable {σ : Type}

/-- Whether a step is a part of a navigation. -/
def IsPartOf (r : PanelRun σ) (number : Nat) : PanelStep σ → Prop
  | .start .. => number = r.navigations.length
  | .resume resumed => resumed = number ∧ ∃ wait, r.Waits number wait
  | _ => False

variable [RenderSurface σ]

/-- Whether no navigation begins while another one waits. -/
def IsSequential (r : PanelRun σ) : List (PanelStep σ) → Prop
  | [] => True
  | step :: steps =>
    (step.IsStart → ∀ number wait, ¬ r.Waits number wait) ∧ (r.next step).IsSequential steps

variable [FlaggedSurface σ]

/-- A flag that is set belongs to a wait. -/
def FlagIsHeld (r : PanelRun σ) : Prop :=
  flag r.panel.surface = true → ∃ number wait, r.Waits number wait

/-- At most one navigation waits, and the flag is set if one does. -/
structure HasOneWait (r : PanelRun σ) : Prop where
  number_eq : ∀ number number' wait wait', r.Waits number wait → r.Waits number' wait' →
    number = number'
  flag_eq : ∀ number wait, r.Waits number wait → flag r.panel.surface = true

theorem flag_next_of_isQuiet (r : PanelRun σ) {step : PanelStep σ} (hquiet : step.IsQuiet)
    (hkeeps : step.KeepsFlag) :
    flag (r.next step).panel.surface = flag r.panel.surface := by
  cases step with
  | start term n => exact hquiet.elim
  | resume number => exact hquiet.elim
  | clear => exact r.panel.flag_clear
  | unmount => exact FindPanel.flag_clear { r.panel with unmounted := true }
  | highlightTerm term => exact r.panel.flag_highlightTerm term
  | watch => exact r.panel.flag_watch
  | moveSurface move => exact hkeeps r.panel.surface
  | setTranscript t => rfl

omit [FlaggedSurface σ] in
theorem navigations_next_of_isQuiet (r : PanelRun σ) {step : PanelStep σ}
    (hquiet : step.IsQuiet) :
    (r.next step).navigations = r.navigations := by
  cases step with
  | start term n => exact hquiet.elim
  | resume number => exact hquiet.elim
  | clear => rfl
  | unmount => rfl
  | highlightTerm term => rfl
  | watch => rfl
  | moveSurface move => rfl
  | setTranscript t => rfl

namespace FlagIsHeld

variable {r : PanelRun σ}

theorem next (h : r.FlagIsHeld) {step : PanelStep σ} (hkeeps : step.KeepsFlag) :
    (r.next step).FlagIsHeld := by
  intro hflag
  by_cases hquiet : step.IsQuiet
  · rw [flag_next_of_isQuiet r hquiet hkeeps] at hflag
    obtain ⟨number, wait, hwait⟩ := h hflag
    exact ⟨number, wait,
      (congrArg (·[number]?) (r.navigations_next_of_isQuiet hquiet)).trans hwait⟩
  · cases step with
    | start term n =>
        -- A navigation that does not wait leaves the flag as it was, or takes it back.
        rcases (r.panel.leavesFlag_goTo term n).kept hflag with ⟨wait, hwaiting⟩ | hbefore
        · exact ⟨_, wait, waits_next_start_iff.mpr (.inr ⟨rfl, hwaiting⟩)⟩
        · obtain ⟨number, wait, hwait⟩ := h hbefore
          exact ⟨number, wait, waits_next_start_iff.mpr (.inl hwait)⟩
    | resume resumed =>
        obtain ⟨old, hold, hnext⟩ | ⟨-, hsame⟩ := r.next_resume_cases resumed
        · have hflag' : flag (r.panel.resume old).2.surface = true := by
            rwa [hnext] at hflag
          obtain ⟨wait, hwaiting⟩ :=
            ((r.panel.leavesFlag_resume old).kept hflag').resolve_right Bool.false_ne_true
          exact ⟨resumed, wait, (waits_next_resume_iff hold).mpr (.inr ⟨rfl, hwaiting⟩)⟩
        · rw [hsame] at hflag ⊢
          exact h hflag
    | clear => exact absurd trivial hquiet
    | unmount => exact absurd trivial hquiet
    | highlightTerm term => exact absurd trivial hquiet
    | watch => exact absurd trivial hquiet
    | moveSurface move => exact absurd trivial hquiet
    | setTranscript t => exact absurd trivial hquiet

theorem run (h : r.FlagIsHeld) {steps : List (PanelStep σ)}
    (hsteps : ∀ step ∈ steps, step.KeepsFlag) : (r.run steps).FlagIsHeld := by
  induction steps generalizing r with
  | nil => exact h
  | cons step steps ih =>
      have hkeeps := hsteps step List.mem_cons_self
      exact ih (h.next hkeeps) fun later hmem => hsteps later (List.mem_cons_of_mem step hmem)

end FlagIsHeld

theorem flag_next_of_isPartOf {r : PanelRun σ} {number : Nat} {wait : Waiting}
    {step : PanelStep σ} (hpart : r.IsPartOf number step)
    (hwait : (r.next step).Waits number wait) :
    flag (r.next step).panel.surface = true := by
  cases step with
  | start term n =>
      obtain rfl : number = r.navigations.length := hpart
      rcases waits_next_start_iff.mp hwait with hbefore | ⟨-, hwaiting⟩
      · exact absurd hbefore.lt_length (Nat.lt_irrefl _)
      · exact (r.panel.leavesFlag_goTo term n).set ⟨wait, hwaiting⟩
  | resume resumed =>
      obtain ⟨rfl, old, hold⟩ := hpart
      rcases (waits_next_resume_iff hold).mp hwait with ⟨hne, -⟩ | ⟨-, hwaiting⟩
      · exact absurd rfl hne
      · rw [next_resume_of_waits hold]
        exact (r.panel.leavesFlag_resume old).set ⟨wait, hwaiting⟩
  | clear => exact hpart.elim
  | unmount => exact hpart.elim
  | highlightTerm term => exact hpart.elim
  | watch => exact hpart.elim
  | moveSurface move => exact hpart.elim
  | setTranscript t => exact hpart.elim

theorem flag_run_of_isQuiet (r : PanelRun σ) {steps : List (PanelStep σ)}
    (hsteps : ∀ step ∈ steps, step.IsQuiet ∧ step.KeepsFlag) :
    flag (r.run steps).panel.surface = flag r.panel.surface := by
  induction steps generalizing r with
  | nil => rfl
  | cons step steps ih =>
      obtain ⟨hquiet, hkeeps⟩ := hsteps step List.mem_cons_self
      have hrest :=
        ih (r.next step) fun later hmem => hsteps later (List.mem_cons_of_mem step hmem)
      exact hrest.trans (r.flag_next_of_isQuiet hquiet hkeeps)

namespace HasOneWait

variable {r : PanelRun σ}

theorem next (h : r.HasOneWait) {step : PanelStep σ} (hkeeps : step.KeepsFlag)
    (hstart : step.IsStart → ∀ number wait, ¬ r.Waits number wait) :
    (r.next step).HasOneWait := by
  by_cases hquiet : step.IsQuiet
  · have hsame := r.navigations_next_of_isQuiet hquiet
    have hflag := flag_next_of_isQuiet r hquiet hkeeps
    constructor
    · intro number number' wait wait' hwait hwait'
      rw [Waits, hsame] at hwait hwait'
      exact h.number_eq number number' wait wait' hwait hwait'
    · intro number wait hwait
      rw [Waits, hsame] at hwait
      exact hflag.trans (h.flag_eq number wait hwait)
  · cases step with
    | start term n =>
        have hown : ∀ number wait, (r.next (.start term n)).Waits number wait →
            number = r.navigations.length := by
          intro number wait hwait
          rcases waits_next_start_iff.mp hwait with hbefore | ⟨heq, -⟩
          · exact absurd hbefore (hstart trivial number wait)
          · exact heq
        constructor
        · intro number number' wait wait' hwait hwait'
          exact (hown number wait hwait).trans (hown number' wait' hwait').symm
        · intro number wait hwait
          exact flag_next_of_isPartOf (hown number wait hwait) hwait
    | resume resumed =>
        obtain ⟨old, hold, -⟩ | ⟨-, hsame⟩ := r.next_resume_cases resumed
        · have hown : ∀ number wait, (r.next (.resume resumed)).Waits number wait →
              number = resumed := by
            intro number wait hwait
            rcases (waits_next_resume_iff hold).mp hwait with ⟨hne, hbefore⟩ | ⟨heq, -⟩
            · exact absurd (h.number_eq number resumed wait old hbefore hold) hne
            · exact heq
          constructor
          · intro number number' wait wait' hwait hwait'
            exact (hown number wait hwait).trans (hown number' wait' hwait').symm
          · intro number wait hwait
            have hpart : r.IsPartOf number (.resume resumed) := by
              rw [hown number wait hwait]
              exact ⟨rfl, old, hold⟩
            exact flag_next_of_isPartOf hpart hwait
        · rw [hsame]
          exact h
    | clear => exact absurd trivial hquiet
    | unmount => exact absurd trivial hquiet
    | highlightTerm term => exact absurd trivial hquiet
    | watch => exact absurd trivial hquiet
    | moveSurface move => exact absurd trivial hquiet
    | setTranscript t => exact absurd trivial hquiet

theorem run (h : r.HasOneWait) {steps : List (PanelStep σ)}
    (hsteps : ∀ step ∈ steps, step.KeepsFlag) (hsequential : r.IsSequential steps) :
    (r.run steps).HasOneWait := by
  induction steps generalizing r with
  | nil => exact h
  | cons step steps ih =>
      obtain ⟨hstart, hrest⟩ := hsequential
      have hnext := h.next (hsteps step List.mem_cons_self) hstart
      exact ih hnext (fun later hmem => hsteps later (List.mem_cons_of_mem step hmem)) hrest

end HasOneWait

/-- While no navigation waits, the flag is not set.  A navigation that has to wait leaves it set,
and it stays set until another navigation begins or a wait is over.  So it is set just while a
navigation waits, as long as none begins while another one waits. -/
theorem flag_run {panel : FindPanel σ} (hclear : flag panel.surface = false)
    {steps : List (PanelStep σ)} (hsteps : ∀ step ∈ steps, step.KeepsFlag) :
    let r := (new panel).run steps
    ((∀ number wait, ¬ r.Waits number wait) → flag r.panel.surface = false) ∧
      (∀ step number wait later, r.IsPartOf number step → (r.next step).Waits number wait →
        (∀ other ∈ later, other.IsQuiet ∧ other.KeepsFlag) →
          flag ((r.next step).run later).panel.surface = true) ∧
      ((new panel).IsSequential steps →
        (flag r.panel.surface = true ↔ ∃ number wait, r.Waits number wait)) := by
  intro r
  have hnone : ∀ number wait, ¬ (new panel).Waits number wait := by
    intro number wait hwait
    simp [Waits, new] at hwait
  have hheld : r.FlagIsHeld := by
    have hbegin : (new panel).FlagIsHeld := fun hflag =>
      absurd (hclear.symm.trans hflag) Bool.false_ne_true
    exact hbegin.run hsteps
  refine ⟨?_, ?_, ?_⟩
  · intro hidle
    refine Bool.eq_false_iff.mpr fun hflag => ?_
    obtain ⟨number, wait, hwait⟩ := hheld hflag
    exact hidle number wait hwait
  · intro step number wait later hpart hwait hlater
    exact (flag_run_of_isQuiet _ hlater).trans (flag_next_of_isPartOf hpart hwait)
  · intro hsequential
    have hbegin : (new panel).HasOneWait :=
      ⟨fun number _ wait _ hwait _ => absurd hwait (hnone number wait),
        fun number wait hwait => absurd hwait (hnone number wait)⟩
    refine ⟨hheld, ?_⟩
    rintro ⟨number, wait, hwait⟩
    exact (hbegin.run hsteps hsequential).flag_eq number wait hwait

theorem flag_settle (s : PagedSurface) (t : Transcript) : flag (s.settle t) = flag s := by
  rw [PagedSurface.settle]
  split <;> rfl

theorem flag_run_held :
    let settles : PanelStep PagedSurface := .moveSurface (·.settle threeMatches)
    let r := (new heldPanel).run [.start "match" 2, settles]
    flag heldPanel.surface = false ∧ settles.KeepsFlag ∧
      (∃ wait, r.Waits 0 wait) ∧ flag r.panel.surface = true ∧
      (r.next (.start "match" 3)).Waits 1 ⟨"match", 2, 2, 1⟩ ∧
      flag ((r.next (.start "match" 3)).run [.clear]).panel.surface = true ∧
      (∀ number wait, ¬ (r.next (.resume 0)).Waits number wait) ∧
      flag (r.next (.resume 0)).panel.surface = false := by
  intro settles r
  have hunset : flag heldPanel.surface = false := rfl
  have hsettles : settles.KeepsFlag := fun s => flag_settle s threeMatches
  have hkeeps : ∀ step ∈ [.start "match" 2, settles], step.KeepsFlag := by
    rw [List.forall_mem_cons, List.forall_mem_singleton]
    exact ⟨trivial, hsettles⟩
  have hsequential : (new heldPanel).IsSequential [.start "match" 2, settles] := by
    refine ⟨fun _ number wait hwait => ?_, fun hstart => hstart.elim, trivial⟩
    simp [Waits, new] at hwait
  have hwait : r.Waits 0 ⟨"match", 1, 1, 1⟩ := by
    unfold Waits
    decide +kernel
  have hwait' : (r.next (.start "match" 3)).Waits 1 ⟨"match", 2, 2, 1⟩ := by
    unfold Waits
    decide +kernel
  have hidle : ∀ number wait, ¬ (r.next (.resume 0)).Waits number wait := by
    intro number wait hwaiting
    have hended : (r.next (.resume 0)).navigations =
        [.done (.found ⟨1, "event-1", 1, ⟨"event-1", 1, 1, 0, 5⟩⟩)] := by
      decide +kernel
    rw [Waits, hended, List.getElem?_singleton] at hwaiting
    split at hwaiting
    · simp at hwaiting
    · simp at hwaiting
  obtain ⟨-, hpart, hiff⟩ := flag_run hunset hkeeps
  have hkeeps' : ∀ step ∈ [.start "match" 2, settles, .resume 0], step.KeepsFlag := by
    rw [List.forall_mem_cons, List.forall_mem_cons, List.forall_mem_singleton]
    exact ⟨trivial, hsettles, trivial⟩
  obtain ⟨hclear, -⟩ := flag_run hunset hkeeps'
  refine ⟨hunset, hsettles, ⟨_, hwait⟩, (hiff hsequential).mpr ⟨0, _, hwait⟩, hwait', ?_, hidle,
    hclear hidle⟩
  refine hpart (.start "match" 3) 1 _ [.clear] rfl hwait' ?_
  rw [List.forall_mem_singleton]
  exact ⟨trivial, trivial⟩

/-- When the wait of a superseded navigation ends, the flag is taken back while the one that took
its place waits. -/
theorem flag_cleared_while_waiting :
    flag heldPanel.surface = false ∧
      let r := (new heldPanel).run [.start "match" 2, .start "match" 3, .resume 0]
      r.Waits 1 ⟨"match", 2, 2, 1⟩ ∧ flag r.panel.surface = false := by
  refine ⟨rfl, ?_, ?_⟩
  · unfold Waits
    decide +kernel
  · decide +kernel

end PanelRun

end TranscriptSearch
