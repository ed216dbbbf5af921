import TranscriptSearch.Find.Panel
import TranscriptSearch.Proofs.Find.Tickets
import TranscriptSearch.Surface.Paged

/-!
What can happen to a panel while navigations overlap.  A navigation runs until it waits for a
scroll, and goes on when its wait is over: because the item has come into the window, because time
has run out, or because it is superseded.  Waits may end in any order.  Meanwhile the surface and
the transcript may change, and highlights are computed anew when the surface has announced a
change.
-/

namespace TranscriptSearch

/-- Something that happens to a panel or to what it works on. -/
inductive PanelStep (σ : Type) where
  /-- A navigation begins. -/
  | start (term : String) (n : Nat)
  /-- The wait of a navigation is over; navigations are numbered in the order in which they
  began. -/
  | resume (number : Nat)
  | clear
  | unmount
  /-- A term is highlighted without going to any of its occurrences. -/
  | highlightTerm (term : String)
  /-- The task that looks out for announcements of the surface gets to run. -/
  | watch
  /-- A scroll takes effect, or somebody else moves the surface. -/
  | moveSurface (move : σ → σ)
  | setTranscript (t : Transcript)

/-- Whether a step is the beginning of a navigation. -/
def PanelStep.IsStart {σ : Type} : PanelStep σ → Prop
  | .start .. => True
  | _ => False

/-- A panel, and how far each of its navigations has come. -/
structure PanelRun (σ : Type) where
  panel : FindPanel σ
  navigations : List Progress

namespace FindPanel

variable {σ : Type} [RenderSurface σ]

@[simp] theorem tickets_conclude (p : FindPanel σ) (term : String) (ticket : Nat)
    (outcome : NavOutcome) : (p.conclude term ticket outcome).2.tickets = p.tickets := by
  rw [conclude]
  split
  · cases outcome <;> rfl
  · rfl

@[simp] theorem tickets_advance (p : FindPanel σ) (term : String) (ticket : Nat)
    (landing : Landing × σ) : (p.advance term ticket landing).2.tickets = p.tickets := by
  rcases landing with ⟨outcome | ⟨index, occurrence⟩, surface⟩
  · exact tickets_conclude { p with surface } term ticket outcome
  · rfl

theorem ticket_of_advance {p after : FindPanel σ} {term : String} {ticket : Nat}
    {landing : Landing × σ} {wait : Waiting}
    (h : p.advance term ticket landing = (.waiting wait, after)) : wait.ticket = ticket := by
  rcases landing with ⟨outcome | ⟨index, occurrence⟩, surface⟩
  · simp [advance] at h
  · simp only [advance, Prod.mk.injEq, Progress.waiting.injEq] at h
    rw [← h.1]

theorem goTo_dispatch (p : FindPanel σ) (term : String) (n : Nat) :
    let issued := { p with tickets := p.tickets.issue.2 }
    let counted := (issued.count term).2
    let total := (p.transcript.countAll p.kept term).1
    (p.unmounted = true ∧ p.goTo term n = (.done (.notFound .panelUnavailable), issued)) ∨
      (total = 0 ∧ p.goTo term n = (.done (.notFound .noMatches), counted.restoreFollowing)) ∨
      (p.transcript.locate? (p.transcript.countAll p.kept term).2 term n = none ∧
        p.goTo term n = (.done (.notFound .indexOutOfRange), counted.restoreFollowing)) ∨
      ∃ location : Location,
        p.transcript.locate? (p.transcript.countAll p.kept term).2 term n = some location ∧
        p.goTo term n = counted.suppressFollowing.advance term p.tickets.issue.1
          (approach p.transcript counted.kept term counted.suppressFollowing.surface location.item
            location.occurrence) := by
  intro issued counted total
  rw [goTo]
  simp only
  split
  · next hunmounted => exact .inl ⟨hunmounted, rfl⟩
  · refine .inr ?_
    split
    · next htotal => exact .inl ⟨htotal, rfl⟩
    · refine .inr ?_
      split
      · next hnone => exact .inl ⟨hnone, rfl⟩
      · next location hlocation => exact .inr ⟨location, hlocation, rfl⟩

/-- The ways that a navigation begins: it ends at once, or it goes on to an item while the surface
does not follow. -/
theorem goTo_cases (p : FindPanel σ) (term : String) (n : Nat) :
    let issued := { p with tickets := p.tickets.issue.2 }
    let counted := (issued.count term).2
    (p.unmounted = true ∧ p.goTo term n = (.done (.notFound .panelUnavailable), issued)) ∨
      (∃ reason, (reason = .noMatches ∨ reason = .indexOutOfRange) ∧
        p.goTo term n = (.done (.notFound reason), counted.restoreFollowing)) ∨
      ∃ location : Location,
        p.goTo term n = counted.suppressFollowing.advance term p.tickets.issue.1
          (approach p.transcript counted.kept term counted.suppressFollowing.surface location.item
            location.occurrence) := by
  intro issued counted
  obtain hunmounted | ⟨-, heq⟩ | ⟨-, heq⟩ | ⟨location, -, heq⟩ := p.goTo_dispatch term n
  · exact .inl hunmounted
  · exact .inr (.inl ⟨_, .inl rfl, heq⟩)
  · exact .inr (.inl ⟨_, .inr rfl, heq⟩)
  · exact .inr (.inr ⟨location, heq⟩)

@[simp] theorem tickets_goTo (p : FindPanel σ) (term : String) (n : Nat) :
    (p.goTo term n).2.tickets = p.tickets.issue.2 := by
  rw [goTo]
  simp only
  split
  · rfl
  · split
    · rfl
    · split
      · rfl
      · rw [tickets_advance]
        rfl

theorem ticket_of_goTo {p after : FindPanel σ} {term : String} {n : Nat} {wait : Waiting}
    (h : p.goTo term n = (.waiting wait, after)) : wait.ticket = p.tickets.issue.1 := by
  rw [goTo] at h
  simp only at h
  split at h
  · simp at h
  · split at h
    · simp at h
    · split at h
      · simp at h
      · exact ticket_of_advance h

/-- A navigation that is not current any more ends when its wait is over, and does nothing but end
the scroll. -/
theorem resume_of_not_isCurrent {p : FindPanel σ} {wait : Waiting}
    (h : p.tickets.isCurrent wait.ticket = false) :
    p.resume wait = (.done .superseded, { p with surface := endScroll p.surface }) := by
  simp [resume, h]

@[simp] theorem tickets_resume (p : FindPanel σ) (wait : Waiting) :
    (p.resume wait).2.tickets = p.tickets := by
  rw [resume]
  simp only
  split
  · rw [tickets_advance]
  · rfl

theorem ticket_of_resume {p after : FindPanel σ} {wait next : Waiting}
    (h : p.resume wait = (.waiting next, after)) : next.ticket = wait.ticket := by
  rw [resume] at h
  simp only at h
  split at h
  · exact ticket_of_advance h
  · simp at h

theorem unmounted_conclude (p : FindPanel σ) (term : String) (ticket : Nat)
    (outcome : NavOutcome) : (p.conclude term ticket outcome).2.unmounted = p.unmounted := by
  rw [conclude]
  split
  · cases outcome <;> rfl
  · rfl

theorem unmounted_advance (p : FindPanel σ) (term : String) (ticket : Nat)
    (landing : Landing × σ) : (p.advance term ticket landing).2.unmounted = p.unmounted := by
  rcases landing with ⟨outcome | ⟨index, occurrence⟩, s⟩
  · exact unmounted_conclude { p with surface := s } term ticket outcome
  · rfl

theorem unmounted_goTo (p : FindPanel σ) (term : String) (n : Nat) :
    (p.goTo term n).2.unmounted = p.unmounted := by
  obtain ⟨-, heq⟩ | ⟨reason, -, heq⟩ | ⟨location, heq⟩ := p.goTo_cases term n
  · rw [heq]
  · rw [heq]
    rfl
  · rw [heq]
    exact unmounted_advance _ term _ _

theorem unmounted_resume (p : FindPanel σ) (wait : Waiting) :
    (p.resume wait).2.unmounted = p.unmounted := by
  rw [resume]
  simp only
  split
  · exact unmounted_advance _ wait.term wait.ticket _
  · rfl

theorem goTo_of_unmounted {p : FindPanel σ} (h : p.unmounted = true) (term : String) (n : Nat) :
    p.goTo term n =
      (.done (.notFound .panelUnavailable), { p with tickets := p.tickets.issue.2 }) := by
  rw [goTo]
  exact if_pos h

@[simp] theorem tickets_clear (p : FindPanel σ) : p.clear.tickets = p.tickets.cancelAll := rfl

@[simp] theorem tickets_unmount (p : FindPanel σ) : p.unmount.tickets = p.tickets.cancelAll := rfl

end FindPanel

namespace PanelRun

variable {σ : Type}

def new (panel : FindPanel σ) : PanelRun σ :=
  ⟨panel, []⟩

/-- Whether a navigation waits. -/
def Waits (r : PanelRun σ) (number : Nat) (wait : Waiting) : Prop :=
  r.navigations[number]? = some (.waiting wait)

theorem Waits.lt_length {r : PanelRun σ} {number : Nat} {wait : Waiting}
    (h : r.Waits number wait) : number < r.navigations.length :=
  (List.getElem?_eq_some_iff.mp h).1

/-- Whether a navigation has ended in some way. -/
def Returned (r : PanelRun σ) (number : Nat) (outcome : NavOutcome) : Prop :=
  r.navigations[number]? = some (.done outcome)

/-- Whether every navigation that has not ended holds a ticket that was issued to it. -/
def IsTicketed (r : PanelRun σ) : Prop :=
  ∀ number wait, r.Waits number wait → r.panel.tickets.IsIssued wait.ticket

theorem isTicketed_new (panel : FindPanel σ) : (new panel).IsTicketed := by
  intro number wait hwait
  simp [Waits, new] at hwait

variable [RenderSurface σ]

/-- The run after a step. -/
def next (r : PanelRun σ) : PanelStep σ → PanelRun σ
  | .start term n =>
    let (progress, panel) := r.panel.goTo term n
    ⟨panel, r.navigations ++ [progress]⟩
  | .resume number =>
    match r.navigations[number]? with
    | some (.waiting wait) =>
      let (progress, panel) := r.panel.resume wait
      ⟨panel, r.navigations.set number progress⟩
    | _ => r
  | .clear => { r with panel := r.panel.clear }
  | .unmount => { r with panel := r.panel.unmount }
  | .highlightTerm term => { r with panel := r.panel.highlightTerm term }
  | .watch => { r with panel := r.panel.watch }
  | .moveSurface move => { r with panel := { r.panel with surface := move r.panel.surface } }
  | .setTranscript t => { r with panel := { r.panel with transcript := t } }

/-- The run after some steps. -/
def run (r : PanelRun σ) (steps : List (PanelStep σ)) : PanelRun σ :=
  steps.foldl next r

theorem next_resume_of_waits {r : PanelRun σ} {number : Nat} {wait : Waiting}
    (h : r.Waits number wait) :
    r.next (.resume number) =
      ⟨(r.panel.resume wait).2, r.navigations.set number (r.panel.resume wait).1⟩ := by
  rw [Waits] at h
  simp only [next, h]

theorem next_resume_of_not_waits {r : PanelRun σ} {number : Nat}
    (h : ∀ wait, ¬ r.Waits number wait) :
    r.next (.resume number) = r := by
  rw [next]
  split
  · next wait hwait => exact absurd hwait (h wait)
  · rfl

/-- A resumed navigation goes on if it waits; else nothing happens. -/
theorem next_resume_cases (r : PanelRun σ) (number : Nat) :
    (∃ wait, r.Waits number wait ∧ r.next (.resume number) =
        ⟨(r.panel.resume wait).2, r.navigations.set number (r.panel.resume wait).1⟩) ∨
      (∀ wait, ¬ r.Waits number wait) ∧ r.next (.resume number) = r := by
  by_cases hwaits : ∃ wait, r.Waits number wait
  · obtain ⟨wait, hwait⟩ := hwaits
    exact .inl ⟨wait, hwait, next_resume_of_waits hwait⟩
  · have hnone := not_exists.mp hwaits
    exact .inr ⟨hnone, next_resume_of_not_waits hnone⟩

section Steps

variable {r : PanelRun σ} {number resumed : Nat} {wait old : Waiting}

theorem waits_next_start_iff {term : String} {n : Nat} :
    (r.next (.start term n)).Waits number wait ↔ r.Waits number wait ∨
      number = r.navigations.length ∧ (r.panel.goTo term n).1 = .waiting wait := by
  change (r.navigations ++ [(r.panel.goTo term n).1])[number]? = some (.waiting wait) ↔ _
  rw [Waits, List.getElem?_append, List.getElem?_singleton]
  split
  · next hlt =>
      refine ⟨.inl, ?_⟩
      rintro (hwait | ⟨heq, -⟩)
      · exact hwait
      · omega
  · next hge =>
      rw [List.getElem?_eq_none (Nat.le_of_not_lt hge)]
      simp
      omega

theorem waits_next_resume_iff (hold : r.Waits resumed old) :
    (r.next (.resume resumed)).Waits number wait ↔ number ≠ resumed ∧ r.Waits number wait ∨
      number = resumed ∧ (r.panel.resume old).1 = .waiting wait := by
  rw [next_resume_of_waits hold]
  change (r.navigations.set resumed (r.panel.resume old).1)[number]? = some (.waiting wait) ↔ _
  by_cases heq : number = resumed
  · subst heq
    rw [List.getElem?_set_self hold.lt_length]
    simp
  · rw [List.getElem?_set_ne (Ne.symm heq)]
    simp [heq, Waits]

end Steps

theorem IsTicketed.next {r : PanelRun σ} (h : r.IsTicketed) (step : PanelStep σ) :
    (r.next step).IsTicketed := by
  intro number wait hwait
  cases step with
  | start term n =>
      change (r.panel.goTo term n).2.tickets.IsIssued wait.ticket
      rw [FindPanel.tickets_goTo]
      rcases waits_next_start_iff.mp hwait with hbefore | ⟨-, hprogress⟩
      · exact (h number wait hbefore).isStale_issue.isIssued
      · rw [FindPanel.ticket_of_goTo (Prod.ext hprogress rfl)]
        exact Tickets.isIssued_issue _
  | resume resumed =>
      obtain ⟨old, hold, hnext⟩ | ⟨-, hsame⟩ := r.next_resume_cases resumed
      · have htickets : (r.next (.resume resumed)).panel.tickets = r.panel.tickets := by
          rw [hnext]
          exact FindPanel.tickets_resume r.panel old
        rw [htickets]
        rcases (waits_next_resume_iff hold).mp hwait with ⟨-, hbefore⟩ | ⟨-, hprogress⟩
        · exact h number wait hbefore
        · rw [FindPanel.ticket_of_resume (Prod.ext hprogress rfl)]
          exact h resumed old hold
      · rw [hsame] at hwait ⊢
        exact h number wait hwait
  | clear => exact (h number wait hwait).isStale_cancelAll.isIssued
  | unmount => exact (h number wait hwait).isStale_cancelAll.isIssued
  | highlightTerm term => exact h number wait hwait
  | watch => exact h number wait hwait
  | moveSurface move => exact h number wait hwait
  | setTranscript t => exact h number wait hwait

theorem IsTicketed.run {r : PanelRun σ} (h : r.IsTicketed) (steps : List (PanelStep σ)) :
    (r.run steps).IsTicketed := by
  induction steps generalizing r with
  | nil => exact h
  | cons step steps ih => exact ih (h.next step)

end PanelRun

/-- Three items with one occurrence each. -/
def threeMatches : Transcript :=
  .ofEvents (List.replicate 3 ⟨none, none, .input "match"⟩)

/-- A panel with the first item in its window, whose scrolls wait until they are settled. -/
def heldPanel : FindPanel PagedSurface :=
  .new threeMatches { PagedSurface.new threeMatches 1 with holdsScrolls := true } {}

end TranscriptSearch
