import TranscriptSearch.Proofs.Find.ProgrammaticScroll
import TranscriptSearch.Proofs.Find.SteadySurfaces
import TranscriptSearch.Proofs.Find.Superseding

namespace TranscriptSearch

open RenderSurface SteadySurface

namespace FindPanel

variable {σ : Type} [RenderSurface σ]

/-- Whether the surface follows, or did when it was first kept from it. -/
def isDueToFollow (p : FindPanel σ) : Bool :=
  p.hold.saved.getD (isFollowing p.surface)

theorem isDueToFollow_of_not_isActive {p : FindPanel σ} (h : p.hold.isActive = false) :
    p.isDueToFollow = isFollowing p.surface := by
  rw [isDueToFollow, Option.isSome_eq_false_iff.mp h |> Option.isNone_iff_eq_none.mp,
    Option.getD_none]

theorem isDueToFollow_of_saved {p : FindPanel σ} {due : Bool} (h : p.hold.saved = some due) :
    p.isDueToFollow = due := by
  rw [isDueToFollow, h, Option.getD_some]

theorem saved_suppressFollowing (p : FindPanel σ) :
    p.suppressFollowing.hold.saved = some p.isDueToFollow := by
  simp only [suppressFollowing, FollowHold.suppress]
  split
  · next due hsaved => rw [isDueToFollow_of_saved hsaved, hsaved]
  · next hsaved => rw [isDueToFollow, hsaved, Option.getD_none]

variable [SteadySurface σ] {p q after : FindPanel σ}

/-- Whether nothing keeps the surface from following any more, and it does follow if it is due to
and shows the end. -/
structure LetsFollow (p after : FindPanel σ) : Prop where
  isActive_eq : after.hold.isActive = false
  follows : Shows p.surface p.transcript → p.isDueToFollow = true →
    isAtBottom after.surface after.transcript = true → isFollowing after.surface = true

namespace LetsFollow

theorem restoreFollowing (p : FindPanel σ) : p.LetsFollow p.restoreFollowing := by
  refine ⟨by simp only [FindPanel.restoreFollowing, FollowHold.restore]; split <;> rfl, ?_⟩
  intro _ hdue
  simp only [FindPanel.restoreFollowing, FollowHold.restore]
  split
  · intro _
    exact isFollowing_setFollowing p.surface p.transcript true
  · next hnot =>
      intro hbottom
      -- Nothing has changed, so the surface was not kept from following.
      cases hsaved : p.hold.saved with
      | some due =>
          rw [isDueToFollow_of_saved hsaved] at hdue
          subst hdue
          exact absurd ⟨hsaved, hbottom⟩ hnot
      | none =>
          rw [isDueToFollow, hsaved] at hdue
          exact hdue

theorem of_shows (h : q.LetsFollow after) (hdue : q.isDueToFollow = p.isDueToFollow)
    (hshows : Shows p.surface p.transcript → Shows q.surface q.transcript) : p.LetsFollow after :=
  ⟨h.isActive_eq, fun hp hfollows => h.follows (hshows hp) (hdue.trans hfollows)⟩

theorem refresh (h : p.LetsFollow q)
    (hshows : Shows p.surface p.transcript → Shows q.surface q.transcript)
    (highlighting shown : Highlighting) (limit : Nat) :
    p.LetsFollow { q with
      highlighting := shown, surface := highlighting.refresh q.surface q.transcript limit } := by
  refine ⟨h.isActive_eq, fun hp hdue hbottom => ?_⟩
  have hq := hshows hp
  have hbottom' := (alike_refresh hq highlighting limit).isAtBottom_eq.symm.trans hbottom
  exact (isFollowing_refresh hq highlighting limit).trans (h.follows hp hdue hbottom')

theorem clearHighlight (h : p.LetsFollow q)
    (hshows : Shows p.surface p.transcript → Shows q.surface q.transcript)
    (kind : HighlightKind) :
    p.LetsFollow { q with surface := RenderSurface.clearHighlight q.surface kind } := by
  refine ⟨h.isActive_eq, fun hp hdue hbottom => ?_⟩
  have hbottom' := (alike_clearHighlight (hshows hp) kind).isAtBottom_eq.symm.trans hbottom
  exact (isFollowing_clearHighlight q.surface kind).trans (h.follows hp hdue hbottom')

theorem conclude (term : String) {ticket : Nat} (hcurrent : p.tickets.isCurrent ticket = true)
    (outcome : NavOutcome) : p.LetsFollow (p.conclude term ticket outcome).2 := by
  have hrestored := LetsFollow.restoreFollowing p
  rw [FindPanel.conclude, if_pos hcurrent]
  cases outcome with
  | found target => exact hrestored.refresh shows_restoreFollowing _ _ _
  | notFound reason =>
      have hcleared := hrestored.clearHighlight shows_restoreFollowing .current
      exact hcleared.refresh
        (fun hp => shows_clearHighlight (shows_restoreFollowing hp) .current) _ _ _
  | superseded => exact hrestored

theorem clear (p : FindPanel σ) : p.LetsFollow p.clear := by
  refine (LetsFollow.restoreFollowing _).of_shows ?_ fun hshows => ?_
  · simp only [isDueToFollow, isFollowing_clearHighlight]
  · exact shows_clearHighlight (shows_clearHighlight hshows .all) .current

end LetsFollow

/-- How a navigation leaves its panel: as long as it waits, the surface is kept from following. -/
def HoldsUntilDone (p : FindPanel σ) (result : Progress × FindPanel σ) : Prop :=
  (result.1.IsWaiting ∧ result.2.hold.saved = some p.isDueToFollow) ∨
    ¬ result.1.IsWaiting ∧ p.LetsFollow result.2

namespace HoldsUntilDone

theorem isActive_iff {result : Progress × FindPanel σ} (h : p.HoldsUntilDone result) :
    result.2.hold.isActive = true ↔ result.1.IsWaiting := by
  rcases h with ⟨hwaiting, hsaved⟩ | ⟨hdone, hlets⟩
  · exact ⟨fun _ => hwaiting, fun _ => congrArg Option.isSome hsaved⟩
  · rw [hlets.isActive_eq]
    exact ⟨fun hactive => absurd hactive Bool.false_ne_true,
      fun hwaiting => absurd hwaiting hdone⟩

theorem of_shows {result : Progress × FindPanel σ} (h : q.HoldsUntilDone result)
    (hdue : q.isDueToFollow = p.isDueToFollow)
    (hshows : Shows p.surface p.transcript → Shows q.surface q.transcript) :
    p.HoldsUntilDone result := by
  rcases h with ⟨hwaiting, hsaved⟩ | ⟨hdone, hlets⟩
  · exact .inl ⟨hwaiting, hdue ▸ hsaved⟩
  · exact .inr ⟨hdone, hlets.of_shows hdue hshows⟩

theorem advance (term : String) {ticket : Nat} (hcurrent : p.tickets.isCurrent ticket = true)
    (hactive : p.hold.isActive = true) (landing : Landing × σ)
    (hshows : Shows p.surface p.transcript → Shows landing.2 p.transcript) :
    p.HoldsUntilDone (p.advance term ticket landing) := by
  obtain ⟨due, hsaved⟩ := Option.isSome_iff_exists.mp hactive
  have hdue := isDueToFollow_of_saved hsaved
  rcases landing with ⟨outcome | ⟨index, occurrence⟩, s⟩
  · have hsame : { p with surface := s }.isDueToFollow = p.isDueToFollow :=
      (isDueToFollow_of_saved (p := { p with surface := s }) hsaved).trans hdue.symm
    have hconclude := LetsFollow.conclude (p := { p with surface := s }) term hcurrent outcome
    exact .inr ⟨Progress.not_isWaiting_done _, hconclude.of_shows hsame hshows⟩
  · exact .inl ⟨⟨_, rfl⟩, hsaved.trans (congrArg some hdue.symm)⟩

theorem goTo (horderly : p.tickets.IsOrderly)
    (hunmounted : p.unmounted = true → p.hold.isActive = false) (term : String) (n : Nat) :
    p.HoldsUntilDone (p.goTo term n) := by
  obtain ⟨hgone, heq⟩ | ⟨reason, -, heq⟩ | ⟨location, heq⟩ := p.goTo_cases term n
  · rw [heq]
    refine .inr ⟨Progress.not_isWaiting_done _, hunmounted hgone, fun _ hdue _ => ?_⟩
    exact (isDueToFollow_of_not_isActive (hunmounted hgone)).symm.trans hdue
  · rw [heq]
    exact .inr ⟨Progress.not_isWaiting_done _,
      (LetsFollow.restoreFollowing _).of_shows rfl fun hshows => hshows⟩
  · rw [heq]
    -- The navigation goes on with the surface that does not follow.
    have hsaved :=
      saved_suppressFollowing (FindPanel.count { p with tickets := p.tickets.issue.2 } term).2
    refine of_shows (advance term horderly.isCurrent_issue (congrArg Option.isSome hsaved) _ ?_)
      (isDueToFollow_of_saved hsaved) shows_suppressFollowing
    intro hshows
    exact shows_approach hshows _ term location.item location.occurrence

theorem resume {wait : Waiting} (hcurrent : p.tickets.isCurrent wait.ticket = true)
    (hactive : p.hold.isActive = true) : p.HoldsUntilDone (p.resume wait) := by
  obtain ⟨due, hsaved⟩ := Option.isSome_iff_exists.mp hactive
  rw [FindPanel.resume]
  simp only
  rw [if_pos hcurrent]
  let ended := { p with surface := endScroll p.surface }
  have hended : ended.isDueToFollow = p.isDueToFollow :=
    (isDueToFollow_of_saved (p := ended) hsaved).trans (isDueToFollow_of_saved hsaved).symm
  have hshows : Shows p.surface p.transcript → Shows ended.surface p.transcript :=
    fun hshows => shows_setProgrammatic hshows false
  refine of_shows (advance (p := ended) wait.term hcurrent hactive _ ?_) hended hshows
  intro hshows
  exact shows_land hshows p.kept wait.term true wait.index wait.occurrence

end HoldsUntilDone

end FindPanel

theorem Progress.not_isWaiting_iff {progress : Progress} :
    ¬ progress.IsWaiting ↔ ∃ outcome, progress = .done outcome := by
  cases progress with
  | done outcome => exact ⟨fun _ => ⟨outcome, rfl⟩, fun _ => not_isWaiting_done outcome⟩
  | waiting wait =>
      refine ⟨fun hnot => absurd ⟨wait, rfl⟩ hnot, ?_⟩
      rintro ⟨outcome, heq⟩
      exact Progress.noConfusion heq

namespace PanelRun

variable {σ : Type} [RenderSurface σ] {r : PanelRun σ}

/-- Whether a navigation that holds the current ticket waits. -/
def IsNavigating (r : PanelRun σ) : Prop :=
  ∃ number wait, r.Waits number wait ∧ r.panel.tickets.isCurrent wait.ticket = true

/-- Whether the latest navigation ends with a step, or the search is cleared by it. -/
def Ends (r : PanelRun σ) : PanelStep σ → Prop
  | .start term n => ∃ outcome, (r.next (.start term n)).Returned r.navigations.length outcome
  | .resume number => number + 1 = r.navigations.length ∧
      ∃ outcome, (r.next (.resume number)).Returned number outcome
  | .clear => True
  | .unmount => True
  | _ => False

/-- Whether no step makes an end of the navigations. -/
def GoesOn (r : PanelRun σ) : List (PanelStep σ) → Prop
  | [] => True
  | step :: steps => ¬ r.Ends step ∧ (r.next step).GoesOn steps

theorem returned_next_start_iff {term : String} {n : Nat} {outcome : NavOutcome} :
    (r.next (.start term n)).Returned r.navigations.length outcome ↔
      (r.panel.goTo term n).1 = .done outcome := by
  change (r.navigations ++ [(r.panel.goTo term n).1])[r.navigations.length]? = _ ↔ _
  simp

theorem returned_next_resume_iff {number : Nat} {wait : Waiting} {outcome : NavOutcome}
    (hwait : r.Waits number wait) :
    (r.next (.resume number)).Returned number outcome ↔
      (r.panel.resume wait).1 = .done outcome := by
  rw [next_resume_of_waits hwait]
  change (r.navigations.set number (r.panel.resume wait).1)[number]? = _ ↔ _
  rw [List.getElem?_set_self hwait.lt_length, Option.some.injEq]

omit [RenderSurface σ] in
theorem IsSuperseded.isCurrent {number : Nat} {wait : Waiting} (h : r.IsSuperseded number wait)
    (hwait : r.Waits number wait) : r.panel.tickets.isCurrent wait.ticket = false := by
  rcases h with hreturned | ⟨-, hstale⟩
  · exact absurd (hreturned.symm.trans hwait) (by simp)
  · exact hstale.isCurrent

omit [RenderSurface σ] in
theorem IsLatest.number_eq {latest number : Nat} {wait : Waiting} (h : r.IsLatest latest)
    (hwait : r.Waits number wait) (hcurrent : r.panel.tickets.isCurrent wait.ticket = true) :
    number = latest := by
  refine Decidable.byContradiction fun hne => ?_
  have hstale := (h number wait hwait hne).isCurrent hwait
  exact Bool.false_ne_true (hstale.symm.trans hcurrent)

/-- How a run stands while its surface is kept from following just as long as the latest
navigation waits. -/
structure HoldsRightly (r : PanelRun σ) : Prop where
  isTicketed : r.IsTicketed
  isOrderly : r.panel.tickets.IsOrderly
  isLatest : r.IsLatest (r.navigations.length - 1)
  isActive_iff : r.panel.hold.isActive = true ↔ r.IsNavigating
  isActive_of_unmounted : r.panel.unmounted = true → r.panel.hold.isActive = false

section Steps

theorem isNavigating_next_start_iff (hticketed : r.IsTicketed)
    (horderly : r.panel.tickets.IsOrderly) (term : String) (n : Nat) :
    (r.next (.start term n)).IsNavigating ↔ (r.panel.goTo term n).1.IsWaiting := by
  constructor
  · rintro ⟨number, wait, hwait, hcurrent⟩
    rcases waits_next_start_iff.mp hwait with hbefore | ⟨-, hprogress⟩
    · have hsuperseded : (r.next (.start term n)).IsSuperseded number wait :=
        .of_supersedes hticketed hbefore trivial
      have hstale := hsuperseded.isCurrent hwait
      exact absurd (hstale.symm.trans hcurrent) Bool.false_ne_true
    · exact ⟨wait, hprogress⟩
  · rintro ⟨wait, hprogress⟩
    refine ⟨_, wait, waits_next_start_iff.mpr (.inr ⟨rfl, hprogress⟩), ?_⟩
    rw [FindPanel.ticket_of_goTo (Prod.ext hprogress rfl)]
    change (r.panel.goTo term n).2.tickets.isCurrent _ = true
    rw [FindPanel.tickets_goTo]
    exact horderly.isCurrent_issue

theorem isNavigating_next_resume_iff {latest resumed : Nat} {old : Waiting}
    (hlatest : r.IsLatest latest)
    (hold : r.Waits resumed old) (hcurrent : r.panel.tickets.isCurrent old.ticket = true) :
    (r.next (.resume resumed)).IsNavigating ↔ (r.panel.resume old).1.IsWaiting := by
  have htickets : (r.next (.resume resumed)).panel.tickets = r.panel.tickets := by
    rw [next_resume_of_waits hold]
    exact FindPanel.tickets_resume r.panel old
  constructor
  · rintro ⟨number, wait, hwait, hother⟩
    rw [htickets] at hother
    rcases (waits_next_resume_iff hold).mp hwait with ⟨hne, hbefore⟩ | ⟨-, hprogress⟩
    · exact absurd
        ((hlatest.number_eq hbefore hother).trans (hlatest.number_eq hold hcurrent).symm) hne
    · exact ⟨wait, hprogress⟩
  · rintro ⟨wait, hprogress⟩
    refine ⟨resumed, wait, (waits_next_resume_iff hold).mpr (.inr ⟨rfl, hprogress⟩), ?_⟩
    rw [htickets, FindPanel.ticket_of_resume (Prod.ext hprogress rfl)]
    exact hcurrent

theorem isNavigating_next_resume_of_stale {resumed : Nat} {old : Waiting}
    (hold : r.Waits resumed old) (hstale : r.panel.tickets.isCurrent old.ticket = false) :
    (r.next (.resume resumed)).IsNavigating ↔ r.IsNavigating := by
  have hresumed := FindPanel.resume_of_not_isCurrent hstale
  have htickets : (r.next (.resume resumed)).panel.tickets = r.panel.tickets := by
    rw [next_resume_of_waits hold]
    exact FindPanel.tickets_resume r.panel old
  constructor
  · rintro ⟨number, wait, hwait, hcurrent⟩
    rw [htickets] at hcurrent
    rcases (waits_next_resume_iff hold).mp hwait with ⟨-, hbefore⟩ | ⟨-, hprogress⟩
    · exact ⟨number, wait, hbefore, hcurrent⟩
    · rw [hresumed] at hprogress
      exact Progress.noConfusion hprogress
  · rintro ⟨number, wait, hwait, hcurrent⟩
    have hne : number ≠ resumed := by
      rintro rfl
      obtain rfl : wait = old := by simpa using hwait.symm.trans hold
      exact Bool.false_ne_true (hstale.symm.trans hcurrent)
    refine ⟨number, wait, (waits_next_resume_iff hold).mpr (.inl ⟨hne, hwait⟩), ?_⟩
    rw [htickets]
    exact hcurrent

theorem IsTicketed.not_isNavigating_next (h : r.IsTicketed) {step : PanelStep σ}
    (hstep : step.Supersedes) (hsame : (r.next step).navigations = r.navigations) :
    ¬ (r.next step).IsNavigating := by
  rintro ⟨number, wait, hwait, hcurrent⟩
  have hbefore : r.Waits number wait := by
    rw [Waits, ← hsame]
    exact hwait
  have hstale := (IsSuperseded.of_supersedes h hbefore hstep).isCurrent hwait
  exact Bool.false_ne_true (hstale.symm.trans hcurrent)

end Steps

namespace HoldsRightly

omit [RenderSurface σ] in
theorem new {panel : FindPanel σ} (htickets : panel.tickets = .new)
    (hhold : panel.hold = .new) : (PanelRun.new panel).HoldsRightly where
  isTicketed := isTicketed_new panel
  isOrderly := htickets ▸ Tickets.IsOrderly.new
  isLatest number wait hwait := by simp [Waits, PanelRun.new] at hwait
  isActive_iff := by
    refine ⟨fun hactive => ?_, ?_⟩
    · change panel.hold.isActive = true at hactive
      rw [hhold] at hactive
      exact absurd hactive Bool.false_ne_true
    · rintro ⟨number, wait, hwait, -⟩
      simp [Waits, PanelRun.new] at hwait
  isActive_of_unmounted _ := by
    change panel.hold.isActive = false
    rw [hhold]
    rfl

variable [SteadySurface σ]

theorem next_cancel (h : r.HoldsRightly) {step : PanelStep σ}
    (hstep : step = .clear ∨ step = .unmount) :
    (r.next step).HoldsRightly := by
  have hinactive : (r.next step).panel.hold.isActive = false := by
    rcases hstep with rfl | rfl
    · exact (FindPanel.LetsFollow.clear r.panel).isActive_eq
    · exact (FindPanel.LetsFollow.clear { r.panel with unmounted := true }).isActive_eq
  have hnavigations : (r.next step).navigations = r.navigations := by
    rcases hstep with rfl | rfl <;> rfl
  have hsupersedes : step.Supersedes := by
    rcases hstep with rfl | rfl <;> trivial
  have hstart : ¬ step.IsStart := by
    rcases hstep with rfl | rfl <;> exact id
  have hended := h.isTicketed.not_isNavigating_next hsupersedes hnavigations
  refine ⟨h.isTicketed.next step, ?_, ?_, ?_, fun _ => hinactive⟩
  · rcases hstep with rfl | rfl
    · exact h.isOrderly.cancelAll
    · exact h.isOrderly.cancelAll
  · rw [hnavigations]
    exact h.isLatest.next hstart
  · rw [hinactive]
    exact ⟨fun hactive => absurd hactive Bool.false_ne_true,
      fun hnavigating => absurd hnavigating hended⟩

theorem next_start (h : r.HoldsRightly) (term : String) (n : Nat) :
    (r.next (.start term n)).HoldsRightly := by
  have hleaves := FindPanel.HoldsUntilDone.goTo h.isOrderly h.isActive_of_unmounted term n
  refine ⟨h.isTicketed.next _, ?_, ?_, ?_, ?_⟩
  · change (r.panel.goTo term n).2.tickets.IsOrderly
    rw [FindPanel.tickets_goTo]
    exact h.isOrderly.issue
  · have hlength : (r.next (.start term n)).navigations.length - 1 = r.navigations.length := by
      change (r.navigations ++ [_]).length - 1 = _
      simp
    rw [hlength]
    exact isLatest_next_start h.isTicketed term n
  · rw [isNavigating_next_start_iff h.isTicketed h.isOrderly]
    exact hleaves.isActive_iff
  · intro hunmounted
    have hgone : r.panel.unmounted = true := (r.panel.unmounted_goTo term n).symm.trans hunmounted
    refine Bool.eq_false_iff.mpr fun hactive => ?_
    obtain ⟨wait, hwait⟩ := hleaves.isActive_iff.mp hactive
    rw [FindPanel.goTo_of_unmounted hgone] at hwait
    exact Progress.noConfusion hwait

theorem next_resume (h : r.HoldsRightly) (number : Nat) :
    (r.next (.resume number)).HoldsRightly := by
  obtain ⟨old, hold, hnext⟩ | ⟨-, hsame⟩ := r.next_resume_cases number
  · have hlatest : (r.next (.resume number)).IsLatest
        ((r.next (.resume number)).navigations.length - 1) := by
      have hlength : (r.next (.resume number)).navigations.length = r.navigations.length := by
        rw [hnext]
        exact List.length_set
      rw [hlength]
      exact h.isLatest.next id
    have horderly : (r.next (.resume number)).panel.tickets.IsOrderly := by
      rw [hnext]
      change (r.panel.resume old).2.tickets.IsOrderly
      rw [FindPanel.tickets_resume]
      exact h.isOrderly
    cases hcurrent : r.panel.tickets.isCurrent old.ticket with
    | true =>
        have hactive := h.isActive_iff.mpr ⟨number, old, hold, hcurrent⟩
        have hleaves := FindPanel.HoldsUntilDone.resume hcurrent hactive
        refine ⟨h.isTicketed.next _, horderly, hlatest, ?_, fun hunmounted => ?_⟩
        · rw [isNavigating_next_resume_iff h.isLatest hold hcurrent, hnext]
          exact hleaves.isActive_iff
        · rw [hnext] at hunmounted
          have hgone := (r.panel.unmounted_resume old).symm.trans hunmounted
          exact absurd ((h.isActive_of_unmounted hgone).symm.trans hactive) Bool.false_ne_true
    | false =>
        refine ⟨h.isTicketed.next _, horderly, hlatest, ?_, ?_⟩
        · rw [isNavigating_next_resume_of_stale hold hcurrent, hnext,
            FindPanel.resume_of_not_isCurrent hcurrent]
          exact h.isActive_iff
        · rw [hnext, FindPanel.resume_of_not_isCurrent hcurrent]
          exact h.isActive_of_unmounted
  · rw [hsame]
    exact h

theorem next (h : r.HoldsRightly) (step : PanelStep σ) : (r.next step).HoldsRightly := by
  cases step with
  | start term n => exact h.next_start term n
  | resume number => exact h.next_resume number
  | clear => exact h.next_cancel (.inl rfl)
  | unmount => exact h.next_cancel (.inr rfl)
  | highlightTerm term =>
      exact ⟨h.isTicketed, h.isOrderly, h.isLatest, h.isActive_iff, h.isActive_of_unmounted⟩
  | watch =>
    exact ⟨h.isTicketed, h.isOrderly, h.isLatest, h.isActive_iff, h.isActive_of_unmounted⟩
  | moveSurface move =>
      exact ⟨h.isTicketed, h.isOrderly, h.isLatest, h.isActive_iff, h.isActive_of_unmounted⟩
  | setTranscript t =>
      exact ⟨h.isTicketed, h.isOrderly, h.isLatest, h.isActive_iff, h.isActive_of_unmounted⟩

theorem run (h : r.HoldsRightly) (steps : List (PanelStep σ)) : (r.run steps).HoldsRightly := by
  induction steps generalizing r with
  | nil => exact h
  | cons step steps ih => exact ih (h.next step)

end HoldsRightly

variable [SteadySurface σ]

theorem HoldsRightly.lets_follow_start (h : r.HoldsRightly) (term : String) (n : Nat) :
    (r.Ends (.start term n) ∧ r.panel.LetsFollow (r.next (.start term n)).panel) ∨
      ¬ r.Ends (.start term n) ∧
        (r.next (.start term n)).panel.hold.saved = some r.panel.isDueToFollow := by
  have hends : r.Ends (.start term n) ↔ ¬ (r.panel.goTo term n).1.IsWaiting := by
    rw [Progress.not_isWaiting_iff]
    exact exists_congr fun outcome => returned_next_start_iff
  rw [hends, Classical.not_not]
  exact (FindPanel.HoldsUntilDone.goTo h.isOrderly h.isActive_of_unmounted term n).symm

/-- As long as no step makes an end of the navigations, the surface is kept from following; one
that does lets it follow again. -/
theorem HoldsRightly.lets_follow (h : r.HoldsRightly) {due : Bool}
    (hsaved : r.panel.hold.saved = some due) (step : PanelStep σ) :
    (r.Ends step ∧ r.panel.LetsFollow (r.next step).panel) ∨
      ¬ r.Ends step ∧ (r.next step).panel.hold.saved = some due := by
  have hdue := FindPanel.isDueToFollow_of_saved hsaved
  have hactive : r.panel.hold.isActive = true := congrArg Option.isSome hsaved
  cases step with
  | start term n => exact hdue ▸ h.lets_follow_start term n
  | clear => exact .inl ⟨trivial, .clear r.panel⟩
  | unmount =>
    exact .inl
      ⟨trivial, (FindPanel.LetsFollow.clear { r.panel with unmounted := true }).of_shows rfl id⟩
  | highlightTerm term => exact .inr ⟨id, hsaved⟩
  | watch => exact .inr ⟨id, hsaved⟩
  | moveSurface move => exact .inr ⟨id, hsaved⟩
  | setTranscript t => exact .inr ⟨id, hsaved⟩
  | resume number =>
      obtain ⟨latest, wait, hwait, hcurrent⟩ := h.isActive_iff.mp hactive
      have hlatest := h.isLatest.number_eq hwait hcurrent
      have hlt : latest < r.navigations.length := hwait.lt_length
      by_cases heq : number = latest
      · subst heq
        have hends : r.Ends (.resume number) ↔ ¬ (r.panel.resume wait).1.IsWaiting := by
          rw [Progress.not_isWaiting_iff, Ends, and_iff_right (by omega)]
          exact exists_congr fun outcome => returned_next_resume_iff hwait
        rw [hends, Classical.not_not, next_resume_of_waits hwait, ← hdue]
        exact (FindPanel.HoldsUntilDone.resume hcurrent hactive).symm
      · refine .inr ⟨fun hends => heq (by have := hends.1; omega), ?_⟩
        obtain ⟨old, hold, hnext⟩ | ⟨-, hsame⟩ := r.next_resume_cases number
        · have hstale := (h.isLatest number old hold (hlatest ▸ heq)).isCurrent hold
          rw [hnext, FindPanel.resume_of_not_isCurrent hstale]
          exact hsaved
        · rw [hsame]
          exact hsaved

theorem HoldsRightly.isFollowing_of_ends (h : r.HoldsRightly)
    (hsaved : r.panel.hold.saved = some true)
    {middle : List (PanelStep σ)} (hmiddle : r.GoesOn middle) {last : PanelStep σ}
    (hends : (r.run middle).Ends last) :
    let ending := r.run middle
    let after := (ending.next last).panel
    Shows ending.panel.surface ending.panel.transcript →
      isAtBottom after.surface after.transcript = true → isFollowing after.surface = true := by
  induction middle generalizing r with
  | nil =>
      intro ending after hshows hbottom
      rcases h.lets_follow hsaved last with ⟨-, hlets⟩ | ⟨hnot, -⟩
      · exact hlets.follows hshows (FindPanel.isDueToFollow_of_saved hsaved) hbottom
      · exact absurd hends hnot
  | cons step steps ih =>
      obtain ⟨hgoes, hsteps⟩ := hmiddle
      rcases h.lets_follow hsaved step with ⟨hnow, -⟩ | ⟨-, hstill⟩
      · exact absurd hnow hgoes
      · exact ih (h.next step) hstill hsteps hends

/-- The surface is kept from following just as long as the navigation that holds the current
ticket waits.  A surface that followed when the first of some overlapping navigations began, and
that shows the end when the latest one ends in whatever way, or when the search is cleared,
follows again. -/
theorem follows_again (t : Transcript) (s : σ) (settings : FindSettings)
    (before : List (PanelStep σ)) :
    let r := (new (.new t s settings)).run before
    (r.panel.hold.isActive = true ↔ r.IsNavigating) ∧
      ((∀ number wait, ¬ r.Waits number wait) → r.panel.hold.isActive = false) ∧
      (¬ r.IsNavigating → isFollowing r.panel.surface = true →
        ∀ term n middle last, (middle ++ [last]).head? = some (.start term n) →
          r.GoesOn middle → (r.run middle).Ends last →
            let ending := (r.run middle).panel
            let after := ((r.run middle).next last).panel
            Shows ending.surface ending.transcript →
              isAtBottom after.surface after.transcript = true →
                isFollowing after.surface = true) := by
  intro r
  have hheld : r.HoldsRightly := (HoldsRightly.new rfl rfl).run before
  refine ⟨hheld.isActive_iff, fun hidle => ?_, ?_⟩
  · refine Bool.eq_false_iff.mpr fun hactive => ?_
    obtain ⟨number, wait, hwait, -⟩ := hheld.isActive_iff.mp hactive
    exact hidle number wait hwait
  · intro hidle hfollowing term n middle last hfirst hmiddle hends
    have hinactive : r.panel.hold.isActive = false :=
      Bool.eq_false_iff.mpr fun hactive => hidle (hheld.isActive_iff.mp hactive)
    have hdue := (FindPanel.isDueToFollow_of_not_isActive hinactive).trans hfollowing
    cases middle with
    | nil =>
        obtain rfl : last = .start term n := Option.some.inj hfirst
        intro ending after hshows hbottom
        rcases hheld.lets_follow_start term n with ⟨-, hlets⟩ | ⟨hnot, -⟩
        · exact hlets.follows hshows hdue hbottom
        · exact absurd hends hnot
    | cons step steps =>
        obtain rfl : step = .start term n := Option.some.inj hfirst
        obtain ⟨hgoes, hsteps⟩ := hmiddle
        rcases hheld.lets_follow_start term n with ⟨hnow, -⟩ | ⟨-, hsaved⟩
        · exact absurd hnow hgoes
        · rw [hdue] at hsaved
          exact (hheld.next _).isFollowing_of_ends hsaved hsteps hends

/-- A panel whose surface follows the end, though the scrolls of a search wait until they are
settled. -/
def followingPanel : FindPanel PagedSurface :=
  .new threeMatches
    { PagedSurface.new threeMatches 1 with holdsScrolls := true, following := true } {}

theorem follows_again_held :
    let middle : List (PanelStep PagedSurface) :=
      [.start "match" 2, .start "match" 3, .moveSurface (·.settle threeMatches), .resume 0]
    let r := (new followingPanel).run []
    let ending := r.run middle
    let after := (ending.next (.resume 1)).panel
    ¬ r.IsNavigating ∧ isFollowing r.panel.surface = true ∧ r.GoesOn middle ∧
      ending.Ends (.resume 1) ∧ isFollowing ending.panel.surface = false ∧
      isAtBottom after.surface after.transcript = true ∧ isFollowing after.surface = true ∧
      (∀ number wait, ¬ (r.run (middle ++ [.resume 1])).Waits number wait) ∧
      (r.run (middle ++ [.resume 1])).panel.hold.isActive = false := by
  intro middle r ending after
  have hidle : ¬ r.IsNavigating := by
    rintro ⟨number, wait, hwait, -⟩
    simp [r, run, Waits, new] at hwait
  have hsecond : (r.panel.goTo "match" 2).1 = .waiting ⟨"match", 1, 1, 1⟩ := by decide +kernel
  have hthird : ((r.next (.start "match" 2)).panel.goTo "match" 3).1 =
      .waiting ⟨"match", 2, 2, 1⟩ := by
    decide +kernel
  have hgoes : r.GoesOn middle := by
    refine ⟨?_, ?_, id, fun hends => ?_, trivial⟩
    · rintro ⟨outcome, hreturned⟩
      exact Progress.noConfusion (hsecond.symm.trans (returned_next_start_iff.mp hreturned))
    · rintro ⟨outcome, hreturned⟩
      exact Progress.noConfusion (hthird.symm.trans (returned_next_start_iff.mp hreturned))
    · exact absurd hends.1 (by decide +kernel)
  have hwait : ending.Waits 1 ⟨"match", 2, 2, 1⟩ := by
    unfold Waits
    decide +kernel
  have hends : ending.Ends (.resume 1) := by
    refine ⟨by decide +kernel, .found ⟨2, "event-2", 1, ⟨"event-2", 2, 1, 0, 5⟩⟩, ?_⟩
    rw [returned_next_resume_iff hwait]
    decide +kernel
  have hbottom : isAtBottom after.surface after.transcript = true := by decide +kernel
  have hfinished : ∀ number wait, ¬ (r.run (middle ++ [.resume 1])).Waits number wait := by
    have hended : ∀ progress ∈ (r.run (middle ++ [.resume 1])).navigations,
        ¬ progress.IsWaiting := by
      have hall : (r.run (middle ++ [.resume 1])).navigations = [.done .superseded,
          .done (.found ⟨2, "event-2", 1, ⟨"event-2", 2, 1, 0, 5⟩⟩)] := by decide +kernel
      rw [hall, List.forall_mem_cons, List.forall_mem_singleton]
      exact ⟨Progress.not_isWaiting_done _, Progress.not_isWaiting_done _⟩
    intro number wait hwaits
    exact hended _ (List.mem_of_getElem? hwaits) ⟨wait, rfl⟩
  obtain ⟨-, -, hfollows⟩ := follows_again threeMatches followingPanel.surface {} []
  obtain ⟨-, hinactive, -⟩ := follows_again threeMatches followingPanel.surface {}
    (middle ++ [.resume 1])
  refine ⟨hidle, rfl, hgoes,
    hends, by decide +kernel, hbottom, ?_, hfinished, hinactive hfinished⟩
  exact hfollows hidle rfl "match" 2 middle (.resume 1) rfl hgoes hends trivial hbottom

end PanelRun

end TranscriptSearch
