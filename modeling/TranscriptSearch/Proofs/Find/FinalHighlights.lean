import TranscriptSearch.Proofs.Find.SteadySurfaces
import TranscriptSearch.Proofs.Find.Superseding

namespace TranscriptSearch

open RenderSurface SteadySurface

namespace NavOutcome

/-- What is to be highlighted as the current occurrence. -/
def spans : NavOutcome → List RenderedSpan
  | .found target => [target.span]
  | _ => []

/-- Whether a navigation has ended before it came to any item. -/
def IsEarly : NavOutcome → Prop
  | .notFound .noMatches => True
  | .notFound .indexOutOfRange => True
  | .notFound .panelUnavailable => True
  | _ => False

theorem ne_of_not_isEarly {outcome : NavOutcome} (h : ¬ outcome.IsEarly) :
    outcome ≠ .notFound .noMatches ∧ outcome ≠ .notFound .indexOutOfRange := by
  constructor
  · rintro rfl
    exact h trivial
  · rintro rfl
    exact h trivial

end NavOutcome

variable {σ : Type} [RenderSurface σ]

/-- Whether a target names an item, and the place that a surface gives for the occurrence. -/
structure MatchTarget.IsPlacedBy (target : MatchTarget) (s : σ) (t : Transcript) (term : String) :
    Prop where
  item : ∃ item, t.item? target.itemIndex = some item ∧ item.id = target.itemId
  locate_eq : (locate s t target.itemId term target.occurrence).1 = some target.span

theorem MatchTarget.IsPlacedBy.of_alike {target : MatchTarget} {s after : σ} {t : Transcript}
    {term : String} (h : target.IsPlacedBy s t term) (halike : AnswersAlike t s after) :
    target.IsPlacedBy after t term :=
  ⟨h.item, (halike.locate_eq target.itemId term target.occurrence).trans h.locate_eq⟩

theorem not_isEarly_land {t : Transcript} {kept : Option KeptCounts} {term : String} {live : Bool}
    {s : σ} {index occurrence : Nat} {outcome : NavOutcome}
    (h : (land t kept term live s index occurrence).1 = .done outcome) : ¬ outcome.IsEarly := by
  fun_induction land t kept term live s index occurrence with
  | case6 s index occurrence item hitem shown counted hcount hgt next hnext how seen
    hhow hseen ih =>
      exact ih h
  | case7 s index occurrence item hitem shown counted hcount hgt next hnext seen hseen =>
      exact Landing.noConfusion h
  | _ =>
      obtain rfl := Landing.done.inj h
      exact id

theorem not_isEarly_approach {t : Transcript} {kept : Option KeptCounts} {term : String}
    {s : σ} {index occurrence : Nat} {outcome : NavOutcome}
    (h : (approach t kept term s index occurrence).1 = .done outcome) : ¬ outcome.IsEarly := by
  rw [approach] at h
  split at h
  · exact not_isEarly_land h
  · exact Landing.noConfusion h

theorem FindPanel.not_isEarly_advance {p : FindPanel σ} {outcome : NavOutcome} {term : String}
    {ticket : Nat} {landing : Landing × σ}
    (hlanding : ∀ outcome, landing.1 = .done outcome → ¬ outcome.IsEarly)
    (h : (p.advance term ticket landing).1 = .done outcome) : ¬ outcome.IsEarly := by
  obtain ⟨landed | ⟨index, occurrence⟩, s⟩ := landing
  · have hconcluded :
        (({ p with surface := s } : FindPanel σ).conclude term ticket landed).1 = outcome :=
      Progress.done.inj h
    rw [conclude] at hconcluded
    split at hconcluded
    · exact hconcluded ▸ hlanding landed rfl
    · exact hconcluded ▸ id
  · exact Progress.noConfusion h

theorem FindPanel.not_isEarly_resume {p : FindPanel σ} {outcome : NavOutcome} {wait : Waiting}
    (h : (p.resume wait).1 = .done outcome) : ¬ outcome.IsEarly := by
  rw [resume] at h
  simp only at h
  split at h
  · exact not_isEarly_advance (fun _ => not_isEarly_land) h
  · obtain rfl := Progress.done.inj h
    exact id

variable [SteadySurface σ]

theorem SteadySurface.isPlacedBy_land {t : Transcript} {kept : Option KeptCounts} {term : String}
    {live : Bool} {s : σ} (h : Shows s t) {index occurrence : Nat} {target : MatchTarget}
    (hfound : (land t kept term live s index occurrence).1 = .done (.found target)) :
    target.IsPlacedBy (land t kept term live s index occurrence).2 t term := by
  fun_induction land t kept term live s index occurrence with
  | case2 s index occurrence item hitem shown counted hcount hle span located hlocate =>
      obtain rfl := NavOutcome.found.inj (Landing.done.inj hfound)
      have hcounted := occurrenceCount_eq h item.id term
      rw [hcount] at hcounted
      obtain rfl : counted = s := hcounted
      have hlocated := locate_eq h item.id term occurrence
      rw [hlocate] at hlocated
      obtain rfl : located = counted := hlocated
      exact ⟨⟨item, hitem, rfl⟩, congrArg Prod.fst hlocate⟩
  | case6 s index occurrence item hitem shown counted hcount hgt next hnext how seen
    hhow hseen ih =>
      have hcounted := occurrenceCount_eq h item.id term
      rw [hcount] at hcounted
      obtain rfl : counted = s := hcounted
      have hshows := shows_ensureVisible h next (!live)
      rw [hseen] at hshows
      exact ih hshows hfound
  | case3 s index occurrence item hitem shown counted hcount hle located hlocate =>
      exact NavOutcome.noConfusion (Landing.done.inj hfound)
  | case7 s index occurrence item hitem shown counted hcount hgt next hnext seen hseen =>
      exact Landing.noConfusion hfound
  | _ => exact NavOutcome.noConfusion (Landing.done.inj hfound)

theorem SteadySurface.isPlacedBy_approach {t : Transcript} {kept : Option KeptCounts}
    {term : String}
    {s : σ} (h : Shows s t) {index occurrence : Nat} {target : MatchTarget}
    (hfound : (approach t kept term s index occurrence).1 = .done (.found target)) :
    target.IsPlacedBy (approach t kept term s index occurrence).2 t term := by
  have hshows := shows_ensureVisible h index false
  rw [approach] at hfound ⊢
  split at hfound
  · next how seen hseen =>
      rw [hseen] at hshows
      exact isPlacedBy_land hshows hfound
  · exact Landing.noConfusion hfound

namespace FindPanel

variable {p q after : FindPanel σ} {term : String} {outcome : NavOutcome}

/-- Whether a panel shows, in one layer, the occurrences of a term in the window, and in the other
what is current. -/
structure IsPainted (p : FindPanel σ) (term : String) (current : List RenderedSpan) : Prop where
  all_eq : layer p.surface .all =
    (visibleOccurrences p.surface p.transcript term p.settings.maxHighlightSpans).1
  current_eq : layer p.surface .current = current

theorem isPainted_refresh (h : Shows p.surface p.transcript) {highlighting : Highlighting}
    (hterm : highlighting.term = some term) (shown : Highlighting) :
    IsPainted { p with
      highlighting := shown
      surface := highlighting.refresh p.surface p.transcript p.settings.maxHighlightSpans } term
      (highlighting.anchor.bind fun anchor =>
        (locate p.surface p.transcript anchor.1 term anchor.2).1).toList := by
  have halike := alike_refresh h highlighting p.settings.maxHighlightSpans
  refine ⟨?_, ?_⟩
  · refine Eq.trans ?_ (halike.visibleOccurrences_eq term p.settings.maxHighlightSpans).symm
    change layer (highlighting.refresh _ _ _) .all = _
    rw [refresh_eq_paint h hterm]
    split
    · simp [layer_applyHighlight]
    · simp [layer_applyHighlight, layer_clearHighlight]
  · change layer (highlighting.refresh _ _ _) .current = _
    rw [refresh_eq_paint h hterm]
    split
    · next span hspan => rw [hspan, layer_applyHighlight, if_pos rfl, Option.toList_some]
    · next hnone => rw [hnone, layer_clearHighlight, if_pos rfl, Option.toList_none]

/-- Whether a panel shows how a navigation for a term has ended. -/
structure Presents (p : FindPanel σ) (term : String) (outcome : NavOutcome) : Prop where
  shows : Shows p.surface p.transcript
  isPainted : p.IsPainted term outcome.spans
  isPlacedBy : ∀ target, outcome = .found target → target.IsPlacedBy p.surface p.transcript term

theorem presents_highlightTarget {target : MatchTarget} (h : Shows p.surface p.transcript)
    (hplaced : target.IsPlacedBy p.surface p.transcript term) :
    (p.highlightTarget term target).Presents term (.found target) := by
  let highlighting : Highlighting := { p.highlighting with
    term := some term, anchor := some (target.itemId, target.occurrence) }
  refine ⟨shows_refresh h highlighting _, ?_, ?_⟩
  · have hpainted : (p.highlightTarget term target).IsPainted term _ :=
      isPainted_refresh h (show highlighting.term = some term from rfl)
        (p.highlightTarget term target).highlighting
    have hspan : (highlighting.anchor.bind fun anchor =>
        (locate p.surface p.transcript anchor.1 term anchor.2).1) = some target.span :=
      hplaced.locate_eq
    rw [hspan] at hpainted
    exact hpainted
  · rintro _ ⟨⟩
    exact hplaced.of_alike (alike_refresh h highlighting _)

theorem presents_highlightTerm (h : Shows p.surface p.transcript) (reason : NotFoundReason) :
    (p.highlightTerm term).Presents term (.notFound reason) := by
  let highlighting : Highlighting := { p.highlighting with term := some term, anchor := none }
  let cleared : FindPanel σ := { p with surface := clearHighlight p.surface .current }
  have hcleared : Shows cleared.surface cleared.transcript := shows_clearHighlight h .current
  refine ⟨shows_refresh hcleared highlighting _, ?_, fun _ heq => NavOutcome.noConfusion heq⟩
  exact isPainted_refresh hcleared (show highlighting.term = some term from rfl)
    (p.highlightTerm term).highlighting

theorem presents_conclude {ticket : Nat} (h : Shows p.surface p.transcript)
    (hplaced : ∀ target, outcome = .found target → target.IsPlacedBy p.surface p.transcript term)
    (hcurrent : p.tickets.isCurrent ticket = true) (hne : outcome ≠ .superseded) :
    (p.conclude term ticket outcome).2.Presents term outcome := by
  have hrestored := shows_restoreFollowing h
  rw [conclude, if_pos hcurrent]
  cases outcome with
  | found target =>
      exact presents_highlightTarget hrestored
        ((hplaced target rfl).of_alike (alike_restoreFollowing h))
  | notFound reason => exact presents_highlightTerm hrestored reason
  | superseded => exact absurd rfl hne

theorem presents_advance {ticket : Nat} {landing : Landing × σ} (h : Shows landing.2 p.transcript)
    (hplaced : ∀ target, landing.1 = .done (.found target) →
      target.IsPlacedBy landing.2 p.transcript term)
    (hdone : p.advance term ticket landing = (.done outcome, after))
    (hne : outcome ≠ .superseded) :
    landing.1 = .done outcome ∧ after.Presents term outcome := by
  rcases landing with ⟨landed | ⟨index, occurrence⟩, s⟩
  · obtain ⟨hprogress, rfl⟩ := Prod.mk.inj hdone
    have houtcome : ({ p with surface := s }.conclude term ticket landed).1 = outcome :=
      Progress.done.inj hprogress
    by_cases hcurrent : p.tickets.isCurrent ticket = true
    · have hsame : landed = outcome := by
        rw [← houtcome, conclude, if_pos hcurrent]
      subst hsame
      refine ⟨rfl,
        presents_conclude (p := { p with surface := s }) h (fun target hfound => ?_) hcurrent hne⟩
      exact hplaced target (congrArg Landing.done hfound)
    · rw [conclude, if_neg hcurrent] at houtcome
      exact absurd houtcome.symm hne
  · exact Progress.noConfusion (Prod.mk.inj hdone).1

theorem presents_goTo {n : Nat} (h : Shows p.surface p.transcript)
    (hdone : p.goTo term n = (.done outcome, after)) (hne : outcome ≠ .superseded) :
    (outcome.IsEarly ∧ ∀ kind, layer after.surface kind = layer p.surface kind) ∨
      ¬ outcome.IsEarly ∧ after.Presents term outcome := by
  obtain ⟨-, heq⟩ | ⟨reason, hreason, heq⟩ | ⟨location, heq⟩ := p.goTo_cases term n
  · obtain ⟨hprogress, rfl⟩ := Prod.mk.inj (heq.symm.trans hdone)
    obtain rfl := Progress.done.inj hprogress
    exact .inl ⟨trivial, fun _ => rfl⟩
  · obtain ⟨hprogress, rfl⟩ := Prod.mk.inj (heq.symm.trans hdone)
    obtain rfl := Progress.done.inj hprogress
    refine .inl ⟨?_, layer_restoreFollowing _⟩
    rcases hreason with rfl | rfl <;> trivial
  · have hsuppressed := shows_suppressFollowing
      (p := (FindPanel.count { p with tickets := p.tickets.issue.2 } term).2) h
    obtain ⟨hlanded, hpresents⟩ := presents_advance
      (p := (FindPanel.count { p with tickets := p.tickets.issue.2 } term).2.suppressFollowing)
      (shows_approach hsuppressed _ term location.item location.occurrence)
      (fun _ => isPlacedBy_approach hsuppressed) (heq.symm.trans hdone) hne
    exact .inr ⟨not_isEarly_approach hlanded, hpresents⟩

theorem presents_resume {wait : Waiting} (h : Shows p.surface p.transcript)
    (hdone : p.resume wait = (.done outcome, after)) (hne : outcome ≠ .superseded) :
    ¬ outcome.IsEarly ∧ after.Presents wait.term outcome := by
  have hended : Shows (endScroll p.surface) p.transcript := shows_setProgrammatic h false
  rw [resume] at hdone
  simp only at hdone
  split at hdone
  · obtain ⟨hlanded, hpresents⟩ := presents_advance
      (shows_land hended p.kept wait.term true wait.index wait.occurrence)
      (fun _ => isPlacedBy_land hended) hdone hne
    exact ⟨not_isEarly_land hlanded, hpresents⟩
  · obtain ⟨hprogress, -⟩ := Prod.mk.inj hdone
    exact absurd (Progress.done.inj hprogress).symm hne

theorem layer_clear (p : FindPanel σ) (kind : HighlightKind) :
    layer p.clear.surface kind = [] := by
  rw [clear]
  refine (layer_restoreFollowing _ kind).trans ?_
  change layer (clearHighlight (clearHighlight p.surface .all) .current) kind = []
  cases kind <;> simp [layer_clearHighlight]

omit [SteadySurface σ] in
theorem watch_eq (h : p.highlighting = .none) : p.watch = p := by
  obtain ⟨t, s, settings, kept, tickets, hold, highlighting, unmounted⟩ := p
  subst h
  rfl

end FindPanel

/-- Whether a step leaves the highlights of the surface to the navigations: what moves the surface
does not touch them, and no term is highlighted without one. -/
def PanelStep.KeepsLayers : PanelStep σ → Prop
  | .moveSurface move => ∀ s kind, layer (move s) kind = layer s kind
  | .highlightTerm _ => False
  | _ => True

namespace PanelRun

variable {r : PanelRun σ}

/-- Whether a panel is gone with its highlights, and no navigation that waits is going to put
any. -/
structure IsBare (r : PanelRun σ) : Prop where
  unmounted : r.panel.unmounted = true
  highlighting_eq : r.panel.highlighting = .none
  isStale : ∀ number wait, r.Waits number wait → r.panel.tickets.IsStale wait.ticket
  layer_eq : ∀ kind, layer r.panel.surface kind = []

theorem IsTicketed.isBare_next_unmount (h : r.IsTicketed) : (r.next .unmount).IsBare :=
  ⟨rfl, rfl, fun number wait hwait => (h number wait hwait).isStale_cancelAll,
    FindPanel.layer_clear { r.panel with unmounted := true }⟩

namespace IsBare

theorem next_resume (h : r.IsBare) {number : Nat} {old : Waiting} (hold : r.Waits number old) :
    (r.next (.resume number)).IsBare := by
  have hstale := h.isStale number old hold
  have hnext := IsSuperseded.next_resume hold hstale
  refine ⟨?_, ?_, fun other wait hwait => ?_, fun kind => ?_⟩
  · rw [hnext]
    exact h.unmounted
  · rw [hnext]
    exact h.highlighting_eq
  · have hbefore : r.Waits other wait := by
      rcases (waits_next_resume_iff hold).mp hwait with ⟨-, hbefore⟩ | ⟨-, hprogress⟩
      · exact hbefore
      · rw [FindPanel.resume_of_not_isCurrent hstale.isCurrent] at hprogress
        exact Progress.noConfusion hprogress
    rw [hnext]
    exact h.isStale other wait hbefore
  · rw [hnext]
    exact (layer_setProgrammatic r.panel.surface false kind).trans (h.layer_eq kind)

theorem next (h : r.IsBare) {step : PanelStep σ} (hkeeps : step.KeepsLayers) :
    (r.next step).IsBare := by
  cases step with
  | start term n =>
      have hgoTo := FindPanel.goTo_of_unmounted h.unmounted term n
      have hpanel : (r.next (.start term n)).panel =
          { r.panel with tickets := r.panel.tickets.issue.2 } := congrArg Prod.snd hgoTo
      refine ⟨?_, ?_, fun number wait hwait => ?_, ?_⟩
      · rw [hpanel]
        exact h.unmounted
      · rw [hpanel]
        exact h.highlighting_eq
      · rw [hpanel]
        rcases waits_next_start_iff.mp hwait with hbefore | ⟨-, hprogress⟩
        · exact (h.isStale number wait hbefore).isIssued.isStale_issue
        · rw [hgoTo] at hprogress
          exact Progress.noConfusion hprogress
      · rw [hpanel]
        exact h.layer_eq
  | resume number =>
      obtain ⟨old, hold, -⟩ | ⟨-, hsame⟩ := r.next_resume_cases number
      · exact h.next_resume hold
      · rw [hsame]
        exact h
  | clear =>
      exact ⟨h.unmounted, rfl,
        fun number wait hwait => (h.isStale number wait hwait).isIssued.isStale_cancelAll,
        r.panel.layer_clear⟩
  | unmount =>
      exact ⟨rfl, rfl,
        fun number wait hwait => (h.isStale number wait hwait).isIssued.isStale_cancelAll,
        FindPanel.layer_clear { r.panel with unmounted := true }⟩
  | highlightTerm term => exact hkeeps.elim
  | watch =>
      have hwatch : r.panel.watch = r.panel := FindPanel.watch_eq h.highlighting_eq
      rw [PanelRun.next, hwatch]
      exact h
  | moveSurface move =>
      exact ⟨h.unmounted, h.highlighting_eq, h.isStale,
        fun kind => (hkeeps _ kind).trans (h.layer_eq kind)⟩
  | setTranscript t => exact ⟨h.unmounted, h.highlighting_eq, h.isStale, h.layer_eq⟩

theorem run (h : r.IsBare) {steps : List (PanelStep σ)}
    (hkeeps : ∀ step ∈ steps, step.KeepsLayers) :
    (r.run steps).IsBare := by
  induction steps generalizing r with
  | nil => exact h
  | cons step steps ih =>
      have hnext := h.next (hkeeps step List.mem_cons_self)
      exact ih hnext fun later hlater => hkeeps later (List.mem_cons_of_mem step hlater)

end IsBare

end PanelRun

namespace FindPanel

/-- A navigation that has come to some item and is not superseded leaves highlighted the
occurrences of its term in the window and, as the current one, what it has found or else nothing.
One that has come to no item leaves the highlights as they were.  Those of a panel that is gone
are empty, whatever begins or ends on it. -/
theorem highlights_of_outcome {p after : FindPanel σ} {term : String} {outcome : NavOutcome}
    (hshows : Shows p.surface p.transcript)
    (hdone : (∃ n, p.goTo term n = (.done outcome, after)) ∨
      ∃ wait : Waiting, wait.term = term ∧ p.resume wait = (.done outcome, after))
    (hne : outcome ≠ .superseded) :
    (¬ outcome.IsEarly → layer after.surface .current = outcome.spans ∧
        layer after.surface .all = (visibleOccurrences after.surface after.transcript term
          after.settings.maxHighlightSpans).1) ∧
      (outcome.IsEarly → ∀ kind, layer after.surface kind = layer p.surface kind) ∧
      ∀ (panel : FindPanel σ) (before later : List (PanelStep σ)),
        (∀ step ∈ later, step.KeepsLayers) →
          let gone := (((PanelRun.new panel).run before).next .unmount).run later
          ∀ kind, layer gone.panel.surface kind = [] := by
  have hended : (outcome.IsEarly ∧ ∀ kind, layer after.surface kind = layer p.surface kind) ∨
      ¬ outcome.IsEarly ∧ after.Presents term outcome := by
    rcases hdone with ⟨n, hgoTo⟩ | ⟨wait, rfl, hresume⟩
    · exact presents_goTo hshows hgoTo hne
    · exact .inr (presents_resume hshows hresume hne)
  refine ⟨fun hcame => ?_, fun hearly => ?_, fun panel before later hlater => ?_⟩
  · rcases hended with ⟨hearly, -⟩ | ⟨-, hpresents⟩
    · exact absurd hearly hcame
    · exact ⟨hpresents.isPainted.current_eq, hpresents.isPainted.all_eq⟩
  · rcases hended with ⟨-, hsame⟩ | ⟨hcame, -⟩
    · exact hsame
    · exact absurd hearly hcame
  · have hticketed := (PanelRun.isTicketed_new panel).run before
    exact (hticketed.isBare_next_unmount.run hlater).layer_eq

/-- A panel with the first item in its window, whose scrolls take effect at once. -/
def pagedPanel : FindPanel PagedSurface :=
  .new threeMatches (.new threeMatches 1) {}

theorem highlights_of_outcome_found :
    let target : MatchTarget := ⟨1, "event-1", 1, ⟨"event-1", 1, 1, 0, 5⟩⟩
    let after := (pagedPanel.goTo "match" 2).2
    (pagedPanel.goTo "match" 2).1 = .done (.found target) ∧
      layer after.surface .current = [target.span] ∧ layer after.surface .all = [target.span] ∧
      (after.goTo "zebra" 1).1 = .done (.notFound .noMatches) ∧
      ∀ kind, layer (after.goTo "zebra" 1).2.surface kind = layer after.surface kind := by
  intro target after
  have hfound : (pagedPanel.goTo "match" 2).1 = .done (.found target) := by decide +kernel
  have hnone : (after.goTo "zebra" 1).1 = .done (.notFound .noMatches) := by decide +kernel
  obtain ⟨hpainted, -⟩ := highlights_of_outcome (p := pagedPanel) trivial
    (.inl ⟨2, Prod.ext hfound rfl⟩) (fun heq => NavOutcome.noConfusion heq)
  obtain ⟨hcurrent, hall⟩ := hpainted id
  obtain ⟨-, hleft, -⟩ := highlights_of_outcome (p := after) trivial
    (.inl ⟨1, Prod.ext hnone rfl⟩) (fun heq => NavOutcome.noConfusion heq)
  exact ⟨hfound, hcurrent, hall.trans (by decide +kernel), hnone, hleft trivial⟩

/-- What an earlier navigation has found stays highlighted as the current occurrence when a later
one finds no match. -/
theorem stays_current_without_matches :
    let after := (pagedPanel.goTo "match" 2).2
    (after.goTo "zebra" 1).1 = .done (.notFound .noMatches) ∧
      layer (after.goTo "zebra" 1).2.surface .current = [⟨"event-1", 1, 1, 0, 5⟩] := by
  decide +kernel

end FindPanel

end TranscriptSearch
