import TranscriptSearch.Proofs.Find.FinalHighlights
import TranscriptSearch.Proofs.Find.HeldText
import TranscriptSearch.Proofs.Find.SearchedPanels
import TranscriptSearch.Proofs.Find.SessionLabels
import TranscriptSearch.Proofs.Transcript.Numbering

namespace TranscriptSearch

open RenderSurface

namespace FindSession

/-- What a session knows of the occurrences: their term, their number, and the cursor. -/
def tally (s : FindSession) : Option String × Nat × Option Nat :=
  (s.term, s.total, s.current)

/-- Whether the cursor is one of the occurrences. -/
def IsWithin (s : FindSession) : Prop :=
  ∀ c ∈ s.current, 1 ≤ c ∧ c ≤ s.total

variable {s after : FindSession}

theorem IsWithin.of_tally (h : s.IsWithin) (htally : after.tally = s.tally) : after.IsWithin := by
  have htotal : after.total = s.total := congrArg (·.2.1) htally
  have hcurrent : after.current = s.current := congrArg (·.2.2) htally
  rw [IsWithin, hcurrent, htotal]
  exact h

theorem isWithin_of_current (h : s.current = none) : s.IsWithin := by
  rw [IsWithin, h]
  exact fun c hc => absurd hc.symm (Option.some_ne_none c)

theorem tally_finish (s : FindSession) (seq : Nat) (outcome : NavOutcome) :
    (s.finish seq outcome).2.tally = s.tally := by
  obtain ⟨state, heq⟩ := s.finish_snd_eq seq outcome
  rw [heq]
  rfl

theorem tally_input (s : FindSession) (text : String) (now : Nat) :
    (s.input text now).tally = s.tally := by
  by_cases h : s.term = some text
  · rw [input_of_eq h]
    rfl
  · rw [input_of_ne h]
    rfl

theorem IsWithin.updateTotal (h : s.IsWithin) (total : Nat) : (s.updateTotal total).IsWithin := by
  by_cases hterm : s.term = none
  · rw [updateTotal_of_none hterm]
    exact h
  · intro c hc
    rw [current_updateTotal hterm] at hc
    rw [total_updateTotal hterm]
    split at hc
    · exact absurd hc.symm (Option.some_ne_none c)
    · next hany =>
        rw [hc] at hany
        exact ⟨(h c hc).1, Nat.le_of_not_lt (of_decide_eq_false (Bool.eq_false_iff.mpr hany))⟩

end FindSession

namespace FindPanel

variable {σ : Type} [RenderSurface σ] {p : FindPanel σ} {outcome : NavOutcome}

theorem not_isEarly_goTo {term : String} {n : Nat}
    (hright : ∀ counts ∈ p.kept, counts.IsRightOf p.transcript) (hmounted : p.unmounted = false)
    (hlocate : (p.transcript.locate? none term n).isSome = true)
    (h : (p.goTo term n).1 = .done outcome) : ¬ outcome.IsEarly := by
  obtain ⟨htotal, hcounted⟩ := Transcript.countAll_of_isRightOf hright term
  obtain ⟨hgone, -⟩ | ⟨hzero, -⟩ | ⟨hnone, -⟩ | ⟨location, -, heq⟩ := p.goTo_dispatch term n
  · exact absurd (hgone.symm.trans hmounted) (by decide)
  · have hbounds := Transcript.isSome_locate?_iff.mp hlocate
    omega
  · rw [Transcript.locate?_of_isRightOf hcounted, Option.eq_none_iff_forall_ne_some] at hnone
    obtain ⟨location, hlocation⟩ := Option.isSome_iff_exists.mp hlocate
    exact absurd hlocation (hnone location)
  · rw [heq] at h
    exact not_isEarly_advance (fun _ => not_isEarly_approach) h

end FindPanel

namespace Finder

variable {σ : Type}

/-- Whether a finder steps in its only panel, which has a certain transcript. -/
structure StepsIn (f : Finder σ) (t : Transcript) : Prop where
  registered_eq : f.registered = [(f.active, 0)]
  panel : ∃ p, f.panels = [p] ∧ p.transcript = t ∧ p.unmounted = false ∧
    ∀ counts ∈ p.kept, counts.IsRightOf t

/-- Whether the cursor of a finder is one of the occurrences that it has counted.  Unless the
finder is behind, it has counted those in the transcript of its panel. -/
structure Serves (f : Finder σ) (t : Transcript) (behind : Bool) : Prop where
  stepsIn : f.StepsIn t
  isWithin : f.session.IsWithin
  total_eq : behind = false → ∀ term, f.session.term = some term → f.session.total = t.total term

variable {f g : Finder σ} {t : Transcript} {behind : Bool}

namespace StepsIn

theorem searched (h : f.StepsIn t) (hsearched : f.Searched g) : g.StepsIn t where
  registered_eq := by rw [hsearched.registered_eq, hsearched.active_eq, h.registered_eq]
  panel := by
    obtain ⟨p, hpanels, rfl, hmounted, hright⟩ := h.panel
    obtain ⟨q, hpanels', hpq⟩ := hsearched.panels_eq_singleton hpanels
    exact ⟨q, hpanels', hpq.transcript_eq, hpq.unmounted_eq.trans hmounted, hpq.kept hright⟩

theorem number?_active (h : f.StepsIn t) : f.number? f.active = some 0 := by
  rw [number?, h.registered_eq, List.lookup_cons_self]

theorem countFor_active (h : f.StepsIn t) (term : String) :
    (f.countFor f.active term).1 = some (t.total term) := by
  obtain ⟨p, hpanels, rfl, -, hright⟩ := h.panel
  rw [countFor, h.number?_active]
  simp only [modifyGet, hpanels, List.getElem?_cons_zero, FindPanel.count]
  rw [(Transcript.countAll_of_isRightOf hright term).1]

theorem totals (h : f.StepsIn t) (term : String) : (f.totals term).2.1 = t.total term :=
  congrArg (·.getD 0) ((h.searched (.countAll f term)).countFor_active term)

end StepsIn

namespace Serves

theorem of_tally (h : f.Serves t behind) (hsearched : f.Searched g)
    (htally : g.session.tally = f.session.tally) : g.Serves t behind where
  stepsIn := h.stepsIn.searched hsearched
  isWithin := h.isWithin.of_tally htally
  total_eq hbehind term hterm := by
    have hterms : g.session.term = f.session.term := congrArg Prod.fst htally
    have htotals : g.session.total = f.session.total := congrArg (·.2.1) htally
    rw [htotals]
    exact h.total_eq hbehind term (hterms ▸ hterm)

theorem counted (h : f.Serves t behind) (hbehind : behind = false) : f.Serves t false :=
  hbehind ▸ h

theorem weaken (h : f.Serves t false) (behind : Bool) : f.Serves t behind :=
  ⟨h.stepsIn, h.isWithin, fun _ => h.total_eq rfl⟩

theorem recount (h : f.Serves t behind) : f.recount.2.Serves t false where
  stepsIn := h.stepsIn.searched (.recount f)
  isWithin := by
    obtain ⟨total, hrecount⟩ := f.session_recount
    rw [hrecount]
    exact h.isWithin.updateTotal total
  total_eq _ term hterm := by
    obtain ⟨total, hrecount⟩ := f.session_recount
    rw [hrecount, FindSession.term_updateTotal] at hterm
    rw [session_recount_of_some hterm, h.stepsIn.totals,
      FindSession.total_updateTotal (hterm ▸ Option.some_ne_none term)]

theorem modifyTranscript (h : f.Serves t behind) (change : Transcript → Transcript)
    (hlater : (change t).Extends t) :
    (f.modify 0 fun p => { p with transcript := change p.transcript }).Serves
      (change t) true where
  stepsIn := by
    obtain ⟨p, hpanels, rfl, hmounted, hright⟩ := h.stepsIn.panel
    refine ⟨h.stepsIn.registered_eq, { p with transcript := change p.transcript }, ?_,
      rfl, hmounted, fun counts hcounts => (hright counts hcounts).later hlater⟩
    simp only [modify, hpanels, List.modify_zero_cons]
  isWithin := h.isWithin
  total_eq hbehind := absurd hbehind (by decide)

variable [RenderSurface σ]

theorem commit (h : f.Serves t behind) (term : String) : (f.commit term).2.Serves t false where
  stepsIn := h.stepsIn.searched (.commit f term)
  isWithin := by
    rw [session_commit_eq]
    exact FindSession.isWithin_of_current rfl
  total_eq _ committed hcommitted := by
    rw [session_commit_eq, (h.stepsIn.searched (.clearAll f)).totals] at hcommitted ⊢
    change (if term = "" then none else some term) = some committed at hcommitted
    split at hcommitted
    · exact absurd hcommitted.symm (Option.some_ne_none committed)
    · exact Option.some.inj hcommitted ▸ rfl

theorem committed (h : f.Serves t false) (term : String) : (f.committed term).Serves t false := by
  rw [Finder.committed]
  split
  · exact h
  · exact h.commit term

theorem poll (h : f.Serves t false) (now : Nat) : (f.poll now).2.Serves t false := by
  cases hpoll : (f.session.poll now).1 with
  | none =>
      rw [poll_of_none hpoll]
      exact h
  | some text =>
      rw [poll_of_some hpoll]
      exact (h.of_tally
        (.withSession f { f.session with debouncer := f.session.debouncer.cancel })
        rfl).commit text

theorem clear (h : f.Serves t behind) : f.clear.Serves t behind where
  stepsIn := h.stepsIn.searched (.clear f)
  isWithin := by
    rw [session_clear]
    exact FindSession.isWithin_of_current rfl
  total_eq _ term hterm := by
    rw [session_clear] at hterm
    exact absurd hterm.symm (Option.some_ne_none term)

theorem step (h : f.Serves t false) (term : String) (direction : Direction) :
    (f.step term direction).2.Serves t false := by
  have hcommitted := h.committed term
  rcases hbegin : (f.committed term).session.begin? direction with _ | ⟨request, session⟩
  · rw [step_of_none hbegin]
    exact hcommitted
  · obtain ⟨navigation, after, hstep, hsession⟩ := step_of_some hbegin
    have hsearched := Searched.step f term direction
    rw [hstep] at hsearched ⊢
    obtain ⟨searched, index, hterm, hindex, -, rfl⟩ := FindSession.begin?_eq_some_iff.mp hbegin
    refine ⟨h.stepsIn.searched hsearched, ?_, ?_⟩
    · rw [hsession]
      rintro c ⟨⟩
      exact step_bounds hindex
    · rw [hsession]
      exact hcommitted.total_eq

/-- A step that begins asks the panel for an occurrence that there is. -/
theorem asks (h : f.Serves t false) {term : String} {direction : Direction}
    {request : NavigationRequest} {navigation : Navigation} {after : Finder σ}
    (hstep : f.step term direction = (some (request, navigation), after)) :
    ∃ p, (f.committed term).panels = [p] ∧ p.transcript = t ∧ p.unmounted = false ∧
      (∀ counts ∈ p.kept, counts.IsRightOf t) ∧
      navigation = ⟨0, (p.goTo request.term request.index).1⟩ ∧
      (t.locate? none request.term request.index).isSome = true := by
  have hcommitted := h.committed term
  obtain ⟨p, hpanels, htranscript, hmounted, hright⟩ := hcommitted.stepsIn.panel
  rcases hbegin : (f.committed term).session.begin? direction with _ | ⟨begun, session⟩
  · rw [step_of_none hbegin] at hstep
    exact absurd (congrArg Prod.fst hstep).symm (Option.some_ne_none _)
  · rw [step_eq, hbegin] at hstep
    obtain ⟨rfl, hnavigation⟩ := Prod.mk.inj (Option.some.inj (congrArg Prod.fst hstep))
    refine ⟨p, hpanels, htranscript, hmounted, hright, ?_, ?_⟩
    · rw [← hnavigation, goTo]
      have hnumber : Finder.number? { f.committed term with session } (f.committed term).active =
          some 0 := hcommitted.stepsIn.number?_active
      rw [hnumber]
      simp only [modifyGet, hpanels, List.getElem?_cons_zero, Option.getD_some]
    · obtain ⟨searched, index, hterm, hindex, rfl, -⟩ := FindSession.begin?_eq_some_iff.mp hbegin
      rw [Transcript.isSome_locate?_iff, ← hcommitted.total_eq rfl searched hterm]
      exact step_bounds hindex

end Serves

end Finder

namespace Schedule

variable {σ : Type} {s : Schedule σ} {t : Transcript} {behind : Bool}

theorem tally_follow (s : Schedule σ) (number : Nat) (requester : Requester) (panel : Nat)
    (progress : Progress) :
    (s.follow number requester panel progress).finder.session.tally = s.finder.session.tally := by
  cases progress with
  | waiting wait => rfl
  | done outcome =>
      cases requester with
      | session seq => exact FindSession.tally_finish _ _ _
      | _ => rfl

theorem tally_followLanding (s : Schedule σ) (number panel : Nat) (term : String)
    (landing : Landing) :
    (s.followLanding number panel term landing).finder.session.tally =
      s.finder.session.tally := by
  cases landing <;> rfl

theorem serves_follow (h : s.finder.Serves t behind) (number : Nat) (requester : Requester)
    (panel : Nat) (progress : Progress) :
    (s.follow number requester panel progress).finder.Serves t behind :=
  h.of_tally (searched_follow (.refl s.finder) number requester panel progress)
    (s.tally_follow number requester panel progress)

variable [RenderSurface σ]

theorem tally_resume (s : Schedule σ) (task : FindTask) :
    (s.resume task).finder.session.tally = s.finder.session.tally := by
  rw [resume]
  simp only
  split
  · exact (tally_follow _ _ _ _ _).trans
      (congrArg FindSession.tally (Finder.session_modifyGet _ _ _))
  · rfl
  · exact (tally_followLanding _ _ _ _ _).trans
      (congrArg FindSession.tally (Finder.session_modifyGet _ _ _))

/-- How far a step of the session gets when it begins or goes on. -/
def progress? (s : Schedule σ) : SearchStep σ → Option Progress
  | .start term direction => (s.finder.step term direction).1.map (·.2.progress)
  | .resume number =>
    match s.tasks.find? (·.number = number) with
    | some ⟨_, panel, .navigation (.session _) wait, _⟩ =>
      some ((s.finder.modifyGet panel (·.resume wait)).1.getD
        (.done (.notFound .panelUnavailable)))
    | _ => none
  | _ => none

theorem serves_beginStep (h : s.finder.Serves t false) (step : AskedStep) :
    (s.beginStep step).finder.Serves t false := by
  have hstep := h.step step.term step.direction
  rw [beginStep]
  simp only
  split
  · exact hstep
  · exact serves_follow hstep _ _ _ _

theorem serves_startGoTo (h : s.finder.Serves t behind) (id term : String) (n : Nat) :
    (s.startGoTo id term n).2.finder.Serves t behind := by
  have hwent : (s.finder.goTo id term n).2.Serves t behind :=
    h.of_tally (.goTo s.finder id term n)
      (congrArg FindSession.tally (Finder.session_goTo _ _ _ _))
  exact serves_follow (s := s.issue.2.withFinder (s.finder.goTo id term n).2) hwent _ _ _ _

theorem serves_resume (h : s.finder.Serves t behind) (task : FindTask) :
    (s.resume task).finder.Serves t behind :=
  h.of_tally (s.searched_resume task) (s.tally_resume task)

theorem not_isEarly_of_start (h : s.finder.Serves t false) {term : String} {direction : Direction}
    {outcome : NavOutcome} (hdone : s.progress? (.start term direction) = some (.done outcome)) :
    ¬ outcome.IsEarly := by
  obtain ⟨⟨request, navigation⟩, hbegun, hprogress⟩ := Option.map_eq_some_iff.mp hdone
  obtain ⟨p, -, rfl, hmounted, hright, rfl, hlocate⟩ := h.asks (Prod.ext hbegun rfl)
  exact FindPanel.not_isEarly_goTo hright hmounted hlocate hprogress

theorem ne_of_resume {number : Nat} {outcome : NavOutcome}
    (hdone : s.progress? (.resume number) = some (.done outcome)) :
    outcome ≠ .notFound .noMatches ∧ outcome ≠ .notFound .indexOutOfRange := by
  rw [progress?] at hdone
  split at hdone
  · next task panel seq wait deadline htask =>
      rw [Finder.modifyGet] at hdone
      split at hdone
      · obtain rfl := Progress.done.inj (Option.some.inj hdone)
        exact ⟨by decide, by decide⟩
      · exact NavOutcome.ne_of_not_isEarly (FindPanel.not_isEarly_resume (Option.some.inj hdone))
  · exact absurd hdone.symm (Option.some_ne_none _)

end Schedule

/-- Something that happens to a search in one panel. -/
inductive LiveStep (σ : Type) where
  | search (step : SearchStep σ)
  | append (sources : List SourceEvent)
  | reset
  /-- Somebody else counts or goes to occurrences in the panel, or its surface changes. -/
  | touch (update : FindPanel σ → FindPanel σ)

/-- A search, and whether its transcript has changed since the occurrences were counted last. -/
structure LiveSearch (σ : Type) where
  schedule : Schedule σ
  behind : Bool

namespace LiveSearch

variable {σ : Type} [RenderSurface σ]

/-- A search begins in a panel that is registered under the identifier to step in. -/
def new (active : String) (settings : FindSettings) (p : FindPanel σ) : LiveSearch σ :=
  ⟨.new (((Finder.new active settings).add p).2.register active 0), false⟩

def update (r : LiveSearch σ) (change : FindPanel σ → FindPanel σ) : Schedule σ :=
  r.schedule.withFinder (r.schedule.finder.modify 0 change)

/-- What a step makes of a search. -/
def next (r : LiveSearch σ) : LiveStep σ → LiveSearch σ
  | .search .recount => ⟨r.schedule.perform .recount, false⟩
  | .search step => { r with schedule := r.schedule.perform step }
  | .append sources =>
    ⟨r.update fun p => { p with transcript := p.transcript.append sources }, true⟩
  | .reset => ⟨r.update fun p => { p with transcript := p.transcript.reset }, true⟩
  | .touch change => { r with schedule := r.update change }

def run (r : LiveSearch σ) (steps : List (LiveStep σ)) : LiveSearch σ :=
  steps.foldl next r

/-- Whether a step may happen.  Nothing is asked of a search that is behind but to count again,
though what is under way goes on.  The panel stays the only one. -/
def Allows (r : LiveSearch σ) : LiveStep σ → Prop
  | .search step =>
    match step with
    | .elsewhere .. => False
    | .recount | .goTo .. | .resume _ => True
    | _ => r.behind = false
  | .append _ | .reset => True
  | .touch change => ∀ p : FindPanel σ, p.Searched (change p)

def AllowsAll (r : LiveSearch σ) : List (LiveStep σ) → Prop
  | [] => True
  | step :: steps => r.Allows step ∧ (r.next step).AllowsAll steps

/-- Whether a search is served by its panel. -/
def IsServed (r : LiveSearch σ) : Prop :=
  ∃ t, r.schedule.finder.Serves t r.behind

variable {r : LiveSearch σ}

theorem IsServed.ends (h : r.IsServed) {step : SearchStep σ} (hallows : r.Allows (.search step))
    {outcome : NavOutcome} (hdone : r.schedule.progress? step = some (.done outcome)) :
    outcome ≠ .notFound .noMatches ∧ outcome ≠ .notFound .indexOutOfRange := by
  obtain ⟨t, hserves⟩ := h
  cases step with
  | start term direction =>
      exact NavOutcome.ne_of_not_isEarly
        (Schedule.not_isEarly_of_start (hserves.counted hallows) hdone)
  | resume number => exact Schedule.ne_of_resume hdone
  | _ => exact absurd hdone.symm (Option.some_ne_none _)

theorem isServed_new (active : String) (settings panelSettings : FindSettings) (t : Transcript)
    (surface : σ) : (new active settings (.new t surface panelSettings)).IsServed :=
  ⟨t, ⟨rfl, _, rfl, rfl, rfl,
    fun counts hcounts => absurd hcounts.symm (Option.some_ne_none counts)⟩,
    FindSession.isWithin_of_current rfl, fun _ term hterm =>
      absurd hterm.symm (Option.some_ne_none term)⟩

theorem IsServed.next (h : r.IsServed) {step : LiveStep σ} (hallows : r.Allows step) :
    (r.next step).IsServed := by
  obtain ⟨t, hserves⟩ := h
  cases step with
  | append sources =>
    exact ⟨_, hserves.modifyTranscript (·.append sources) (t.extends_append sources)⟩
  | reset => exact ⟨_, hserves.modifyTranscript .reset t.extends_reset⟩
  | touch change => exact ⟨t, hserves.of_tally (.modify r.schedule.finder 0 hallows) rfl⟩
  | search step =>
      cases step with
      | input text now =>
          exact ⟨t, hserves.of_tally (.input r.schedule.finder text now)
            (FindSession.tally_input _ text now)⟩
      | poll now => exact ⟨t, ((hserves.counted hallows).poll now).weaken r.behind⟩
      | commit term => exact ⟨t, (hserves.commit term).weaken r.behind⟩
      | recount => exact ⟨t, hserves.recount⟩
      | clear => exact ⟨t, hserves.clear⟩
      | start term direction =>
          have hbegun :=
            Schedule.serves_beginStep (s := r.schedule.issue.2) (hserves.counted hallows)
            ⟨r.schedule.next, term, direction⟩
          exact ⟨t, hbegun.weaken r.behind⟩
      | goTo id term n => exact ⟨t, Schedule.serves_startGoTo hserves id term n⟩
      | resume number =>
          refine ⟨t, ?_⟩
          change (Schedule.perform r.schedule (.resume number)).finder.Serves t r.behind
          rw [Schedule.perform]
          split
          · exact Schedule.serves_resume hserves _
          · exact hserves
      | elsewhere panels registered => exact hallows.elim

theorem IsServed.run (h : r.IsServed) {steps : List (LiveStep σ)} (hallows : r.AllowsAll steps) :
    (r.run steps).IsServed := by
  induction steps generalizing r with
  | nil => exact h
  | cons step steps ih =>
      obtain ⟨hstep, hrest⟩ := hallows
      exact ih (h.next hstep) hrest

/-- After every change of the transcript the occurrences are counted again before anything else is
asked of the search.  The cursor is one of the occurrences counted then, and the total, where a
term is searched for, is their number in the transcript as it is.  A step asks the panel for an
occurrence that can be looked up there, and no step ends because the term does not occur or
because there is no such occurrence. -/
theorem recounted_run (active : String) (settings panelSettings : FindSettings) (t : Transcript)
    (surface : σ) (steps : List (LiveStep σ)) :
    let start := new active settings (.new t surface panelSettings)
    let r := start.run steps
    let f := r.schedule.finder
    start.AllowsAll steps → ∃ p, f.panels = [p] ∧
      (∀ c, f.session.status.current = some c → 1 ≤ c ∧ c ≤ f.session.status.total) ∧
      (r.behind = false →
        (∀ term, f.session.status.term = some term →
          f.session.status.total = p.transcript.total term) ∧
        ∀ term direction request navigation after,
          f.step term direction = (some (request, navigation), after) →
            ∃ q, (f.committed term).panels = [q] ∧ q.transcript = p.transcript ∧
              q.unmounted = false ∧
              navigation = ⟨0, (q.goTo request.term request.index).1⟩ ∧
              (p.transcript.locate? none request.term request.index).isSome = true) ∧
      ∀ step, r.Allows (.search step) → ∀ outcome,
        r.schedule.progress? step = some (.done outcome) →
          outcome ≠ .notFound .noMatches ∧ outcome ≠ .notFound .indexOutOfRange := by
  intro start r f hallows
  obtain ⟨now, hserves⟩ := (isServed_new active settings panelSettings t surface).run hallows
  obtain ⟨p, hpanels, rfl, -, -⟩ := hserves.stepsIn.panel
  refine ⟨p, hpanels, hserves.isWithin, ?_,
    fun step hstep outcome => IsServed.ends ⟨_, hserves⟩ hstep⟩
  intro hbehind
  refine ⟨hserves.total_eq hbehind, ?_⟩
  intro term direction request navigation after hstep
  obtain ⟨q, hq, htranscript, hmounted, -, hnavigation, hlocate⟩ :=
    (hserves.counted hbehind).asks hstep
  exact ⟨q, hq, htranscript, hmounted, hnavigation, hlocate⟩

-- A reset is not followed by counting again, and the step asks for an occurrence that is gone.
example :
    let start : LiveSearch PagedSurface :=
      new "main" {} (.new threeMatches (.new threeMatches 3) {})
    (start.run [.search (.commit "match"), .reset]).schedule.progress? (.start "match" .forward) =
      some (.done (.notFound .noMatches)) := by
  decide +kernel

theorem recounted_run_appended :
    let start : LiveSearch PagedSurface :=
      new "main" {} (.new threeMatches (.new threeMatches 3) {})
    let steps : List (LiveStep PagedSurface) := [.search (.commit "match"),
      .search (.start "match" .backward), .append [⟨none, none, .input "match"⟩],
        .search .recount]
    let r := start.run steps
    let f := r.schedule.finder
    start.AllowsAll steps ∧ f.session.status = ⟨.highlighted, some "match", some 3, 4⟩ ∧
      (f.step "match" .forward).1.map (·.1.index) = some 4 ∧
      ∃ p, f.panels = [p] ∧ p.transcript.total "match" = 4 ∧
        (p.transcript.locate? none "match" 4).isSome = true := by
  intro start steps r f
  have hallows : start.AllowsAll steps := ⟨rfl, rfl, trivial, trivial, trivial⟩
  have hstatus : f.session.status = ⟨.highlighted, some "match", some 3, 4⟩ := by decide +kernel
  have hasked : (f.step "match" .forward).1.map (·.1) = some ⟨"match", 4, 3⟩ := by decide +kernel
  obtain ⟨p, hpanels, -, hcounted, -⟩ := recounted_run "main" {} {} threeMatches
    (PagedSurface.new threeMatches 3) steps hallows
  obtain ⟨htotal, hasks⟩ := hcounted rfl
  obtain ⟨⟨request, navigation⟩, hbegun, hrequest⟩ := Option.map_eq_some_iff.mp hasked
  obtain rfl : request = ⟨"match", 4, 3⟩ := hrequest
  obtain ⟨q, -, -, -, -, hlocate⟩ := hasks "match" .forward _ navigation _ (Prod.ext hbegun rfl)
  have hterm := htotal "match" (congrArg FindStatus.term hstatus)
  rw [congrArg FindStatus.total hstatus] at hterm
  refine ⟨hallows, hstatus, ?_, p, hpanels, hterm.symm, hlocate⟩
  rw [hbegun]
  rfl

end LiveSearch

end TranscriptSearch
