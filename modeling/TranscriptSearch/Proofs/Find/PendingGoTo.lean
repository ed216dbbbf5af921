import TranscriptSearch.Find.Schedule
import TranscriptSearch.Proofs.Find.Registration

/-!
Going to an occurrence in a registered panel while registrations change.  Only when the panel has
come to an end is it looked up again which panel is registered.  A panel that has left its
identifier meanwhile gives up the navigation for good, so the answer is that the panel is
unavailable, except that a panel that is back at the end answers that the navigation was
superseded.
-/

namespace TranscriptSearch

/-- Going to an occurrence in the panel registered under an identifier, as far as it has come,
with the finder. -/
structure PendingGoTo (σ : Type) where
  finder : Finder σ
  id : String
  /-- How far the panel that was registered at the start has come. -/
  navigation : Navigation

/-- Something that happens while an occurrence is gone to. -/
inductive PendingStep (σ : Type) where
  | change (step : RegistryStep)
  /-- Another occurrence is gone to. -/
  | goTo (id term : String) (n : Nat)
  /-- The wait of another navigation is over. -/
  | resume (panel : Nat) (wait : Waiting)
  | clear
  | moveSurface (panel : Nat) (move : σ → σ)
  | setTranscript (panel : Nat) (t : Transcript)
  /-- The wait is over. -/
  | proceed

namespace FindPanel

/-- Whether every ticket that a panel has issued is issued, and every stale one stale, in another
state of it. -/
structure IsLater {σ : Type} (p q : FindPanel σ) : Prop where
  issued : ∀ ticket, p.tickets.IsIssued ticket → q.tickets.IsIssued ticket
  stale : ∀ ticket, p.tickets.IsStale ticket → q.tickets.IsStale ticket

namespace IsLater

variable {σ : Type} {p q r : FindPanel σ}

theorem of_tickets_eq (h : q.tickets = p.tickets) : p.IsLater q := by
  constructor
  · intro ticket hissued
    rwa [h]
  · intro ticket hstale
    rwa [h]

theorem of_forall_isStale (h : ∀ ticket, p.tickets.IsIssued ticket → q.tickets.IsStale ticket) :
    p.IsLater q := by
  constructor
  · intro ticket hissued
    exact (h ticket hissued).isIssued
  · intro ticket hstale
    exact h ticket hstale.isIssued

theorem of_issue (h : q.tickets = p.tickets.issue.2) : p.IsLater q := by
  apply of_forall_isStale
  intro ticket hissued
  rw [h]
  exact hissued.isStale_issue

theorem of_cancelAll (h : q.tickets = p.tickets.cancelAll) : p.IsLater q := by
  apply of_forall_isStale
  intro ticket hissued
  rw [h]
  exact hissued.isStale_cancelAll

theorem trans (h : p.IsLater q) (h' : q.IsLater r) : p.IsLater r :=
  ⟨fun ticket hissued => h'.issued ticket (h.issued ticket hissued),
    fun ticket hstale => h'.stale ticket (h.stale ticket hstale)⟩

end IsLater

end FindPanel

namespace Finder

variable {σ : Type}

def IsLater (f g : Finder σ) : Prop :=
  ∀ (panel : Nat) (p : FindPanel σ), f.panels[panel]? = some p →
    ∃ q, g.panels[panel]? = some q ∧ p.IsLater q

namespace IsLater

variable {f g h : Finder σ}

theorem of_panels_eq (heq : g.panels = f.panels) : f.IsLater g := by
  intro panel p hp
  exact ⟨p, heq ▸ hp, .of_tickets_eq rfl⟩

theorem trans (hfirst : f.IsLater g) (hsecond : g.IsLater h) : f.IsLater h := by
  intro panel p hp
  obtain ⟨q, hq, hlater⟩ := hfirst panel p hp
  obtain ⟨r, hr, hlast⟩ := hsecond panel q hq
  exact ⟨r, hr, hlater.trans hlast⟩

theorem modify (f : Finder σ) (panel : Nat) {update : FindPanel σ → FindPanel σ}
    (hupdate : ∀ p : FindPanel σ, p.IsLater (update p)) : f.IsLater (f.modify panel update) := by
  intro other p hp
  by_cases hother : panel = other
  · exact ⟨update p, by simp [Finder.modify, hother, hp], hupdate p⟩
  · exact ⟨p, by simp [Finder.modify, hother, hp], .of_tickets_eq rfl⟩

theorem modifyGet {α : Type} (f : Finder σ) (panel : Nat) {update : FindPanel σ → α × FindPanel σ}
    (hupdate : ∀ p : FindPanel σ, p.IsLater (update p).2) :
    f.IsLater (f.modifyGet panel update).2 := by
  rw [Finder.modifyGet]
  split
  · exact of_panels_eq rfl
  · next p hp =>
      intro other q hq
      by_cases hother : panel = other
      · subst hother
        obtain rfl := Option.some.inj (hp.symm.trans hq)
        have hlt := (List.getElem?_eq_some_iff.mp hp).1
        exact ⟨(update p).2, List.getElem?_set_self hlt, hupdate p⟩
      · exact ⟨q, (List.getElem?_set_ne hother).trans hq, .of_tickets_eq rfl⟩

theorem modifyRegistered (f : Finder σ) {update : FindPanel σ → FindPanel σ}
    (hupdate : ∀ p : FindPanel σ, p.IsLater (update p)) :
    f.IsLater (f.modifyRegistered update) := by
  rw [Finder.modifyRegistered]
  generalize f.registered = entries
  induction entries generalizing f with
  | nil => exact of_panels_eq rfl
  | cons entry entries ih => exact (modify f entry.2 hupdate).trans (ih _)

end IsLater

theorem registered_modifyGet {α : Type} (f : Finder σ) (panel : Nat)
    (update : FindPanel σ → α × FindPanel σ) :
    (f.modifyGet panel update).2.registered = f.registered := by
  rw [modifyGet]
  split <;> rfl

theorem registered_modifyRegistered (f : Finder σ) (update : FindPanel σ → FindPanel σ) :
    (f.modifyRegistered update).registered = f.registered := by
  have hfold : ∀ (entries : List (String × Nat)) (f : Finder σ),
      (entries.foldl (fun f entry => f.modify entry.2 update) f).registered = f.registered := by
    intro entries
    induction entries with
    | nil => exact fun _ => rfl
    | cons entry entries ih => exact fun f => ih _
  exact hfold f.registered f

variable [RenderSurface σ]

theorem isLater_goTo (f : Finder σ) (id term : String) (n : Nat) :
    f.IsLater (f.goTo id term n).2 := by
  rw [goTo]
  split
  · exact .of_panels_eq rfl
  · exact .modifyGet f _ fun p => .of_issue (p.tickets_goTo term n)

theorem registered_goTo (f : Finder σ) (id term : String) (n : Nat) :
    (f.goTo id term n).2.registered = f.registered := by
  rw [goTo]
  split
  · rfl
  · exact f.registered_modifyGet _ _

theorem isLater_change (f : Finder σ) (step : RegistryStep) : f.IsLater (f.change step) := by
  have hpanels := f.panels_change step
  cases hold : f.number? step.id with
  | none =>
      rw [hold] at hpanels
      exact .of_panels_eq hpanels
  | some old =>
      rw [hold] at hpanels
      have hreleased : f.IsLater (f.modify old .unmount) :=
        .modify f old fun p => .of_cancelAll p.tickets_unmount
      exact hreleased.trans (.of_panels_eq hpanels)

theorem isStale_of_change (f : Finder σ) {step : RegistryStep} {panel ticket : Nat}
    {p q : FindPanel σ}
    (hp : f.panels[panel]? = some p) (hissued : p.tickets.IsIssued ticket)
    (hregistered : f.number? step.id = some panel)
    (hq : (f.change step).panels[panel]? = some q) :
    q.tickets.IsStale ticket := by
  have hpanels := f.panels_change step
  rw [hregistered] at hpanels
  have hunmounted : (f.change step).panels[panel]? = some p.unmount := by
    simp [hpanels, hp]
  obtain rfl := Option.some.inj (hq.symm.trans hunmounted)
  exact hissued.isStale_cancelAll

/-- The finder after something has happened, save for the navigation that is looked at. -/
def meanwhile (f : Finder σ) : PendingStep σ → Finder σ
  | .change step => f.change step
  | .goTo id term n => (f.goTo id term n).2
  | .resume panel wait => (f.modifyGet panel (·.resume wait)).2
  | .clear => f.clear
  | .moveSurface panel move => f.modify panel fun p => { p with surface := move p.surface }
  | .setTranscript panel t => f.modify panel fun p => { p with transcript := t }
  | .proceed => f

theorem isLater_meanwhile (f : Finder σ) (step : PendingStep σ) :
    f.IsLater (f.meanwhile step) := by
  cases step with
  | change step => exact f.isLater_change step
  | goTo id term n => exact f.isLater_goTo id term n
  | resume panel wait => exact .modifyGet f panel fun p => .of_tickets_eq (p.tickets_resume wait)
  | clear =>
      have hcleared : ({ f with session := f.session.clear } : Finder σ).IsLater f.clear :=
        .modifyRegistered _ fun p => .of_cancelAll p.tickets_clear
      exact (IsLater.of_panels_eq rfl).trans hcleared
  | moveSurface panel move => exact .modify f panel fun p => .of_tickets_eq rfl
  | setTranscript panel t => exact .modify f panel fun p => .of_tickets_eq rfl
  | proceed => exact .of_panels_eq rfl

theorem number?_meanwhile (f : Finder σ) {step : PendingStep σ} {id : String}
    (hstep : ∀ change, step = .change change → change.id ≠ id) :
    (f.meanwhile step).number? id = f.number? id := by
  cases step with
  | change step =>
      have hid := hstep step rfl
      exact (f.number?_change step id).trans (if_neg (Ne.symm hid))
  | goTo other term n => exact congrArg (·.lookup id) (f.registered_goTo other term n)
  | resume panel wait => exact congrArg (·.lookup id) (f.registered_modifyGet panel _)
  | clear => exact congrArg (·.lookup id) (registered_modifyRegistered _ _)
  | moveSurface panel move => rfl
  | setTranscript panel t => rfl
  | proceed => rfl

end Finder

namespace PendingGoTo

variable {σ : Type} [RenderSurface σ]

/-- Goes to an occurrence in the panel registered under an identifier, as far as it comes at
once. -/
def start (f : Finder σ) (id term : String) (n : Nat) : PendingGoTo σ :=
  ⟨(f.goTo id term n).2, id, (f.goTo id term n).1⟩

def answer? (r : PendingGoTo σ) : Option NavOutcome :=
  match r.navigation.progress with
  | .done outcome => some (r.finder.confirm r.id r.navigation.panel outcome)
  | .waiting _ => none

/-- The navigation after something has happened.  When it has come to an end, nothing matters any
more. -/
def next (r : PendingGoTo σ) (step : PendingStep σ) : PendingGoTo σ :=
  match r.navigation.progress, step with
  | .done _, _ => r
  | .waiting wait, .proceed =>
    let (progress, finder) := r.finder.modifyGet r.navigation.panel (·.resume wait)
    { r with
      finder
      navigation := ⟨r.navigation.panel, progress.getD (.done (.notFound .panelUnavailable))⟩ }
  | .waiting _, step => { r with finder := r.finder.meanwhile step }

def run (r : PendingGoTo σ) (steps : List (PendingStep σ)) : PendingGoTo σ :=
  steps.foldl next r

theorem next_of_done {r : PendingGoTo σ} {outcome : NavOutcome}
    (h : r.navigation.progress = .done outcome) (step : PendingStep σ) : r.next step = r := by
  simp only [next, h]

theorem next_proceed {r : PendingGoTo σ} {wait : Waiting} {p : FindPanel σ}
    (h : r.navigation.progress = .waiting wait)
    (hp : r.finder.panels[r.navigation.panel]? = some p) :
    r.next .proceed =
      { finder :=
          { r.finder with panels := r.finder.panels.set r.navigation.panel (p.resume wait).2 }
        id := r.id
        navigation := ⟨r.navigation.panel, (p.resume wait).1⟩ } := by
  simp only [next, h, Finder.modifyGet, hp, Option.getD_some]

theorem next_of_waiting {r : PendingGoTo σ} {wait : Waiting} {step : PendingStep σ}
    (h : r.navigation.progress = .waiting wait) (hstep : step ≠ .proceed) :
    r.next step = { r with finder := r.finder.meanwhile step } := by
  cases step with
  | proceed => exact absurd rfl hstep
  | _ => simp only [next, h]

/-- Whether a step takes the panel away from its identifier while it is waited for. -/
def Releases (r : PendingGoTo σ) (step : PendingStep σ) : Prop :=
  (∃ wait, r.navigation.progress = .waiting wait) ∧ ∃ change, step = .change change ∧
    change.id = r.id

def IsReleasedIn (r : PendingGoTo σ) : List (PendingStep σ) → Prop
  | [] => False
  | step :: steps => r.Releases step ∨ (r.next step).IsReleasedIn steps

/-- What holds while an occurrence is gone to in a panel, which may have been released. -/
structure IsUnderWay (r : PendingGoTo σ) (panel : Nat) (released : Prop) : Prop where
  panel_eq : r.navigation.panel = panel
  registered : ¬ released → r.finder.number? r.id = some panel
  waiting : ∀ wait, r.navigation.progress = .waiting wait →
    ∃ p, r.finder.panels[panel]? = some p ∧ p.tickets.IsIssued wait.ticket ∧
      (released → p.tickets.IsStale wait.ticket)
  done : released → ∀ outcome, r.navigation.progress = .done outcome → outcome = .superseded

theorem isUnderWay_start {f : Finder σ} {id : String} {panel : Nat}
    (h : f.number? id = some panel)
    (term : String) (n : Nat) : (start f id term n).IsUnderWay panel False := by
  have hnavigation : (f.goTo id term n).1.panel = panel := by
    rw [Finder.goTo, h]
  refine ⟨hnavigation, fun _ => ?_, ?_, False.elim⟩
  · exact (congrArg (·.lookup id) (f.registered_goTo id term n)).trans h
  · intro wait hwait
    change (f.goTo id term n).1.progress = .waiting wait at hwait
    change ∃ p, (f.goTo id term n).2.panels[panel]? = some p ∧ _
    rw [Finder.goTo, h] at hwait ⊢
    simp only [Finder.modifyGet] at hwait ⊢
    cases hp : f.panels[panel]? with
    | none =>
        rw [hp] at hwait
        simp at hwait
    | some p =>
        rw [hp] at hwait
        have hlt := (List.getElem?_eq_some_iff.mp hp).1
        refine ⟨(p.goTo term n).2, List.getElem?_set_self hlt, ?_, False.elim⟩
        rw [FindPanel.ticket_of_goTo (Prod.ext hwait rfl), FindPanel.tickets_goTo]
        exact Tickets.isIssued_issue _

theorem IsUnderWay.next {r : PendingGoTo σ} {panel : Nat} {released : Prop}
    (h : r.IsUnderWay panel released) (step : PendingStep σ) :
    (r.next step).IsUnderWay panel (released ∨ r.Releases step) := by
  cases hprogress : r.navigation.progress with
  | done outcome =>
      have hkept : ¬ r.Releases step := by
        rintro ⟨⟨wait, hwait⟩, -⟩
        rw [hprogress] at hwait
        cases hwait
      rw [next_of_done hprogress]
      simpa [hkept] using h
  | waiting wait =>
      obtain ⟨p, hp, hissued, hstale⟩ := h.waiting wait hprogress
      by_cases hstep : step = .proceed
      · subst hstep
        have hkept : ¬ r.Releases .proceed := by
          rintro ⟨-, change, hchange, -⟩
          cases hchange
        -- The panel goes on with the same ticket, and with a stale one it can only end as
        -- superseded.
        obtain rfl := h.panel_eq
        have hlt := (List.getElem?_eq_some_iff.mp hp).1
        rw [next_proceed hprogress hp]
        refine ⟨rfl, fun hnot => h.registered fun hreleased => hnot (.inl hreleased), ?_, ?_⟩
        · intro later hlater
          refine ⟨(p.resume wait).2, List.getElem?_set_self hlt, ?_⟩
          rw [FindPanel.tickets_resume, FindPanel.ticket_of_resume (Prod.ext hlater rfl)]
          exact ⟨hissued, fun hreleased => hstale (hreleased.resolve_right hkept)⟩
        · intro hreleased outcome houtcome
          have hcurrent := (hstale (hreleased.resolve_right hkept)).isCurrent
          change (p.resume wait).1 = .done outcome at houtcome
          rw [FindPanel.resume_of_not_isCurrent hcurrent] at houtcome
          exact (Progress.done.inj houtcome).symm
      · rw [next_of_waiting hprogress hstep]
        -- Tickets only grow older, and the one step that takes the panel away makes its ticket
        -- stale.
        obtain ⟨q, hq, hlater⟩ := r.finder.isLater_meanwhile step panel p hp
        refine ⟨h.panel_eq, ?_, ?_, ?_⟩
        · intro hnot
          have hother : ∀ change, step = .change change → change.id ≠ r.id := by
            intro change hchange hid
            exact hnot (.inr ⟨⟨wait, hprogress⟩, change, hchange, hid⟩)
          exact (r.finder.number?_meanwhile hother).trans
            (h.registered fun hreleased => hnot (.inl hreleased))
        · intro later hwait
          obtain rfl := Progress.waiting.inj (hprogress.symm.trans hwait)
          refine ⟨q, hq, hlater.issued _ hissued, ?_⟩
          rintro (hreleased | ⟨-, change, rfl, hid⟩)
          · exact hlater.stale _ (hstale hreleased)
          · by_cases hreleased : released
            · exact hlater.stale _ (hstale hreleased)
            · exact r.finder.isStale_of_change hp hissued (hid ▸ h.registered hreleased) hq
        · intro _ outcome houtcome
          exact absurd (hprogress.symm.trans houtcome) (by simp)

theorem IsUnderWay.run {r : PendingGoTo σ} {panel : Nat} {released : Prop}
    (h : r.IsUnderWay panel released) (steps : List (PendingStep σ)) :
    (r.run steps).IsUnderWay panel (released ∨ r.IsReleasedIn steps) := by
  induction steps generalizing r released with
  | nil =>
      have hreleased : (released ∨ r.IsReleasedIn []) = released := by simp [IsReleasedIn]
      rw [hreleased]
      exact h
  | cons step steps ih =>
      have hrest := ih (h.next step)
      rwa [or_assoc] at hrest

theorem run_of_done {r : PendingGoTo σ} {outcome : NavOutcome}
    (h : r.navigation.progress = .done outcome) (steps : List (PendingStep σ)) :
    r.run steps = r := by
  induction steps with
  | nil => rfl
  | cons step steps ih =>
      rw [run, List.foldl_cons, next_of_done h]
      exact ih

theorem id_run (r : PendingGoTo σ) (steps : List (PendingStep σ)) : (r.run steps).id = r.id := by
  induction steps generalizing r with
  | nil => rfl
  | cons step steps ih =>
      have hid : (r.next step).id = r.id := by
        simp only [next]
        split <;> rfl
      exact (ih (r.next step)).trans hid

/-- Going to an occurrence in a panel that is not registered ends at once: the panel is
unavailable.  Otherwise the answer is the outcome that the panel comes to, if the panel has not
left its identifier before, by being unregistered or replaced.  If it has, the panel ends as
superseded as soon as its turn comes, and the answer is that the panel is unavailable, unless the
panel is back under its identifier at the end. -/
theorem answer_run (f : Finder σ) (id term : String) (n : Nat) (steps : List (PendingStep σ)) :
    let r := (start f id term n).run steps
    let released := (start f id term n).IsReleasedIn steps
    (f.number? id = none → r.answer? = some (.notFound .panelUnavailable)) ∧
      ∀ panel, f.number? id = some panel → r.navigation.panel = panel ∧
        (∀ outcome, r.navigation.progress = .done outcome →
          (¬ released → r.answer? = some outcome) ∧
          (released → r.finder.number? id ≠ some panel →
            r.answer? = some (.notFound .panelUnavailable)) ∧
          (released → r.finder.number? id = some panel → r.answer? = some .superseded)) ∧
        ∀ wait, r.navigation.progress = .waiting wait → released →
          (∃ p, r.finder.panels[panel]? = some p ∧ p.isReady wait = true) ∧
            (r.next .proceed).navigation.progress = .done .superseded := by
  intro r released
  refine ⟨?_, ?_⟩
  · intro hnone
    have hstart : start f id term n = ⟨f, id, ⟨0, .done (.notFound .panelUnavailable)⟩⟩ := by
      simp only [start, Finder.goTo, hnone]
    have hr : r = start f id term n := run_of_done (by rw [hstart]) steps
    rw [hr, hstart]
    simp only [answer?, Finder.confirm, ite_self]
  · intro panel hpanel
    have hid : r.id = id := id_run _ steps
    have hunderWay : r.IsUnderWay panel (False ∨ released) :=
      (isUnderWay_start hpanel term n).run steps
    rw [false_or] at hunderWay
    refine ⟨hunderWay.panel_eq, ?_, ?_⟩
    · intro outcome hprogress
      have hanswer : r.answer? = some (if r.finder.number? id = some panel then outcome
          else .notFound .panelUnavailable) := by
        simp only [answer?, hprogress, Finder.confirm, hid, hunderWay.panel_eq]
      rw [hanswer]
      refine ⟨?_, ?_, ?_⟩
      · intro hkept
        rw [if_pos (hid ▸ hunderWay.registered hkept)]
      · intro _ hgone
        rw [if_neg hgone]
      · intro hreleased hback
        rw [if_pos hback, hunderWay.done hreleased outcome hprogress]
    · intro wait hwait hreleased
      obtain ⟨p, hp, -, hstale⟩ := hunderWay.waiting wait hwait
      refine ⟨⟨p, hp, ?_⟩, ?_⟩
      · rw [FindPanel.isReady, (hstale hreleased).isCancelled]
        rfl
      · rw [next_proceed hwait (hunderWay.panel_eq ▸ hp),
          FindPanel.resume_of_not_isCurrent (hstale hreleased).isCurrent]

/-- The second occurrence in a registered panel is gone to; for that the panel has to wait for a
scroll. -/
def heldGoTo : PendingGoTo PagedSurface :=
  start (Finder.sparePanels.register "main" 0) "main" "match" 2

theorem answer_run_replaced :
    let r := heldGoTo.run [.change (.register "main" 1), .proceed]
    heldGoTo.IsReleasedIn [.change (.register "main" 1), .proceed] ∧
      r.navigation.progress = .done .superseded ∧
      r.answer? = some (.notFound .panelUnavailable) := by
  intro r
  have hreleased : heldGoTo.IsReleasedIn [.change (.register "main" 1), .proceed] :=
    .inl ⟨⟨⟨"match", 1, 1, 1⟩, by decide +kernel⟩, .register "main" 1, rfl, rfl⟩
  have hprogress : r.navigation.progress = .done .superseded := by decide +kernel
  obtain ⟨-, hanswer⟩ := answer_run (Finder.sparePanels.register "main" 0) "main" "match" 2
    [.change (.register "main" 1), .proceed]
  obtain ⟨-, hended, -⟩ := hanswer 0 (by decide +kernel)
  obtain ⟨-, hgone, -⟩ := hended .superseded hprogress
  exact ⟨hreleased, hprogress, hgone hreleased (by decide +kernel)⟩

/-- The panel is unregistered while it is waited for, and registered again before its turn
comes. -/
theorem answer_run_back :
    let gone := heldGoTo.next (.change (.unregister "main"))
    (∃ wait, heldGoTo.navigation.progress = .waiting wait) ∧ gone.finder.number? "main" = none ∧
      (gone.run [.change (.register "main" 0), .proceed]).answer? = some .superseded := by
  refine ⟨⟨⟨"match", 1, 1, 1⟩, ?_⟩, ?_⟩
  · decide +kernel
  · decide +kernel

end PendingGoTo

end TranscriptSearch
