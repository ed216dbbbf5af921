import TranscriptSearch.Proofs.Find.FinderSession
import TranscriptSearch.Proofs.Find.LandingRounds
import TranscriptSearch.Proofs.Find.PendingGoTo

/-!
Two ways to find out that a step is not the latest any more: the tickets of its panel and the
numbers of the session.  Whatever makes a ticket of the active panel stale also makes the number
of the session's latest request an old one, unless the panel is not the one to step in any more.
So a step that still counts for the session never ends as superseded.
-/

namespace TranscriptSearch

section Landing

variable {σ : Type} [RenderSurface σ]

theorem land_ne_superseded (t : Transcript) (kept : Option KeptCounts) (term : String) (s : σ)
    (index occurrence : Nat) :
    (land t kept term true s index occurrence).1 ≠ .done .superseded := by
  fun_induction land t kept term true s index occurrence with
  | case5 s index occurrence item hitem shown counted hcount hgt next hnext seen hseen =>
      exact absurd (congrArg Prod.fst hseen) (ensureVisible_ne_cancelled counted t next)
  | case6 s index occurrence item hitem shown counted hcount hgt next hnext how seen
    hhow hseen ih =>
      exact ih
  | _ => simp

theorem approach_ne_superseded (t : Transcript) (kept : Option KeptCounts) (term : String) (s : σ)
    (index occurrence : Nat) :
    (approach t kept term s index occurrence).1 ≠ .done .superseded := by
  rw [approach]
  split
  · exact land_ne_superseded t kept term _ index occurrence
  · exact Landing.noConfusion

end Landing

namespace FindSession

theorem state_commit_ne (s : FindSession) (term : String) (total : Nat) :
    (s.commit term total).state ≠ .navigating := by
  change (if term = "" then SearchState.idle else if total = 0 then .noMatches else .ready) ≠ _
  split
  · decide
  · split <;> decide

end FindSession

namespace FindPanel

variable {σ : Type} [RenderSurface σ] {p : FindPanel σ}

theorem advance_ne_superseded {term : String} {ticket : Nat} {landing : Landing × σ}
    (hcurrent : p.tickets.isCurrent ticket = true) (hlanding : landing.1 ≠ .done .superseded) :
    (p.advance term ticket landing).1 ≠ .done .superseded := by
  obtain ⟨outcome | ⟨index, occurrence⟩, s⟩ := landing
  · intro hdone
    have houtcome : (({ p with surface := s } : FindPanel σ).conclude term ticket outcome).1 =
        outcome := by
      rw [conclude, if_pos hcurrent]
    exact hlanding (congrArg Landing.done (houtcome.symm.trans (Progress.done.inj hdone)))
  · exact Progress.noConfusion

theorem goTo_ne_superseded (h : p.tickets.IsOrderly) (term : String) (n : Nat) :
    (p.goTo term n).1 ≠ .done .superseded := by
  obtain ⟨-, heq⟩ | ⟨reason, -, heq⟩ | ⟨location, heq⟩ := p.goTo_cases term n
  · simp [heq]
  · simp [heq]
  · rw [heq]
    exact advance_ne_superseded h.isCurrent_issue (approach_ne_superseded _ _ _ _ _ _)

theorem resume_ne_superseded {wait : Waiting} (h : p.tickets.isCurrent wait.ticket = true) :
    (p.resume wait).1 ≠ .done .superseded := by
  rw [resume]
  simp only
  rw [if_pos h]
  exact advance_ne_superseded h (land_ne_superseded _ _ _ _ _ _)

end FindPanel

theorem forall_mem_modify {α : Type} {P : α → Prop} {values : List α} {update : α → α} {n : Nat}
    (h : ∀ a ∈ values, P a) (hkept : ∀ a, P a → P (update a)) :
    ∀ a ∈ values.modify n update, P a := by
  intro a ha
  obtain ⟨i, hi⟩ := List.mem_iff_getElem?.mp ha
  rw [List.getElem?_modify] at hi
  obtain ⟨b, hb, rfl⟩ := Option.map_eq_some_iff.mp hi
  split
  · exact hkept b (h b (List.mem_of_getElem? hb))
  · exact h b (List.mem_of_getElem? hb)

namespace Finder

variable {σ : Type}

def tickets (f : Finder σ) : List Tickets :=
  f.panels.map FindPanel.tickets

theorem tickets_modify (f : Finder σ) (panel : Nat) {update : FindPanel σ → FindPanel σ}
    {onTickets : Tickets → Tickets} (h : ∀ p, (update p).tickets = onTickets p.tickets) :
    (f.modify panel update).tickets = f.tickets.modify panel onTickets := by
  apply List.ext_getElem?
  intro n
  simp only [tickets, modify, List.getElem?_map, List.getElem?_modify]
  cases f.panels[n]? with
  | none => rfl
  | some p =>
      by_cases hpanel : panel = n
      · simp [hpanel, h]
      · simp [hpanel]

theorem modifyGet_snd {α : Type} (f : Finder σ) (panel : Nat)
    (update : FindPanel σ → α × FindPanel σ) :
    (f.modifyGet panel update).2 = f.modify panel fun p => (update p).2 := by
  have hpanels : (f.modifyGet panel update).2.panels = f.panels.modify panel fun p =>
    (update p).2 := by
    apply List.ext_getElem?
    intro n
    rw [modifyGet, List.getElem?_modify]
    by_cases hpanel : panel = n
    · subst hpanel
      cases hp : f.panels[panel]? with
      | none => simp [hp]
      | some p => simp [(List.getElem?_eq_some_iff.mp hp).1]
    · split <;> simp [hpanel]
  rw [modifyGet] at hpanels ⊢
  rw [modify, ← hpanels]
  split <;> rfl

theorem getElem?_tickets (f : Finder σ) (panel : Nat) :
    f.tickets[panel]? = f.panels[panel]?.map FindPanel.tickets :=
  List.getElem?_map

/-- Whether two finders have the same registered panels with the same tickets. -/
structure KeepsTickets (f g : Finder σ) : Prop where
  registered_eq : g.registered = f.registered
  active_eq : g.active = f.active
  tickets_eq : g.tickets = f.tickets

namespace KeepsTickets

variable {f g h : Finder σ}

theorem refl (f : Finder σ) : KeepsTickets f f :=
  ⟨rfl, rfl, rfl⟩

theorem trans (hfirst : KeepsTickets f g) (hsecond : KeepsTickets g h) : KeepsTickets f h :=
  ⟨hsecond.registered_eq.trans hfirst.registered_eq, hsecond.active_eq.trans hfirst.active_eq,
    hsecond.tickets_eq.trans hfirst.tickets_eq⟩

theorem withSession (f : Finder σ) (session : FindSession) : KeepsTickets f { f with session } :=
  ⟨rfl, rfl, rfl⟩

theorem number?_active_eq (h : KeepsTickets f g) : g.number? g.active = f.number? f.active := by
  rw [h.active_eq]
  exact congrArg (·.lookup f.active) h.registered_eq

theorem modify (f : Finder σ) (panel : Nat) {update : FindPanel σ → FindPanel σ}
    (hupdate : ∀ p, (update p).tickets = p.tickets) : KeepsTickets f (f.modify panel update) := by
  refine ⟨rfl, rfl, ?_⟩
  have htickets : ∀ p, (update p).tickets = id p.tickets := hupdate
  rw [f.tickets_modify panel htickets, List.modify_id]

theorem modifyGet {α : Type} (f : Finder σ) (panel : Nat) {update : FindPanel σ → α × FindPanel σ}
    (hupdate : ∀ p, (update p).2.tickets = p.tickets) :
    KeepsTickets f (f.modifyGet panel update).2 := by
  rw [modifyGet_snd]
  exact modify f panel hupdate

theorem modifyRegistered (f : Finder σ) {update : FindPanel σ → FindPanel σ}
    (hupdate : ∀ p, (update p).tickets = p.tickets) :
    KeepsTickets f (f.modifyRegistered update) := by
  rw [Finder.modifyRegistered]
  generalize f.registered = entries
  induction entries generalizing f with
  | nil => exact refl f
  | cons entry entries ih => exact (modify f entry.2 hupdate).trans (ih _)

theorem countFor (f : Finder σ) (id term : String) : KeepsTickets f (f.countFor id term).2 := by
  rw [Finder.countFor]
  split
  · exact refl f
  · exact modifyGet f _ fun p => rfl

theorem countAll (f : Finder σ) (term : String) : KeepsTickets f (f.countAll term).2 := by
  have hfold : ∀ (entries : List (String × Nat)) (counted : Nat × Finder σ),
      KeepsTickets counted.2 (entries.foldl (countEntry term) counted).2 := by
    intro entries
    induction entries with
    | nil => exact fun counted => refl counted.2
    | cons entry entries ih =>
        intro counted
        exact (modifyGet counted.2 entry.2 fun _ => rfl).trans
          (ih (countEntry term counted entry))
  exact hfold f.registered (0, f)

theorem totals (f : Finder σ) (term : String) : KeepsTickets f (f.totals term).2.2 :=
  (countAll f term).trans (countFor _ _ term)

variable [RenderSurface σ]

theorem commit (f : Finder σ) (term : String) : KeepsTickets f.clearAll (f.commit term).2 := by
  simp only [Finder.commit]
  have hcommitted := (totals f.clearAll term).trans (withSession _
    ((f.clearAll.totals term).2.2.session.commit term (f.clearAll.totals term).2.1))
  split
  · exact hcommitted
  · refine hcommitted.trans ?_
    have hhighlighted : ∀ p : FindPanel σ, (p.highlightTerm term).tickets = p.tickets :=
      fun _ => rfl
    exact modifyRegistered _ hhighlighted

omit [RenderSurface σ] in
theorem recount (f : Finder σ) : KeepsTickets f f.recount.2 := by
  rw [Finder.recount]
  split
  · exact refl f
  · next term hterm => exact (totals f term).trans (withSession _ _)

theorem watch (f : Finder σ) : KeepsTickets f f.watch :=
  ⟨rfl, rfl, List.map_map⟩

end KeepsTickets

/-- Whether the panel to step in is registered under no other identifier, and no ticket is
cancelled before it is issued. -/
structure IsSound (f : Finder σ) : Prop where
  once : ∀ panel, f.number? f.active = some panel → ∀ id, f.number? id = some panel →
    id = f.active
  orderly : ∀ tickets ∈ f.tickets, tickets.IsOrderly

namespace IsSound

variable {f g : Finder σ}

theorem of_new (hnew : ∀ p ∈ f.panels, p.tickets = .new)
    (honce : ∀ panel, f.number? f.active = some panel → ∀ id, f.number? id = some panel →
      id = f.active) :
    f.IsSound := by
  refine ⟨honce, ?_⟩
  intro tickets htickets
  obtain ⟨p, hp, rfl⟩ := List.mem_map.mp htickets
  rw [hnew p hp]
  exact .new

theorem of_registered {n : Nat} (hnew : ∀ p ∈ f.panels, p.tickets = .new)
    (hregistered : f.registered = [(f.active, n)]) : f.IsSound := by
  refine of_new hnew ?_
  intro panel _ id hid
  rw [number?, hregistered, lookup_cons_eq_ite] at hid
  split at hid
  · next hactive => exact hactive
  · exact absurd hid.symm (Option.some_ne_none panel)

theorem withSession (h : f.IsSound) (session : FindSession) :
    ({ f with session } : Finder σ).IsSound :=
  ⟨h.once, h.orderly⟩

theorem of_keepsTickets (h : f.IsSound) (hkeeps : KeepsTickets f g) : g.IsSound := by
  constructor
  · intro panel hpanel id hid
    rw [hkeeps.number?_active_eq] at hpanel
    rw [number?, hkeeps.registered_eq] at hid
    exact (h.once panel hpanel id hid).trans hkeeps.active_eq.symm
  · rw [hkeeps.tickets_eq]
    exact h.orderly

theorem modify (h : f.IsSound) (panel : Nat) {update : FindPanel σ → FindPanel σ}
    {onTickets : Tickets → Tickets} (hupdate : ∀ p, (update p).tickets = onTickets p.tickets)
    (hkept : ∀ tickets : Tickets, tickets.IsOrderly → (onTickets tickets).IsOrderly) :
    (f.modify panel update).IsSound := by
  refine ⟨h.once, ?_⟩
  rw [f.tickets_modify panel hupdate]
  exact forall_mem_modify h.orderly hkept

theorem modifyRegistered (h : f.IsSound) {update : FindPanel σ → FindPanel σ}
    {onTickets : Tickets → Tickets} (hupdate : ∀ p, (update p).tickets = onTickets p.tickets)
    (hkept : ∀ tickets : Tickets, tickets.IsOrderly → (onTickets tickets).IsOrderly) :
    (f.modifyRegistered update).IsSound := by
  rw [Finder.modifyRegistered]
  generalize f.registered = entries
  induction entries generalizing f with
  | nil => exact h
  | cons entry entries ih => exact ih (h.modify entry.2 hupdate hkept)

variable [RenderSurface σ]

theorem clearAll (h : f.IsSound) : f.clearAll.IsSound :=
  h.modifyRegistered FindPanel.tickets_clear fun _ horderly => horderly.cancelAll

theorem commit (h : f.IsSound) (term : String) : (f.commit term).2.IsSound :=
  h.clearAll.of_keepsTickets (.commit f term)

theorem goTo (h : f.IsSound) (id term : String) (n : Nat) : (f.goTo id term n).2.IsSound := by
  rw [Finder.goTo]
  split
  · exact h
  · next panel hpanel =>
      simp only [modifyGet_snd]
      exact h.modify panel (fun p => p.tickets_goTo term n) fun _ horderly => horderly.issue

end IsSound

/-- Whether a navigation of the session in a panel may go on, if it is the latest one and the
panel is still the one to step in. -/
structure AgreesOn (f : Finder σ) (seq panel ticket : Nat) : Prop where
  seq_le : seq ≤ f.session.seq
  isCurrent : seq = f.session.seq → f.number? f.active = some panel →
    ∃ tickets, f.tickets[panel]? = some tickets ∧ tickets.isCurrent ticket = true

/-- Whether the session is served by what a navigation has come to: one that waits may go on, and
one that has ended has not been superseded. -/
def IsServedBy (f : Finder σ) (seq panel : Nat) : Progress → Prop
  | .waiting wait => f.AgreesOn seq panel wait.ticket
  | .done outcome => seq = f.session.seq → f.number? f.active = some panel → outcome ≠ .superseded

/-- Whether a finder comes after another in which some panels are waited for.  As long as there is
no newer request, a panel that is waited for and is the one to step in was so before, and its
tickets are the same. -/
structure Follows (busy : Nat → Prop) (f g : Finder σ) : Prop where
  isSound : g.IsSound
  seq_le : f.session.seq ≤ g.session.seq
  kept : g.session.seq = f.session.seq → ∀ panel, busy panel → g.number? g.active = some panel →
    f.number? f.active = some panel ∧
      ∀ tickets, f.tickets[panel]? = some tickets → g.tickets[panel]? = some tickets

/-- Whether no navigation has begun or ended on the way from a finder to another. -/
def StaysNavigating (f g : Finder σ) : Prop :=
  g.session.state = .navigating → g.session.seq = f.session.seq ∧ f.session.state = .navigating

theorem AgreesOn.of_follows {busy : Nat → Prop} {f g : Finder σ} {seq panel ticket : Nat}
    (h : f.AgreesOn seq panel ticket) (hfollows : Follows busy f g) (hbusy : busy panel) :
    g.AgreesOn seq panel ticket := by
  refine ⟨Nat.le_trans h.seq_le hfollows.seq_le, ?_⟩
  intro hseq hactive
  have hsame : g.session.seq = f.session.seq :=
    Nat.le_antisymm (hseq ▸ h.seq_le) hfollows.seq_le
  obtain ⟨hbefore, hkept⟩ := hfollows.kept hsame panel hbusy hactive
  obtain ⟨tickets, htickets, hcurrent⟩ := h.isCurrent (hseq.trans hsame) hbefore
  exact ⟨tickets, hkept tickets htickets, hcurrent⟩

namespace Follows

variable {busy : Nat → Prop} {f g : Finder σ}

theorem of_keepsTickets (h : f.IsSound) (hkeeps : KeepsTickets f g)
    (hseq : g.session.seq = f.session.seq) : Follows busy f g := by
  refine ⟨h.of_keepsTickets hkeeps, Nat.le_of_eq hseq.symm, ?_⟩
  intro _ panel _ hpanel
  refine ⟨hkeeps.number?_active_eq.symm.trans hpanel, ?_⟩
  intro tickets htickets
  rw [hkeeps.tickets_eq]
  exact htickets

theorem of_seq_lt (h : g.IsSound) (hseq : f.session.seq < g.session.seq) : Follows busy f g :=
  ⟨h, Nat.le_of_lt hseq, fun hsame => absurd hsame (Nat.ne_of_gt hseq)⟩

theorem refl (h : f.IsSound) : Follows busy f f :=
  of_keepsTickets h (.refl f) rfl

end Follows

section Operations

variable [RenderSurface σ] {busy : Nat → Prop} {f : Finder σ}

omit [RenderSurface σ] in
theorem follows_of_seq_lt {g : Finder σ} (hsound : g.IsSound)
    (hseq : f.session.seq < g.session.seq)
    (hstate : g.session.state ≠ .navigating) : Follows busy f g ∧ StaysNavigating f g :=
  ⟨.of_seq_lt hsound hseq, fun hnavigating => absurd hnavigating hstate⟩

omit [RenderSurface σ] in
theorem follows_of_session_eq_commit {g : Finder σ} {s : FindSession} {term : String}
    {total : Nat}
    (hsound : g.IsSound) (hseq : s.seq = f.session.seq)
    (hsession : g.session = s.commit term total) :
    Follows busy f g ∧ StaysNavigating f g := by
  apply follows_of_seq_lt hsound
  · rw [hsession, ← hseq]
    exact Nat.lt_succ_self s.seq
  · rw [hsession]
    exact s.state_commit_ne term total

omit [RenderSurface σ] in
theorem follows_input (h : f.IsSound) (text : String) (now : Nat) :
    Follows busy f (f.input text now) ∧ StaysNavigating f (f.input text now) := by
  have hseq := f.session.seq_input text now
  by_cases hterm : f.session.term = some text
  · rw [if_pos hterm] at hseq
    refine ⟨.of_keepsTickets h ⟨rfl, rfl, rfl⟩ hseq, fun hstate => ⟨hseq, ?_⟩⟩
    simpa [input, FindSession.input, hterm] using hstate
  · rw [if_neg hterm] at hseq
    apply follows_of_seq_lt (h.withSession _)
    · change f.session.seq < (f.session.input text now).seq
      omega
    · simp [FindSession.input, hterm]

theorem follows_commit (h : f.IsSound) (term : String) :
    Follows busy f (f.commit term).2 ∧ StaysNavigating f (f.commit term).2 := by
  obtain ⟨total, hsession⟩ := f.session_commit term
  exact follows_of_session_eq_commit (h.commit term) rfl hsession

theorem follows_committed (h : f.IsSound) (term : String) :
    Follows busy f (f.committed term) ∧ StaysNavigating f (f.committed term) := by
  rw [committed]
  split
  · exact ⟨.refl h, fun hstate => ⟨rfl, hstate⟩⟩
  · exact follows_commit h term

theorem follows_poll (h : f.IsSound) (now : Nat) :
    Follows busy f (f.poll now).2 ∧ StaysNavigating f (f.poll now).2 := by
  cases hpoll : (f.session.poll now).1 with
  | none =>
      rw [poll_of_none hpoll]
      exact ⟨.refl h, fun hstate => ⟨rfl, hstate⟩⟩
  | some text =>
      obtain ⟨total, hsession⟩ := session_poll_of_some hpoll
      have hsound : (f.poll now).2.IsSound := by
        rw [poll, show f.session.poll now = (some text, (f.session.poll now).2) from
          Prod.ext hpoll rfl]
        exact (h.withSession _).commit text
      exact follows_of_session_eq_commit hsound rfl hsession

omit [RenderSurface σ] in
theorem follows_recount (h : f.IsSound) :
    Follows busy f f.recount.2 ∧ StaysNavigating f f.recount.2 := by
  obtain ⟨total, hsession⟩ := f.session_recount
  have hseq : f.recount.2.session.seq = f.session.seq := by
    rw [hsession, FindSession.seq_updateTotal]
  refine ⟨.of_keepsTickets h (.recount f) hseq, fun hstate => ⟨hseq, ?_⟩⟩
  rw [hsession, FindSession.updateTotal] at hstate
  split at hstate
  · exact hstate
  · revert hstate
    cases f.session.state <;> simp <;> split <;> simp

theorem follows_clear (h : f.IsSound) : Follows busy f f.clear ∧ StaysNavigating f f.clear := by
  apply follows_of_seq_lt (h.withSession _).clearAll
  · rw [session_clearAll]
    exact Nat.lt_succ_self f.session.seq
  · rw [session_clearAll]
    exact SearchState.noConfusion

/-- What else may happen to panels, of which some are waited for.  A panel may be registered if it
is registered nowhere and is not waited for. -/
inductive Meanwhile (busy : Nat → Prop) (f : Finder σ) : Finder σ → Prop
  /-- Surfaces are moved, transcripts change, and highlights are computed anew. -/
  | inside {g : Finder σ} (hkeeps : KeepsTickets f g) (hsession : g.session = f.session) :
      Meanwhile busy f g
  | add (p : FindPanel σ) (hnew : p.tickets = .new) : Meanwhile busy f (f.add p).2
  | change (step : RegistryStep)
      (hspare : ∀ panel, step.panel? = some panel → (∀ id, f.number? id ≠ some panel) ∧
        ¬ busy panel) :
      Meanwhile busy f (f.change step)

theorem change_eq (f : Finder σ) (step : RegistryStep) :
    f.change step =
      { f with panels := (f.change step).panels, registered := (f.change step).registered } := by
  cases step with
  | register id panel =>
      simp only [change, register]
      split <;> rfl
  | unregister id =>
      simp only [change, unregister]
      split <;> rfl

theorem active_change (f : Finder σ) (step : RegistryStep) :
    (f.change step).active = f.active := by
  rw [change_eq]

theorem session_change (f : Finder σ) (step : RegistryStep) :
    (f.change step).session = f.session := by
  rw [change_eq]

theorem tickets_change (f : Finder σ) (step : RegistryStep) :
    (f.change step).tickets = match f.number? step.id with
      | some old => f.tickets.modify old .cancelAll
      | none => f.tickets := by
  have hpanels := f.panels_change step
  cases hold : f.number? step.id with
  | none =>
      rw [hold] at hpanels
      exact congrArg (List.map FindPanel.tickets) hpanels
  | some old =>
      rw [hold] at hpanels
      exact (congrArg (List.map FindPanel.tickets) hpanels).trans
        (f.tickets_modify old fun p => p.tickets_unmount)

theorem IsSound.change (h : f.IsSound) {step : RegistryStep}
    (hspare : ∀ panel, step.panel? = some panel → ∀ id, f.number? id ≠ some panel) :
    (f.change step).IsSound := by
  constructor
  · intro panel hpanel id hid
    rw [active_change] at hpanel ⊢
    rw [number?_change] at hpanel hid
    split at hid
    · next hidid =>
        split at hpanel
        · next hactiveid => rw [hidid, hactiveid]
        · exact absurd hpanel (hspare panel hid f.active)
    · split at hpanel
      · exact absurd hid (hspare panel hpanel id)
      · exact h.once panel hpanel id hid
  · rw [tickets_change]
    split
    · next old hold => exact forall_mem_modify h.orderly fun _ horderly => horderly.cancelAll
    · exact h.orderly

theorem follows_change (h : f.IsSound) {step : RegistryStep}
    (hspare : ∀ panel, step.panel? = some panel → (∀ id, f.number? id ≠ some panel) ∧
      ¬ busy panel) :
    Follows busy f (f.change step) := by
  -- The panel to step in after the change is registered anew or has kept its identifier.
  have hactive : ∀ panel, (f.change step).number? (f.change step).active = some panel →
      step.panel? = some panel ∨ step.id ≠ f.active ∧ f.number? f.active = some panel := by
    intro panel hpanel
    rw [active_change, number?_change] at hpanel
    split at hpanel
    · exact .inl hpanel
    · next hid => exact .inr ⟨Ne.symm hid, hpanel⟩
  refine ⟨h.change fun panel hpanel => (hspare panel hpanel).1, ?_, ?_⟩
  · exact Nat.le_of_eq (congrArg FindSession.seq (f.session_change step)).symm
  · intro _ panel hbusy hpanel
    rcases hactive panel hpanel with hnew | ⟨hid, hbefore⟩
    · exact absurd hbusy (hspare panel hnew).2
    · refine ⟨hbefore, fun tickets hp => ?_⟩
      rw [tickets_change]
      split
      · next old hold =>
          have hne : old ≠ panel := by
            rintro rfl
            exact hid (h.once old hbefore step.id hold)
          exact (List.getElem?_modify_ne _ _ hne).trans hp
      · exact hp

theorem follows_meanwhile {g : Finder σ} (h : f.IsSound) (hmeanwhile : Meanwhile busy f g) :
    Follows busy f g ∧ StaysNavigating f g := by
  cases hmeanwhile with
  | inside hkeeps hsession =>
      refine ⟨.of_keepsTickets h hkeeps (congrArg FindSession.seq hsession), ?_⟩
      rw [StaysNavigating, hsession]
      exact fun hstate => ⟨rfl, hstate⟩
  | add p hnew =>
      have htickets : (f.add p).2.tickets = f.tickets ++ [p.tickets] := List.map_append
      have hkept : ∀ (panel : Nat) (tickets : Tickets), f.tickets[panel]? = some tickets →
          (f.add p).2.tickets[panel]? = some tickets := by
        intro panel tickets hp
        rw [htickets]
        exact (List.getElem?_append_left (List.getElem?_eq_some_iff.mp hp).1).trans hp
      refine ⟨⟨⟨h.once, ?_⟩, Nat.le_refl _, ?_⟩, fun hstate => ⟨rfl, hstate⟩⟩
      · rw [htickets, hnew]
        exact List.forall_mem_append.mpr ⟨h.orderly, List.forall_mem_singleton.mpr .new⟩
      · exact fun _ panel _ hpanel => ⟨hpanel, hkept panel⟩
  | change step hspare =>
      refine ⟨follows_change h hspare, ?_⟩
      rw [StaysNavigating, session_change]
      exact fun hstate => ⟨rfl, hstate⟩

theorem isServedBy_goTo {seq : Nat} (h : f.IsSound) (hseq : seq ≤ f.session.seq)
    (term : String) (n : Nat) :
    (f.goTo f.active term n).2.IsServedBy seq (f.goTo f.active term n).1.panel
      (f.goTo f.active term n).1.progress := by
  rw [goTo]
  cases hactive : f.number? f.active with
  | none => exact fun _ _ => NavOutcome.noConfusion
  | some panel =>
      simp only [modifyGet]
      cases hp : f.panels[panel]? with
      | none => exact fun _ _ => NavOutcome.noConfusion
      | some p =>
          have horderly : p.tickets.IsOrderly :=
            h.orderly _ (List.mem_map_of_mem (List.mem_of_getElem? hp))
          simp only [Option.getD_some]
          cases hprogress : (p.goTo term n).1 with
          | done outcome =>
              intro _ _ houtcome
              exact p.goTo_ne_superseded horderly term n
                (hprogress.trans (congrArg Progress.done houtcome))
          | waiting wait =>
              refine ⟨hseq, fun _ _ => ⟨p.tickets.issue.2, ?_, ?_⟩⟩
              · rw [getElem?_tickets]
                simp [(List.getElem?_eq_some_iff.mp hp).1]
              · rw [FindPanel.ticket_of_goTo (Prod.ext hprogress rfl)]
                exact horderly.isCurrent_issue

theorem isServedBy_resume {seq panel : Nat} {wait : Waiting}
    (h : f.AgreesOn seq panel wait.ticket) :
    (f.modifyGet panel (·.resume wait)).2.IsServedBy seq panel
      ((f.modifyGet panel (·.resume wait)).1.getD (.done (.notFound .panelUnavailable))) := by
  have hkeeps : KeepsTickets f (f.modifyGet panel (·.resume wait)).2 :=
    .modifyGet f panel fun p => p.tickets_resume wait
  have hcurrent : ∀ p, f.panels[panel]? = some p → seq = f.session.seq →
      f.number? f.active = some panel → p.tickets.isCurrent wait.ticket = true := by
    intro p hp hseq hactive
    obtain ⟨tickets, htickets, hcurrent⟩ := h.isCurrent hseq hactive
    rw [getElem?_tickets, hp] at htickets
    rwa [Option.some.inj htickets]
  revert hkeeps
  simp only [modifyGet]
  cases hp : f.panels[panel]? with
  | none => exact fun _ _ _ => NavOutcome.noConfusion
  | some p =>
      intro hkeeps
      simp only [Option.getD_some]
      cases hprogress : (p.resume wait).1 with
      | done outcome =>
          intro hseq hactive houtcome
          rw [hkeeps.number?_active_eq] at hactive
          exact FindPanel.resume_ne_superseded (hcurrent p hp hseq hactive)
            (hprogress.trans (congrArg Progress.done houtcome))
      | waiting next =>
          refine ⟨h.seq_le, fun hseq hactive => ?_⟩
          rw [hkeeps.number?_active_eq] at hactive
          rw [hkeeps.tickets_eq, FindPanel.ticket_of_resume (Prod.ext hprogress rfl)]
          exact h.isCurrent hseq hactive

/-- What a step can come to at its start. -/
inductive Started (busy : Nat → Prop) (f : Finder σ) :
    Option (NavigationRequest × Navigation) × Finder σ → Prop
  /-- The term does not occur, and so there is no request. -/
  | declines {g : Finder σ} (hfollows : Follows busy f g) (hstays : StaysNavigating f g) :
      Started busy f (none, g)
  | requests {g : Finder σ} {request : NavigationRequest} {navigation : Navigation}
      (hfollows : Follows busy f g) (hnewer : f.session.seq < request.seq)
      (hlatest : request.seq = g.session.seq)
      (hserved : g.IsServedBy request.seq navigation.panel navigation.progress) :
      Started busy f (some (request, navigation), g)

theorem started_step (h : f.IsSound) (term : String) (direction : Direction) :
    Started busy f (f.step term direction) := by
  obtain ⟨hfollows, hstays⟩ : Follows busy f (f.committed term) ∧ _ := follows_committed h term
  have hstep := f.step_eq term direction
  cases hbegin : (f.committed term).session.begin? direction with
  | none =>
      rw [step_of_none hbegin]
      exact .declines hfollows hstays
  | some begun =>
      obtain ⟨request, session⟩ := begun
      rw [hbegin] at hstep
      obtain ⟨word, index, -, -, hrequest, hsession⟩ := FindSession.begin?_eq_some_iff.mp hbegin
      let before : Finder σ := { f.committed term with session }
      have hsound : before.IsSound := hfollows.isSound.withSession session
      have hmoved : (before.goTo before.active request.term request.index).2.session = session :=
        before.session_goTo _ _ _
      have hnewer : f.session.seq < request.seq := by
        rw [hrequest]
        exact Nat.lt_succ_of_le hfollows.seq_le
      have hlatest : request.seq = session.seq := by
        rw [hrequest, hsession]
      have hafter :
          request.seq = (before.goTo before.active request.term request.index).2.session.seq :=
        hlatest.trans (congrArg FindSession.seq hmoved).symm
      rw [hstep]
      exact .requests (.of_seq_lt (hsound.goTo _ _ _) (hafter ▸ hnewer)) hnewer hafter
        (isServedBy_goTo hsound (Nat.le_of_eq hlatest) _ _)

theorem isSome_fst_step (f : Finder σ) (term : String) (direction : Direction) :
    (f.step term direction).1.isSome = ((f.committed term).session.begin? direction).isSome := by
  rw [step_eq]
  cases (f.committed term).session.begin? direction <;> rfl

theorem follows_resume (h : f.IsSound) (panel : Nat) (wait : Waiting) :
    Follows busy f (f.modifyGet panel (·.resume wait)).2 := by
  have hkeeps : KeepsTickets f (f.modifyGet panel (·.resume wait)).2 :=
    .modifyGet f panel fun p => p.tickets_resume wait
  exact .of_keepsTickets h hkeeps (congrArg FindSession.seq (f.session_modifyGet panel _))

omit [RenderSurface σ] in
theorem finishStep_snd_eq (f : Finder σ) (seq panel : Nat) (outcome : NavOutcome) :
    ∃ state, (f.finishStep seq panel outcome).2 = { f with session.state := state } := by
  obtain ⟨state, hstate⟩ := f.session.finish_snd_eq seq (f.confirm f.active panel outcome)
  exact ⟨state, congrArg (fun session => { f with session }) hstate⟩

omit [RenderSurface σ] in
theorem finishStep_of_seq_ne {seq : Nat} (h : seq ≠ f.session.seq) (panel : Nat)
    (outcome : NavOutcome) :
    f.finishStep seq panel outcome = (false, f) := by
  simp only [finishStep, FindSession.finish_of_ne h, Bool.false_and]

omit [RenderSurface σ] in
theorem confirm_ne_superseded {seq panel : Nat} {outcome : NavOutcome}
    (hseq : seq = f.session.seq) (h : f.IsServedBy seq panel (.done outcome)) :
    f.confirm f.active panel outcome ≠ .superseded := by
  rw [confirm]
  split
  · next hactive => exact h hseq hactive
  · exact NavOutcome.noConfusion

omit [RenderSurface σ] in
/-- The end of the latest request is always noticed, so the session does not go on navigating. -/
theorem state_finishStep_ne {seq panel : Nat} {outcome : NavOutcome} (hseq : seq = f.session.seq)
    (h : f.IsServedBy seq panel (.done outcome)) :
    (f.finishStep seq panel outcome).2.session.state ≠ .navigating := by
  have hconfirmed := confirm_ne_superseded hseq h
  change (f.session.finish seq (f.confirm f.active panel outcome)).2.state ≠ _
  rw [hseq, f.session.finish_seq hconfirmed]
  change (if _ then SearchState.highlighted else .ready) ≠ _
  split <;> decide

end Operations

end Finder

end TranscriptSearch
