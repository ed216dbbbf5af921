import TranscriptSearch.Proofs.Find.Tickets

namespace TranscriptSearch

/-- Something that is done to the tickets of a panel. -/
inductive TicketStep where
  | issue
  | cancelAll
  /-- The token of one ticket is cancelled; tickets are numbered in the order in which they were
  issued. -/
  | cancel (index : Nat)
deriving DecidableEq

/-- Whether a step takes away the right to go on from the ticket that was issued after `index`
others. -/
def TicketStep.Withdraws (index : Nat) : TicketStep → Prop
  | .issue => True
  | .cancelAll => True
  | .cancel other => other = index

/-- The tickets of a panel, and all that have been issued, the first one first. -/
structure TicketRun where
  tickets : Tickets
  issued : List Nat

namespace TicketRun

variable {r : TicketRun} {ticket index : Nat}

def new : TicketRun :=
  ⟨.new, []⟩

def next (r : TicketRun) : TicketStep → TicketRun
  | .issue => ⟨r.tickets.issue.2, r.issued ++ [r.tickets.issue.1]⟩
  | .cancelAll => { r with tickets := r.tickets.cancelAll }
  | .cancel index =>
    match r.issued[index]? with
    | some ticket => { r with tickets := r.tickets.cancel ticket }
    | none => r

def run (r : TicketRun) (steps : List TicketStep) : TicketRun :=
  steps.foldl next r

theorem run_append (r : TicketRun) (before after : List TicketStep) :
    r.run (before ++ after) = (r.run before).run after :=
  List.foldl_append

theorem next_cancel_of_some (h : r.issued[index]? = some ticket) :
    r.next (.cancel index) = { r with tickets := r.tickets.cancel ticket } := by
  rw [next, h]

theorem next_cancel_of_none (h : r.issued[index]? = none) : r.next (.cancel index) = r := by
  rw [next, h]

theorem issued_next (r : TicketRun) (step : TicketStep) :
    (r.next step).issued =
      r.issued ++ if step = .issue then [r.tickets.issue.1] else [] := by
  cases step with
  | issue => rfl
  | cancelAll => exact (List.append_nil _).symm
  | cancel index =>
      rw [next, if_neg nofun, List.append_nil]
      split
      · rfl
      · rfl

theorem issued_run (r : TicketRun) (steps : List TicketStep) :
    ∃ later, (r.run steps).issued = r.issued ++ later ∧ later.length = steps.count .issue := by
  induction steps generalizing r with
  | nil => exact ⟨[], (List.append_nil _).symm, rfl⟩
  | cons step steps ih =>
      obtain ⟨later, hissued, hlength⟩ := ih (r.next step)
      refine ⟨(if step = .issue then [r.tickets.issue.1] else []) ++ later, ?_, ?_⟩
      · rw [← List.append_assoc, ← issued_next]
        exact hissued
      · rw [List.length_append, hlength, List.count_cons, Nat.add_comm]
        split
        · next hissue => rw [hissue, beq_self_eq_true, if_pos rfl, List.length_singleton]
        · next hother => rw [if_neg (by simpa using hother), List.length_nil]

theorem length_issued_run_new (steps : List TicketStep) :
    (new.run steps).issued.length = steps.count .issue := by
  obtain ⟨later, hissued, hlength⟩ := new.issued_run steps
  rw [hissued, ← hlength]
  rfl

theorem subset_cancelled_next (r : TicketRun) (step : TicketStep) :
    r.tickets.cancelled ⊆ (r.next step).tickets.cancelled := by
  cases step with
  | issue => exact List.subset_cons_self _ _
  | cancelAll => exact List.subset_cons_self _ _
  | cancel index =>
      rw [next]
      split
      · exact List.subset_cons_self _ _
      · exact List.Subset.refl _

theorem subset_cancelled_run (r : TicketRun) (steps : List TicketStep) :
    r.tickets.cancelled ⊆ (r.run steps).tickets.cancelled := by
  induction steps generalizing r with
  | nil => exact List.Subset.refl _
  | cons step steps ih =>
    exact List.Subset.trans (r.subset_cancelled_next step) (ih (r.next step))

/-- Whether the numbers of the tickets rise, and none is cancelled before it is issued. -/
structure IsOrderly (r : TicketRun) : Prop where
  tickets : r.tickets.IsOrderly
  issued_le : ∀ ticket ∈ r.issued, ticket ≤ r.tickets.latest
  pairwise_issued : r.issued.Pairwise (· < ·)

theorem IsOrderly.nodup_issued (h : r.IsOrderly) : r.issued.Nodup :=
  h.pairwise_issued.imp Nat.ne_of_lt

theorem isOrderly_new : new.IsOrderly :=
  ⟨.new, nofun, .nil⟩

theorem IsOrderly.next (h : r.IsOrderly) (step : TicketStep) : (r.next step).IsOrderly := by
  cases step with
  | issue =>
      refine ⟨h.tickets.issue, ?_, ?_⟩
      · intro ticket hticket
        rcases List.mem_append.mp hticket with hold | hnew
        · exact Nat.le_succ_of_le (h.issued_le ticket hold)
        · exact Nat.le_of_eq (List.mem_singleton.mp hnew)
      · refine List.pairwise_append.mpr ⟨h.pairwise_issued, List.pairwise_singleton _ _, ?_⟩
        intro ticket hticket other hother
        rw [List.mem_singleton.mp hother]
        exact Nat.lt_succ_of_le (h.issued_le ticket hticket)
  | cancelAll =>
      exact ⟨h.tickets.cancelAll,
        fun ticket hticket => Nat.le_succ_of_le (h.issued_le ticket hticket), h.pairwise_issued⟩
  | cancel index =>
      cases hticket : r.issued[index]? with
      | none =>
          rw [next_cancel_of_none hticket]
          exact h
      | some ticket =>
          rw [next_cancel_of_some hticket]
          exact ⟨h.tickets.cancel (h.issued_le ticket (List.mem_of_getElem? hticket)),
            h.issued_le, h.pairwise_issued⟩

theorem IsOrderly.run (h : r.IsOrderly) (steps : List TicketStep) : (r.run steps).IsOrderly := by
  induction steps generalizing r with
  | nil => exact h
  | cons step steps ih => exact ih (h.next step)

/-- Whether the ticket that was issued after `index` others is the latest one, and whoever has it
may go on. -/
structure IsHeld (r : TicketRun) (index ticket : Nat) : Prop where
  issued : r.issued[index]? = some ticket
  latest_eq : r.tickets.latest = ticket
  holder_eq : r.tickets.holder = ticket
  not_cancelled : ticket ∉ r.tickets.cancelled

theorem IsOrderly.isHeld_issue (h : r.IsOrderly) :
    (r.next .issue).IsHeld r.issued.length r.tickets.issue.1 := by
  have hnew : r.tickets.issue.1 ∉ r.tickets.issue.2.cancelled := by
    intro hcancelled
    have hcurrent := h.tickets.isCurrent_issue
    rw [Tickets.isCurrent_of_mem_cancelled hcancelled] at hcurrent
    exact Bool.noConfusion hcurrent
  exact ⟨List.getElem?_concat_length, rfl, rfl, hnew⟩

namespace IsHeld

theorem next (h : r.IsHeld index ticket) (horderly : r.IsOrderly) {step : TicketStep}
    (hstep : ¬ step.Withdraws index) : (r.next step).IsHeld index ticket := by
  cases step with
  | issue => exact absurd trivial hstep
  | cancelAll => exact absurd trivial hstep
  | cancel other =>
      cases hother : r.issued[other]? with
      | none =>
          rw [next_cancel_of_none hother]
          exact h
      | some cancelled =>
          have hne : ticket ≠ cancelled := by
            rintro rfl
            have hlt := (List.getElem?_eq_some_iff.mp hother).1
            have hsame := hother.trans h.issued.symm
            exact hstep ((List.getElem?_inj hlt horderly.nodup_issued).mp hsame)
          rw [next_cancel_of_some hother]
          exact ⟨h.issued, h.latest_eq, h.holder_eq,
            fun hmem => (List.mem_cons.mp hmem).elim hne h.not_cancelled⟩

theorem mem_cancelled_next (h : r.IsHeld index ticket) {step : TicketStep}
    (hstep : step.Withdraws index) : ticket ∈ (r.next step).tickets.cancelled := by
  cases step with
  | issue => exact h.holder_eq ▸ List.mem_cons_self
  | cancelAll => exact h.holder_eq ▸ List.mem_cons_self
  | cancel other =>
      obtain rfl : other = index := hstep
      rw [next_cancel_of_some h.issued]
      exact List.mem_cons_self

/-- A ticket is held until the first step that withdraws it, and cancelled from then on. -/
theorem run (h : r.IsHeld index ticket) (horderly : r.IsOrderly) (steps : List TicketStep) :
    (∃ step ∈ steps, step.Withdraws index) ∧ ticket ∈ (r.run steps).tickets.cancelled ∨
      (∀ step ∈ steps, ¬ step.Withdraws index) ∧ (r.run steps).IsHeld index ticket := by
  induction steps generalizing r with
  | nil => exact .inr ⟨nofun, h⟩
  | cons step steps ih =>
      by_cases hstep : step.Withdraws index
      · exact .inl ⟨⟨step, List.mem_cons_self, hstep⟩,
          (r.next step).subset_cancelled_run steps (h.mem_cancelled_next hstep)⟩
      · rcases ih (h.next horderly hstep) (horderly.next step) with
          ⟨⟨later, hlater, hwithdraws⟩, hcancelled⟩ | ⟨hnone, hheld⟩
        · exact .inl ⟨⟨later, List.mem_cons_of_mem _ hlater, hwithdraws⟩, hcancelled⟩
        · exact .inr ⟨List.forall_mem_cons.mpr ⟨hstep, hnone⟩, hheld⟩

theorem isCurrent (h : r.IsHeld index ticket) : r.tickets.isCurrent ticket = true := by
  rw [Tickets.isCurrent, Tickets.isCancelled, decide_eq_false h.not_cancelled, h.latest_eq,
    beq_self_eq_true]
  rfl

end IsHeld

theorem exists_withdraws_iff {steps : List TicketStep} :
    (∃ step ∈ steps, step.Withdraws index) ↔
      .issue ∈ steps ∨ .cancelAll ∈ steps ∨ .cancel index ∈ steps := by
  constructor
  · rintro ⟨step, hstep, hwithdraws⟩
    cases step with
    | issue => exact .inl hstep
    | cancelAll => exact .inr (.inl hstep)
    | cancel other => exact .inr (.inr (hwithdraws ▸ hstep))
  · rintro (hstep | hstep | hstep)
    · exact ⟨_, hstep, trivial⟩
    · exact ⟨_, hstep, trivial⟩
    · exact ⟨_, hstep, rfl⟩

/-- Whether tickets are as the steps of a run say.  A ticket is current just if none has been
issued since, not all have been cancelled since, and it has not been cancelled itself; if it is
not current, its token is cancelled. -/
structure IsAccountOf (r : TicketRun) (steps : List TicketStep) : Prop where
  length_issued : r.issued.length = steps.count .issue
  pairwise_issued : r.issued.Pairwise (· < ·)
  status : ∀ before after, steps = before ++ .issue :: after →
    ∃ ticket, r.issued[before.count .issue]? = some ticket ∧
      (r.tickets.isCurrent ticket = true ↔
        .issue ∉ after ∧ .cancelAll ∉ after ∧ .cancel (before.count .issue) ∉ after) ∧
      (r.tickets.isCancelled ticket = true ↔
        .issue ∈ after ∨ .cancelAll ∈ after ∨ .cancel (before.count .issue) ∈ after)
  eq_of_isCurrent : ∀ index other ticket otherTicket : Nat,
    r.issued[index]? = some ticket → r.issued[other]? = some otherTicket →
    r.tickets.isCurrent ticket = true → r.tickets.isCurrent otherTicket = true → index = other

/-- The numbers of the tickets rise from each ticket to the next, so that no number comes twice,
and at most one ticket is current: the last one, until a cancellation. -/
theorem isAccountOf_run (steps : List TicketStep) : (new.run steps).IsAccountOf steps where
  length_issued := length_issued_run_new steps
  pairwise_issued := (isOrderly_new.run steps).pairwise_issued
  status := by
    rintro before after rfl
    -- The ticket is held when it has just been issued; the rest of the run decides what becomes
    -- of it.
    have horderly := isOrderly_new.run before
    have hheld := horderly.isHeld_issue
    rw [length_issued_run_new] at hheld
    rw [run_append]
    obtain ⟨later, hlater, -⟩ := ((new.run before).next .issue).issued_run after
    have hissued : (((new.run before).next .issue).run after).issued[before.count .issue]? =
        some (new.run before).tickets.issue.1 := by
      rw [hlater, List.getElem?_append_left (List.getElem?_eq_some_iff.mp hheld.issued).1,
        hheld.issued]
    refine ⟨_, hissued, ?_⟩
    rw [← not_or, ← not_or, ← exists_withdraws_iff]
    rcases hheld.run (horderly.next .issue) after with ⟨hwithdrawn, hcancelled⟩ | ⟨hnone, hstill⟩
    · have hcurrent := Tickets.isCurrent_of_mem_cancelled hcancelled
      exact ⟨iff_of_false (Bool.eq_false_iff.mp hcurrent) (not_not_intro hwithdrawn),
        iff_of_true (decide_eq_true hcancelled) hwithdrawn⟩
    · have hnot : ¬ ∃ step ∈ after, step.Withdraws (before.count .issue) := by
        rintro ⟨step, hstep, hwithdraws⟩
        exact hnone step hstep hwithdraws
      exact ⟨iff_of_true hstill.isCurrent hnot,
        iff_of_false (fun hcancelled => hstill.not_cancelled (of_decide_eq_true hcancelled)) hnot⟩
  eq_of_isCurrent index other ticket otherTicket hticket hother hcurrent hcurrent' := by
    have hsame : ticket = otherTicket :=
      (Tickets.latest_eq_of_isCurrent hcurrent).symm.trans
        (Tickets.latest_eq_of_isCurrent hcurrent')
    have hlt := (List.getElem?_eq_some_iff.mp hticket).1
    rw [← hsame] at hother
    exact (List.getElem?_inj hlt (isOrderly_new.run steps).nodup_issued).mp
      (hticket.trans hother.symm)

/-- A cancellation of all tickets takes a number, too. -/
example : (new.run [.issue, .cancel 0, .issue, .cancelAll, .issue]).issued = [1, 2, 4] := rfl

end TicketRun

end TranscriptSearch
