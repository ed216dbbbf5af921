import TranscriptSearch.Find.Ticket

namespace TranscriptSearch.Tickets

/-- A ticket whose token is the one that the next ticket cancels, or is cancelled already. -/
def IsIssued (t : Tickets) (ticket : Nat) : Prop :=
  ticket ≤ t.latest ∧ (ticket = t.holder ∨ ticket ∈ t.cancelled)

/-- A ticket that is not the latest any more and whose token is cancelled. -/
def IsStale (t : Tickets) (ticket : Nat) : Prop :=
  ticket < t.latest ∧ ticket ∈ t.cancelled

variable {t : Tickets} {ticket : Nat}

theorem isCurrent_of_mem_cancelled (h : ticket ∈ t.cancelled) : t.isCurrent ticket = false := by
  rw [isCurrent, isCancelled, decide_eq_true h]
  rfl

theorem latest_eq_of_isCurrent (h : t.isCurrent ticket = true) : t.latest = ticket :=
  eq_of_beq (Bool.and_eq_true_iff.mp h).2

theorem isIssued_issue (t : Tickets) : t.issue.2.IsIssued t.issue.1 :=
  ⟨Nat.le_refl _, .inl rfl⟩

theorem IsIssued.isStale_issue (h : t.IsIssued ticket) : t.issue.2.IsStale ticket := by
  rcases h with ⟨hle, rfl | hcancelled⟩
  · exact ⟨Nat.lt_succ_of_le hle, List.mem_cons_self⟩
  · exact ⟨Nat.lt_succ_of_le hle, List.mem_cons_of_mem _ hcancelled⟩

theorem IsIssued.isStale_cancelAll (h : t.IsIssued ticket) : t.cancelAll.IsStale ticket := by
  rcases h with ⟨hle, rfl | hcancelled⟩
  · exact ⟨Nat.lt_succ_of_le hle, List.mem_cons_self⟩
  · exact ⟨Nat.lt_succ_of_le hle, List.mem_cons_of_mem _ hcancelled⟩

namespace IsStale

theorem isIssued (h : t.IsStale ticket) : t.IsIssued ticket :=
  ⟨Nat.le_of_lt h.1, .inr h.2⟩

theorem isCancelled (h : t.IsStale ticket) : t.isCancelled ticket = true :=
  decide_eq_true h.2

theorem isCurrent (h : t.IsStale ticket) : t.isCurrent ticket = false := by
  rw [Tickets.isCurrent, h.isCancelled]
  rfl

end IsStale

/-- Whether no ticket is cancelled before it is issued. -/
structure IsOrderly (t : Tickets) : Prop where
  holder_le : t.holder ≤ t.latest
  cancelled_le : ∀ ticket ∈ t.cancelled, ticket ≤ t.latest

namespace IsOrderly

theorem new : Tickets.new.IsOrderly :=
  ⟨Nat.le_refl 0, by simp [Tickets.new]⟩

theorem issue (h : t.IsOrderly) : t.issue.2.IsOrderly := by
  refine ⟨Nat.le_refl _, ?_⟩
  rintro ticket (_ | ⟨_, hcancelled⟩)
  · exact Nat.le_succ_of_le h.holder_le
  · exact Nat.le_succ_of_le (h.cancelled_le ticket hcancelled)

theorem cancelAll (h : t.IsOrderly) : t.cancelAll.IsOrderly := by
  refine ⟨Nat.le_succ_of_le h.holder_le, ?_⟩
  rintro ticket (_ | ⟨_, hcancelled⟩)
  · exact Nat.le_succ_of_le h.holder_le
  · exact Nat.le_succ_of_le (h.cancelled_le ticket hcancelled)

theorem cancel (h : t.IsOrderly) (hle : ticket ≤ t.latest) : (t.cancel ticket).IsOrderly := by
  refine ⟨h.holder_le, ?_⟩
  rintro other (_ | ⟨_, hcancelled⟩)
  · exact hle
  · exact h.cancelled_le other hcancelled

theorem isCurrent_issue (h : t.IsOrderly) : t.issue.2.isCurrent t.issue.1 = true := by
  have hnew : t.latest + 1 ∉ t.holder :: t.cancelled := by
    intro hcancelled
    rcases List.mem_cons.mp hcancelled with heq | hcancelled
    · exact absurd h.holder_le (by omega)
    · exact absurd (h.cancelled_le _ hcancelled) (by omega)
  change (!decide (t.latest + 1 ∈ t.holder :: t.cancelled) && t.latest + 1 == t.latest + 1) = true
  rw [decide_eq_false hnew, beq_self_eq_true]
  rfl

end IsOrderly

end TranscriptSearch.Tickets
