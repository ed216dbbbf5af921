/-!
Tickets for navigations on one panel.  A new ticket cancels the one before it, so that work done
for an old one can tell that it is no longer wanted.  A program counts tickets in 64 bits and
would begin again behind 2^64 of them; here the numbers have no bound.
-/
namespace TranscriptSearch

/-- The tickets of a panel.  A ticket is its number. -/
structure Tickets where
  /-- The latest number. -/
  latest : Nat
  /-- The ticket whose token the next ticket cancels; zero before the first. -/
  holder : Nat
  /-- The tickets whose tokens are cancelled. -/
  cancelled : List Nat
deriving DecidableEq

namespace Tickets

def new : Tickets :=
  ⟨0, 0, []⟩

def issue (t : Tickets) : Nat × Tickets :=
  let seq := t.latest + 1
  (seq, ⟨seq, seq, t.holder :: t.cancelled⟩)

def cancelAll (t : Tickets) : Tickets :=
  { t with latest := t.latest + 1, cancelled := t.holder :: t.cancelled }

def cancel (t : Tickets) (ticket : Nat) : Tickets :=
  { t with cancelled := ticket :: t.cancelled }

def isCancelled (t : Tickets) (ticket : Nat) : Bool :=
  ticket ∈ t.cancelled

def isCurrent (t : Tickets) (ticket : Nat) : Bool :=
  !t.isCancelled ticket && t.latest == ticket

end Tickets

end TranscriptSearch
