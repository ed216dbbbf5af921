namespace TranscriptSearch

/-- The text typed last, until it is due. -/
structure Debouncer where
  /-- How long a pause must be. -/
  delay : Nat
  /-- The text and the time at which it was typed. -/
  pending : Option (String × Nat)
deriving DecidableEq

namespace Debouncer

def new (delay : Nat) : Debouncer :=
  ⟨delay, none⟩

def input (d : Debouncer) (text : String) (now : Nat) : Debouncer :=
  { d with pending := some (text, now) }

/-- The text typed last, if the pause has been long enough; it is then taken. -/
def poll (d : Debouncer) (now : Nat) : Option String × Debouncer :=
  match d.pending with
  | some (text, typed) =>
    if d.delay ≤ now - typed then (some text, { d with pending := none }) else (none, d)
  | none => (none, d)

def flush (d : Debouncer) : Option String × Debouncer :=
  (d.pending.map (·.1), { d with pending := none })

def isPending (d : Debouncer) : Bool :=
  d.pending.isSome

def deadline (d : Debouncer) : Option Nat :=
  d.pending.map (·.2 + d.delay)

def cancel (d : Debouncer) : Debouncer :=
  { d with pending := none }

end Debouncer

end TranscriptSearch
