namespace TranscriptSearch

def sumOf : List Nat → Nat
  | [] => 0
  | n :: rest => n + sumOf rest

@[simp] theorem sumOf_nil : sumOf [] = 0 := rfl

@[simp] theorem sumOf_cons (n : Nat) (rest : List Nat) : sumOf (n :: rest) = n + sumOf rest := rfl

@[simp] theorem sumOf_append (xs ys : List Nat) : sumOf (xs ++ ys) = sumOf xs + sumOf ys := by
  induction xs with
  | nil => simp
  | cons n rest ih => simp [ih, Nat.add_assoc]

/-- The sum of two words, unless it is too large for a word. -/
def addWords? (a b : Nat) : Option Nat :=
  if a + b < UInt64.size then some (a + b) else none

/-- The difference of two words, unless it is negative. -/
def subWords? (a b : Nat) : Option Nat :=
  if b ≤ a then some (a - b) else none

theorem subWords?_of_le {a b : Nat} (h : b ≤ a) : subWords? a b = some (a - b) :=
  if_pos h

theorem addWords?_of_lt {a b : Nat} (h : a + b < UInt64.size) : addWords? a b = some (a + b) :=
  if_pos h

theorem addWords?_eq_some_iff {a b sum : Nat} :
    addWords? a b = some sum ↔ a + b < UInt64.size ∧ a + b = sum := by
  simp [addWords?]

theorem addWords?_eq_none_iff {a b : Nat} : addWords? a b = none ↔ UInt64.size ≤ a + b := by
  simp [addWords?]

end TranscriptSearch
