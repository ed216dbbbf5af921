import TranscriptSearch.Text.CaseTable

namespace TranscriptSearch.Text

def isAscii (c : Char) : Bool :=
  c.toNat < 128

/-- The lower-case form of an ASCII letter; any other character is left as it is. -/
def asciiLower (c : Char) : Char :=
  if 'A' ≤ c ∧ c ≤ 'Z' then Char.ofNat (c.toNat + 32) else c

/-- The lower-case form of one character, without regard to its neighbours. -/
def lower (c : Char) : List Char :=
  if isAscii c then [asciiLower c]
  else if c = 'İ' then ['i', '\u0307']
  else
    match caseRuns.find? (·.contains c.toNat) with
    | some run => [Char.ofNat (c.toNat + run.shift).toNat]
    | none => [c]

/-- A text with every character replaced by its lower-case form. -/
def fold (cs : List Char) : List Char :=
  cs.flatMap lower

theorem lower_of_isAscii {c : Char} (h : isAscii c = true) : lower c = [asciiLower c] := by
  simp [lower, h]

theorem lower_ne_nil (c : Char) : lower c ≠ [] := by
  unfold lower
  split
  · simp
  · split
    · simp
    · split <;> simp

theorem fold_append (xs ys : List Char) : fold (xs ++ ys) = fold xs ++ fold ys := by
  simp [fold]

end TranscriptSearch.Text
