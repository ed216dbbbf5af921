import Mathlib.Data.List.Chain
import TranscriptSearch.Number.Sum
import TranscriptSearch.Proofs.Text.Lines

namespace TranscriptSearch.Text

/-- The columns that the characters of a text take, each measured by itself. -/
def columnSum (columnsOf : Char → Nat) (cs : List Char) : Nat :=
  sumOf (cs.map columnsOf)

@[simp] theorem columnSum_nil (columnsOf : Char → Nat) : columnSum columnsOf [] = 0 := rfl

@[simp] theorem columnSum_cons (columnsOf : Char → Nat) (c : Char) (cs : List Char) :
    columnSum columnsOf (c :: cs) = columnsOf c + columnSum columnsOf cs := rfl

@[simp] theorem columnSum_append (columnsOf : Char → Nat) (xs ys : List Char) :
    columnSum columnsOf (xs ++ ys) = columnSum columnsOf xs + columnSum columnsOf ys := by
  simp [columnSum]

/-- Whether a row passes the width only for the one character in it that takes a column. -/
def IsWithin (columnsOf : Char → Nat) (width : Nat) (row : List Char) : Prop :=
  columnSum columnsOf row ≤ width ∨ row.countP (0 < columnsOf ·) = 1

/-- Whether a row had to end: the next one begins with a character that takes a column, and that
would have passed the width. -/
def IsFullBefore (columnsOf : Char → Nat) (width : Nat) (row next : List Char) : Prop :=
  ∃ c rest, next = c :: rest ∧ 0 < columnsOf c ∧ width < columnSum columnsOf row + columnsOf c

/-- Whether rows are within the width and none of them ends before it is full. -/
structure IsGreedy (columnsOf : Char → Nat) (width : Nat) (rows : List (List Char)) : Prop where
  within : ∀ row ∈ rows, IsWithin columnsOf width row
  full : rows.IsChain (IsFullBefore columnsOf width)

variable {columnsOf : Char → Nat} {width : Nat}

theorem isWithin_singleton (c : Char) : IsWithin columnsOf width [c] := by
  by_cases hsize : 0 < columnsOf c
  · exact .inr (by simp [hsize])
  · exact .inl (by simp; omega)

theorem IsWithin.append_singleton {row : List Char} (h : IsWithin columnsOf width row) {c : Char}
    (hroom : ¬ (0 < columnsOf c ∧ width < columnSum columnsOf row + columnsOf c ∧ row ≠ [])) :
    IsWithin columnsOf width (row ++ [c]) := by
  by_cases hempty : row = []
  · subst hempty
    exact isWithin_singleton c
  · by_cases hsize : 0 < columnsOf c
    · have hfits : columnSum columnsOf row + columnsOf c ≤ width :=
        Nat.le_of_not_lt fun hwide => hroom ⟨hsize, hwide, hempty⟩
      exact .inl (by simpa using hfits)
    · rcases h with h | h
      · exact .inl (by simp; omega)
      · exact .inr (by simp [h, hsize])

theorem IsGreedy.cons {row next : List Char} {rows : List (List Char)}
    (hrow : IsWithin columnsOf width row) (hfull : IsFullBefore columnsOf width row next)
    (h : IsGreedy columnsOf width (next :: rows)) :
    IsGreedy columnsOf width (row :: next :: rows) :=
  ⟨List.forall_mem_cons.mpr ⟨hrow, h.within⟩, .cons_cons hfull h.full⟩

theorem isGreedy_breakRow (cs : List Char) {begun : List Char}
    (h : IsWithin columnsOf width begun) :
    let rest := breakRow columnsOf width begun.isEmpty (columnSum columnsOf begun) cs
    IsGreedy columnsOf width ((begun ++ rest.1) :: rest.2) := by
  induction cs generalizing begun with
  | nil => exact ⟨by simpa [breakRow] using h, .singleton _⟩
  | cons c cs ih =>
      simp only [breakRow]
      split
      · next hbreak =>
          -- The row ends, and the character begins the next one.
          simp only [Bool.and_eq_true, decide_eq_true_eq] at hbreak
          have hnext := ih (isWithin_singleton c)
          simp only [columnSum_cons, columnSum_nil, Nat.add_zero] at hnext
          rw [List.append_nil]
          exact .cons h ⟨c, _, rfl, hbreak.1.1, hbreak.1.2⟩ hnext
      · next hbreak =>
          have hroom : ¬ (0 < columnsOf c ∧ width < columnSum columnsOf begun + columnsOf c ∧
              begun ≠ []) := by
            simpa [and_assoc] using hbreak
          have hempty : (begun ++ [c]).isEmpty = false := by simp
          have hgrown := ih (h.append_singleton hroom)
          rw [hempty] at hgrown
          simpa using hgrown

theorem isGreedy_breakColumns (cs : List Char) :
    IsGreedy columnsOf width (breakColumns columnsOf width cs) := by
  have hbegun : IsWithin columnsOf width [] := .inl (Nat.zero_le width)
  exact isGreedy_breakRow cs hbegun

theorem flatten_breakColumns (columnsOf : Char → Nat) (width : Nat) (cs : List Char) :
    (breakColumns columnsOf width cs).flatten = cs :=
  breakRow_append_flatten columnsOf width true 0 cs

theorem ne_nil_of_mem_breakRow {empty : Bool} {used : Nat} {cs row : List Char}
    (h : row ∈ (breakRow columnsOf width empty used cs).2) : row ≠ [] := by
  induction cs generalizing empty used with
  | nil => simp [breakRow] at h
  | cons c cs ih =>
      simp only [breakRow] at h
      split at h
      · rcases List.mem_cons.mp h with rfl | h
        · exact List.cons_ne_nil c _
        · exact ih h
      · exact ih h

theorem ne_nil_of_mem_breakColumns {cs row : List Char} (hcs : cs ≠ [])
    (h : row ∈ breakColumns columnsOf width cs) : row ≠ [] := by
  obtain ⟨c, cs, rfl⟩ := List.exists_cons_of_ne_nil hcs
  have hfirst : breakColumns columnsOf width (c :: cs) =
      (c :: (breakRow columnsOf width false (columnsOf c) cs).1) ::
        (breakRow columnsOf width false (columnsOf c) cs).2 := by
    simp [breakColumns, breakRow]
  rw [hfirst] at h
  rcases List.mem_cons.mp h with rfl | h
  · exact List.cons_ne_nil c _
  · exact ne_nil_of_mem_breakRow h

/-- A text broken at columns: the rows hold all of it; each is within the width or holds a single
character that takes a column; and each row but the first begins with a character that takes a
column and would have passed the width on the row before. -/
theorem breakColumns_greedy (columnsOf : Char → Nat) (width : Nat) (cs : List Char) :
    (breakColumns columnsOf width cs).flatten = cs ∧
      (∀ row ∈ breakColumns columnsOf width cs,
        columnSum columnsOf row ≤ width ∨ row.countP (0 < columnsOf ·) = 1) ∧
      (breakColumns columnsOf width cs).IsChain fun row next => ∃ c rest, next = c :: rest ∧
        0 < columnsOf c ∧ width < columnSum columnsOf row + columnsOf c :=
  ⟨flatten_breakColumns columnsOf width cs, (isGreedy_breakColumns cs).within,
    (isGreedy_breakColumns cs).full⟩

example :
    breakColumns (fun c => if c = '-' then 0 else if c = 'w' then 3 else 1) 2 "-wa-bc".toList =
    ["-", "w", "a-b", "c"].map String.toList := by
  decide

end TranscriptSearch.Text
