import TranscriptSearch.Number.Sum

namespace TranscriptSearch

theorem sumOf_take_add_le {sizes : List Nat} {index size : Nat} (h : sizes[index]? = some size) :
    sumOf (sizes.take index) + size ≤ sumOf sizes := by
  induction sizes generalizing index with
  | nil => simp at h
  | cons first sizes ih =>
      cases index with
      | zero =>
          rw [List.getElem?_cons_zero, Option.some.injEq] at h
          simp [h]
      | succ index =>
          rw [List.getElem?_cons_succ] at h
          have hrest := ih h
          simp only [List.take_succ_cons, sumOf_cons]
          omega

theorem sumOf_take_add_le_take {sizes : List Nat} {index size later : Nat}
    (h : sizes[index]? = some size) (hlater : index < later) :
    sumOf (sizes.take index) + size ≤ sumOf (sizes.take later) := by
  have htake : (sizes.take later)[index]? = some size := by
    rw [List.getElem?_take_of_lt hlater, h]
  have hle := sumOf_take_add_le htake
  rwa [List.take_take, Nat.min_eq_left (by omega)] at hle

theorem exists_block_of_lt {sizes : List Nat} {n : Nat} (h : n < sumOf sizes) :
    ∃ index size offset, sizes[index]? = some size ∧ offset < size ∧
      n = sumOf (sizes.take index) + offset := by
  induction sizes generalizing n with
  | nil => simp at h
  | cons first sizes ih =>
      by_cases hfirst : n < first
      · exact ⟨0, first, n, rfl, hfirst, by simp⟩
      · rw [sumOf_cons] at h
        obtain ⟨index, size, offset, hsize, hoffset, hn⟩ := ih (n := n - first) (by omega)
        refine ⟨index + 1, size, offset, by simpa using hsize, hoffset, ?_⟩
        simp only [List.take_succ_cons, sumOf_cons]
        omega

theorem sumOf_map_range (sizes : List Nat) (n : Nat) :
    sumOf ((List.range n).map fun index => sizes[index]?.getD 0) = sumOf (sizes.take n) := by
  induction n with
  | zero => rfl
  | succ n ih =>
      rw [List.range_succ, List.map_append, sumOf_append, ih, List.take_add_one, sumOf_append,
        List.map_singleton]
      cases sizes[n]? <;> rfl

end TranscriptSearch
