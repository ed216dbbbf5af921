import TranscriptSearch.Proofs.Number.Blocks
import TranscriptSearch.Screen.Scroll

namespace TranscriptSearch.ScrollState

@[simp] theorem linesOf_nil : linesOf [] = 0 := rfl

@[simp] theorem linesOf_cons (height : Nat) (rest : List Nat) :
    linesOf (height :: rest) = height + 1 + linesOf rest := rfl

theorem linesOf_take (heights : List Nat) (index : Nat) :
    linesOf (heights.take index) = sumOf ((heights.map (· + 1)).take index) := by
  rw [linesOf, List.map_take]

theorem linesOf_take_add_lt {heights : List Nat} {index height : Nat}
    (h : heights[index]? = some height) :
    linesOf (heights.take index) + height < linesOf heights := by
  have hsize : (heights.map (· + 1))[index]? = some (height + 1) := by
    rw [List.getElem?_map, h]
    rfl
  have hle := sumOf_take_add_le hsize
  rw [linesOf_take]
  exact hle

theorem itemAtLine?_le_iff {heights : List Nat} {line first skip : Nat}
    (hfirst : itemAtLine? heights line = some (first, skip)) {index height : Nat}
    (h : heights[index]? = some height) :
    first ≤ index ↔ line ≤ linesOf (heights.take index) + height := by
  induction heights generalizing line first skip index with
  | nil => simp at h
  | cons top rest ih =>
      rw [itemAtLine?] at hfirst
      split at hfirst
      · next hline =>
          obtain ⟨rfl, rfl⟩ : 0 = first ∧ line = skip := by simpa using hfirst
          cases index with
          | zero =>
              rw [List.getElem?_cons_zero, Option.some.injEq] at h
              simp
              omega
          | succ index =>
              simp only [List.take_succ_cons, linesOf_cons]
              omega
      · next hline =>
          obtain ⟨⟨first', skip'⟩, hfirst', heq⟩ := Option.map_eq_some_iff.mp hfirst
          obtain ⟨rfl, rfl⟩ : first' + 1 = first ∧ skip' = skip := by simpa using heq
          cases index with
          | zero =>
              rw [List.getElem?_cons_zero, Option.some.injEq] at h
              simp
              omega
          | succ index =>
              rw [List.getElem?_cons_succ] at h
              have hrest := ih hfirst' h
              simp only [List.take_succ_cons, linesOf_cons]
              omega

theorem exists_itemAtLine? {heights : List Nat} {line : Nat} (h : line < linesOf heights) :
    ∃ first skip, itemAtLine? heights line = some (first, skip) := by
  induction heights generalizing line with
  | nil => simp at h
  | cons top rest ih =>
      rw [itemAtLine?]
      split
      · exact ⟨0, line, rfl⟩
      · rw [linesOf_cons] at h
        have hrest : line - (top + 1) < linesOf rest := by omega
        obtain ⟨first, skip, hfirst⟩ := ih hrest
        exact ⟨first + 1, skip, by rw [hfirst]; rfl⟩

theorem lt_itemsAbove_iff {heights : List Nat} {index height : Nat}
    (h : heights[index]? = some height) (line : Nat) :
    index < itemsAbove heights line ↔ linesOf (heights.take index) < line := by
  induction heights generalizing line index with
  | nil => simp at h
  | cons top rest ih =>
      rw [itemsAbove]
      split
      · omega
      · next hline =>
          cases index with
          | zero =>
              simp
              omega
          | succ index =>
              rw [List.getElem?_cons_succ] at h
              have hrest := ih h (line - (top + 1))
              simp only [List.take_succ_cons, linesOf_cons]
              omega

theorem mem_visibleRange?_iff {s : ScrollState} {viewport index height : Nat}
    (hviewport : 0 < viewport) (h : s.heights[index]? = some height) :
    (∃ range, s.visibleRange? viewport = some range ∧ range.first ≤ index ∧ index < range.stop) ↔
      linesOf (s.heights.take index) < s.offset viewport + viewport ∧
        s.offset viewport ≤ linesOf (s.heights.take index) + height := by
  have hlines := linesOf_take_add_lt h
  have hoffset : s.offset viewport < linesOf s.heights := by
    have hmax : s.offset viewport ≤ linesOf s.heights - viewport := by
      rw [offset]
      split
      · exact Nat.le_refl _
      · exact Nat.min_le_right _ _
    omega
  obtain ⟨first, skip, hfirst⟩ := exists_itemAtLine? hoffset
  have hrange : s.visibleRange? viewport =
      some ⟨first, itemsAbove s.heights (s.offset viewport + viewport), skip,
        s.offset viewport⟩ := by
    simp only [visibleRange?, hfirst, Option.map_some]
    rw [if_neg (by omega)]
  have hstop := lt_itemsAbove_iff h (s.offset viewport + viewport)
  have hstart := itemAtLine?_le_iff hfirst h
  rw [hrange]
  simp only [Option.some.injEq, exists_eq_left']
  rw [hstart, hstop, and_comm]

theorem heights_setHeight (s : ScrollState) (index height : Nat) :
    (s.setHeight index height).2.heights = s.heights.set index height := by
  rw [setHeight]
  split
  · next old hold =>
      obtain ⟨hindex, rfl⟩ := List.getElem?_eq_some_iff.mp hold
      split
      · next hsame => rw [hsame, List.set_getElem_self]
      · rfl
  · next hnone => rw [List.set_eq_of_length_le (List.getElem?_eq_none_iff.mp hnone)]

theorem mode_setHeight (s : ScrollState) (index height : Nat) :
    (s.setHeight index height).2.mode = s.mode := by
  rw [setHeight]
  split
  · split <;> rfl
  · rfl

theorem snd_setHeight_of_fst_eq_false {s : ScrollState} {index height : Nat}
    (h : (s.setHeight index height).1 = false) : (s.setHeight index height).2 = s := by
  revert h
  rw [setHeight]
  split
  · split
    · exact fun _ => rfl
    · exact fun htrue => Bool.noConfusion htrue
  · exact fun _ => rfl

@[simp] theorem heights_stopFollowing (s : ScrollState) (viewport : Nat) :
    (s.stopFollowing viewport).heights = s.heights := by
  rw [stopFollowing]
  split <;> rfl

theorem heights_of_scrollDown? {s after : ScrollState} {lines viewport : Nat}
    (h : s.scrollDown? lines viewport = some after) : after.heights = s.heights := by
  rw [scrollDown?] at h
  split at h
  · exact congrArg heights (Option.some.inj h).symm
  · obtain ⟨line, -, rfl⟩ := Option.map_eq_some_iff.mp h
    split <;> rfl

end TranscriptSearch.ScrollState
