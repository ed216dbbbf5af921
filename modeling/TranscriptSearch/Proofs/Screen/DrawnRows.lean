import TranscriptSearch.Proofs.Screen.Measured

namespace TranscriptSearch

namespace ScrollState

theorem linesOf_append (above below : List Nat) :
    linesOf (above ++ below) = linesOf above + linesOf below := by
  rw [linesOf, List.map_append, sumOf_append]
  rfl

theorem linesOf_take_add_of_itemAtLine? {heights : List Nat} {line first skip : Nat}
    (h : itemAtLine? heights line = some (first, skip)) :
    linesOf (heights.take first) + skip = line ∧
      ∃ height, heights[first]? = some height ∧ skip ≤ height := by
  induction heights generalizing line first with
  | nil => simp [itemAtLine?] at h
  | cons height rest ih =>
      rw [itemAtLine?] at h
      split at h
      · next hle =>
          obtain ⟨rfl, rfl⟩ : 0 = first ∧ line = skip := by simpa using h
          exact ⟨by simp, height, rfl, hle⟩
      · next hgt =>
          obtain ⟨⟨first', skip'⟩, hrest, heq⟩ := Option.map_eq_some_iff.mp h
          obtain ⟨rfl, rfl⟩ : first' + 1 = first ∧ skip' = skip := by simpa using heq
          obtain ⟨hline, height', hheight, hskip⟩ := ih hrest
          refine ⟨?_, height', by simpa using hheight, hskip⟩
          rw [List.take_succ_cons, linesOf_cons]
          omega

end ScrollState

namespace RenderedItem

/-- A line of an item: a row, or the blank line below the last one. -/
def screenRow (item : RenderedItem) (index line : Nat) : ScreenRow :=
  ⟨item, index, if line < item.height then some line else none⟩

theorem length_screenRows (item : RenderedItem) (index skip : Nat) :
    (item.screenRows index skip).length = item.height + 1 - skip := by
  simp [screenRows]

theorem mem_take_screenRows {item : RenderedItem} {index skip room : Nat} {row : ScreenRow} :
    row ∈ (item.screenRows index skip).take room ↔
      ∃ line, skip ≤ line ∧ line < skip + room ∧ line ≤ item.height ∧
        row = item.screenRow index line := by
  rw [screenRows, ← List.map_take, List.mem_map]
  constructor
  · rintro ⟨line, hmem, rfl⟩
    obtain ⟨k, hk, rfl⟩ := List.mem_take_iff_getElem.mp hmem
    rw [List.length_drop, List.length_range] at hk
    rw [List.getElem_drop, List.getElem_range]
    exact ⟨skip + k, by omega, by omega, by omega, rfl⟩
  · rintro ⟨line, hskip, hroom, hheight, rfl⟩
    refine ⟨line, List.mem_take_iff_getElem.mpr ⟨line - skip, ?_, ?_⟩, rfl⟩
    · rw [List.length_drop, List.length_range]
      omega
    · rw [List.getElem_drop, List.getElem_range]
      omega

theorem mem_screenRows {item : RenderedItem} {index skip : Nat} {row : ScreenRow} :
    row ∈ item.screenRows index skip ↔
      ∃ line, skip ≤ line ∧ line ≤ item.height ∧ row = item.screenRow index line := by
  have htake := List.take_of_length_le (Nat.le_of_eq (item.length_screenRows index skip))
  rw [← htake, mem_take_screenRows]
  constructor
  · rintro ⟨line, hskip, -, hheight, hrow⟩
    exact ⟨line, hskip, hheight, hrow⟩
  · rintro ⟨line, hskip, hheight, hrow⟩
    exact ⟨line, hskip, by omega, hheight, hrow⟩

end RenderedItem

namespace TranscriptView

variable {t : Transcript} {v : TranscriptView} {index later : Nat}

theorem IsInStep.startOf_succ (h : v.IsInStep) (hindex : index < v.cells.length) :
    v.startOf (index + 1) = v.startOf index + v.heightOf index + 1 := by
  rw [startOf, List.take_add_one, h.heights_getElem? hindex, ScrollState.linesOf_append]
  rfl

theorem IsInStep.startOf_add_heightOf_lt (h : v.IsInStep) (hindex : index < v.cells.length)
    (hlater : index < later) : v.startOf index + v.heightOf index < v.startOf later := by
  have hsize : (v.scroll.heights.map (· + 1))[index]? = some (v.heightOf index + 1) := by
    rw [List.getElem?_map, h.heights_getElem? hindex]
    rfl
  have hle := sumOf_take_add_le_take hsize hlater
  rw [startOf, startOf, ScrollState.linesOf_take, ScrollState.linesOf_take]
  omega

theorem heightOf_eq {item : RenderedItem} (h : v.cells[index]? = some (some item)) :
    v.heightOf index = item.height := by
  rw [heightOf, h]
  rfl

/-- Whether a row is the line of an item that stands between two lines of the document. -/
def IsRowBetween (v : TranscriptView) (top bottom : Nat) (row : ScreenRow) : Prop :=
  ∃ index item line, v.cells[index]? = some (some item) ∧ line ≤ item.height ∧
    top ≤ v.startOf index + line ∧ v.startOf index + line < bottom ∧
    row = item.screenRow index line

theorem IsInStep.mem_rowsOf (h : v.IsInStep) {first count skip room : Nat}
    (hmeasured : ∀ index, first ≤ index → index < first + count → v.isMeasured index = true)
    (hskip : 0 < count → skip ≤ v.heightOf first) {row : ScreenRow} :
    row ∈ (v.rowsOf t room skip (List.range' first count)).1 ↔
      first ≤ row.itemIndex ∧ row.itemIndex < first + count ∧
        v.IsRowBetween (v.startOf first + skip) (v.startOf first + skip + room) row := by
  -- On the items from top to bottom: lines are skipped in the first one only, and each leaves
  -- less room for the rest.
  induction count generalizing first skip room with
  | zero =>
      simp only [List.range'_zero, rowsOf, List.not_mem_nil, false_iff]
      omega
  | succ count ih =>
      obtain ⟨item, hcell, hrendered⟩ :=
        rendered_of_isMeasured t (hmeasured first (Nat.le_refl _) (by omega))
      have hindex : first < v.cells.length := (List.getElem?_eq_some_iff.mp hcell).1
      have hheight := heightOf_eq hcell
      have hnext := h.startOf_succ hindex
      have hskip' := hskip (Nat.succ_pos count)
      have hlength := item.length_screenRows first skip
      rw [List.range'_succ, rowsOf, hrendered]
      simp only
      split
      · next hroom =>
          rw [RenderedItem.mem_take_screenRows]
          constructor
          · rintro ⟨line, hlower, hupper, hline, rfl⟩
            exact ⟨Nat.le_refl _, by change first < _; omega, first, item, line, hcell, hline,
              by omega, by omega, rfl⟩
          · rintro ⟨hfirst, -, index, other, line, hother, hline, hlower, hupper, rfl⟩
            change first ≤ index at hfirst
            rcases Nat.eq_or_lt_of_le hfirst with rfl | hlater
            · obtain rfl : other = item := by simpa [hcell] using hother.symm
              exact ⟨line, by omega, by omega, hline, rfl⟩
            · have hbelow := h.startOf_add_heightOf_lt hindex hlater
              omega
      · next hroom =>
          have hrest : row ∈ (v.rowsOf t (room - (item.screenRows first skip).length) 0
              (List.range' (first + 1) count)).1 ↔ _ :=
            ih (fun index hlower hupper => hmeasured index (by omega) (by omega))
              (fun _ => Nat.zero_le _)
          rw [List.mem_append, RenderedItem.mem_screenRows, hrest]
          constructor
          · rintro (⟨line, hlower, hline, rfl⟩ |
              ⟨hfirst, hlast, index, other, line, hother, hline, hlower, hupper, rfl⟩)
            · exact ⟨Nat.le_refl _, by change first < _; omega, first, item, line, hcell, hline,
                by omega, by omega, rfl⟩
            · exact ⟨Nat.le_of_succ_le hfirst, by omega, index, other, line, hother, hline,
                by omega, by omega, rfl⟩
          · rintro ⟨hfirst, hlast, index, other, line, hother, hline, hlower, hupper, rfl⟩
            change first ≤ index at hfirst
            rcases Nat.eq_or_lt_of_le hfirst with rfl | hlater
            · obtain rfl : other = item := by simpa [hcell] using hother.symm
              exact .inl ⟨line, by omega, hline, rfl⟩
            · have hbelow := h.startOf_add_heightOf_lt hindex hlater
              exact .inr ⟨hlater, by omega, index, other, line, hother, hline, by omega, by omega,
                rfl⟩

theorem WindowIsMeasured.mem_screenRows_iff (h : v.WindowIsMeasured) (hstep : v.IsInStep)
    (hheight : 0 < v.height) {row : ScreenRow} :
    row ∈ (v.screenRows t).1 ↔
      v.IsRowBetween (v.scroll.offset v.height) (v.scroll.offset v.height + v.height) row := by
  -- A row between the two lines is of an item in the window, so none is missed at either end.
  have hcontains : ∀ {top : Nat}, top = v.scroll.offset v.height →
      v.IsRowBetween top (top + v.height) row → v.window.contains row.itemIndex = true := by
    rintro top rfl ⟨index, item, line, hcell, hline, hlower, hupper, rfl⟩
    have hindex : index < v.cells.length := (List.getElem?_eq_some_iff.mp hcell).1
    have hitem := heightOf_eq hcell
    change v.window.contains index = true
    rw [hstep.window_contains_iff hheight hindex]
    omega
  rw [screenRows]
  cases hrange : v.visibleRange? with
  | none =>
      simp only [List.not_mem_nil, false_iff]
      intro hbetween
      have hwindow := hcontains rfl hbetween
      simp [window, hrange, VisibleWindow.contains, VisibleWindow.empty] at hwindow
  | some range =>
      have hmem : ∀ index, v.window.contains index = true ↔ index ∈ range.indices :=
        fun _ => window_contains_iff_of_visibleRange? hrange
      rw [visibleRange?, ScrollState.visibleRange?, if_neg (Nat.ne_of_gt hheight)] at hrange
      obtain ⟨⟨first, skip⟩, hline, heq⟩ := Option.map_eq_some_iff.mp hrange
      obtain rfl : (⟨first, ScrollState.itemsAbove v.scroll.heights
        (v.scroll.offset v.height + v.height), skip, v.scroll.offset v.height⟩ : VisibleRange) =
          range := heq
      obtain ⟨htop, height, hget, hskip⟩ := ScrollState.linesOf_take_add_of_itemAtLine? hline
      have hfirst : v.heightOf first = height := by
        have hlength := (List.getElem?_eq_some_iff.mp hget).1
        rw [hstep.length_heights] at hlength
        exact Option.some.inj ((hstep.heights_getElem? hlength).symm.trans hget)
      change v.startOf first + skip = _ at htop
      refine Iff.trans (hstep.mem_rowsOf ?_ fun _ => hfirst.symm ▸ hskip) ?_
      · intro index hlower hupper
        refine h index ((hmem index).mpr (VisibleRange.mem_indices.mpr ⟨hlower, ?_⟩))
        simp only at hlower hupper ⊢
        omega
      · rw [htop]
        constructor
        · rintro ⟨-, -, hbetween⟩
          exact hbetween
        · intro hbetween
          obtain ⟨hlower, hupper⟩ := VisibleRange.mem_indices.mp
            ((hmem row.itemIndex).mp (hcontains rfl hbetween))
          simp only at hlower hupper ⊢
          exact ⟨hlower, by omega, hbetween⟩

/-- Whether two views have the same rows of the same items, and the viewport at the same place of
them. -/
structure StandsLike (v after : TranscriptView) : Prop where
  cells_eq : after.cells = v.cells
  heights_eq : after.scroll.heights = v.scroll.heights
  width_eq : after.width = v.width
  options_eq : after.options = v.options
  height_eq : after.height = v.height
  epoch_eq : after.epoch = v.epoch
  offset_eq : after.scroll.offset v.height = v.scroll.offset v.height

namespace StandsLike

variable {after last : TranscriptView}

theorem refl (v : TranscriptView) : v.StandsLike v :=
  ⟨rfl, rfl, rfl, rfl, rfl, rfl, rfl⟩

theorem trans (h : v.StandsLike after) (h' : after.StandsLike last) : v.StandsLike last where
  cells_eq := h'.cells_eq.trans h.cells_eq
  heights_eq := h'.heights_eq.trans h.heights_eq
  width_eq := h'.width_eq.trans h.width_eq
  options_eq := h'.options_eq.trans h.options_eq
  height_eq := h'.height_eq.trans h.height_eq
  epoch_eq := h'.epoch_eq.trans h.epoch_eq
  offset_eq := by
    have hoffset := h'.offset_eq
    rw [h.height_eq] at hoffset
    exact hoffset.trans h.offset_eq

theorem symm (h : v.StandsLike after) : after.StandsLike v where
  cells_eq := h.cells_eq.symm
  heights_eq := h.heights_eq.symm
  width_eq := h.width_eq.symm
  options_eq := h.options_eq.symm
  height_eq := h.height_eq.symm
  epoch_eq := h.epoch_eq.symm
  offset_eq := by rw [h.height_eq, h.offset_eq]

theorem isInStep (h : v.StandsLike after) (hstep : v.IsInStep) : after.IsInStep := by
  rw [IsInStep, h.heights_eq, h.cells_eq]
  exact hstep

theorem startOf_eq (h : v.StandsLike after) (index : Nat) :
    after.startOf index = v.startOf index := by
  rw [startOf, startOf, h.heights_eq]

theorem heightOf_eq (h : v.StandsLike after) (index : Nat) :
    after.heightOf index = v.heightOf index := by
  rw [heightOf, heightOf, h.cells_eq]

theorem window_eq (h : v.StandsLike after) : after.window = v.window := by
  refine TranscriptView.window_eq ?_
  rw [h.height_eq]
  exact ScrollState.visibleRange?_eq_of_offset_eq h.heights_eq h.offset_eq

theorem windowIsMeasured (h : v.StandsLike after) (hmeasured : v.WindowIsMeasured) :
    after.WindowIsMeasured := by
  intro index hcontains
  rw [h.window_eq] at hcontains
  have hindex := hmeasured index hcontains
  rwa [isMeasured, ← h.cells_eq] at hindex

theorem mem_screenRows_iff (h : v.StandsLike after) (hstep : v.IsInStep)
    (hmeasured : v.WindowIsMeasured) (hheight : 0 < v.height) {row : ScreenRow} :
    row ∈ (after.screenRows t).1 ↔ row ∈ (v.screenRows t).1 := by
  rw [hmeasured.mem_screenRows_iff hstep hheight,
    (h.windowIsMeasured hmeasured).mem_screenRows_iff (h.isInStep hstep) (h.height_eq ▸ hheight),
    h.height_eq, h.offset_eq, IsRowBetween, IsRowBetween]
  simp only [h.cells_eq, h.startOf_eq]

theorem moveBy {move : ScrollState → ScrollState}
    (hheights : (move v.scroll).heights = v.scroll.heights)
    (hoffset : (move v.scroll).offset v.height = v.scroll.offset v.height) :
    v.StandsLike (v.moveBy move) :=
  ⟨rfl, hheights, rfl, rfl, rfl, rfl, hoffset⟩

theorem setFollowing (hmeasured : v.WindowIsMeasured) {following : Bool}
    (hbottom : following = true → v.isAtBottom = true) (t : Transcript) :
    v.StandsLike (v.setFollowing t following) := by
  rw [TranscriptView.setFollowing]
  split
  · next hfollowing =>
      have hfollow : v.StandsLike (v.moveBy (·.follow)) :=
        moveBy rfl (ScrollState.offset_follow_of_isAtBottom (hbottom hfollowing))
      rw [(hfollow.windowIsMeasured hmeasured).measure_eq]
      exact hfollow
  · exact moveBy (ScrollState.heights_stopFollowing _ _) (ScrollState.offset_stopFollowing _ _)

theorem setHighlight (v : TranscriptView) (kind : HighlightKind) (spans : List RenderedSpan) :
    v.StandsLike (v.setHighlight kind spans) := by
  cases kind with
  | all => exact ⟨rfl, rfl, rfl, rfl, rfl, rfl, rfl⟩
  | current => exact ⟨rfl, rfl, rfl, rfl, rfl, rfl, rfl⟩

theorem clearHighlight (v : TranscriptView) (kind : HighlightKind) :
    v.StandsLike (v.clearHighlight kind) := by
  unfold TranscriptView.clearHighlight
  split
  · exact .refl v
  · cases kind with
    | all => exact ⟨rfl, rfl, rfl, rfl, rfl, rfl, rfl⟩
    | current => exact ⟨rfl, rfl, rfl, rfl, rfl, rfl, rfl⟩

end StandsLike

end TranscriptView

end TranscriptSearch
