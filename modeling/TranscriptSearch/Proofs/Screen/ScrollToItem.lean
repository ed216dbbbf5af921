import TranscriptSearch.Proofs.Screen.ScrollLines
import TranscriptSearch.Proofs.Screen.ViewRuns

namespace TranscriptSearch.TranscriptView

/-- The first line of an item. -/
def startOf (v : TranscriptView) (index : Nat) : Nat :=
  ScrollState.linesOf (v.scroll.heights.take index)

/-- The number of rows of an item, or the number that it is taken to have. -/
def heightOf (v : TranscriptView) (index : Nat) : Nat :=
  cellHeight v.cells[index]?.join

/-- The top line that a viewport gets when it is scrolled to an item. -/
def scrollTarget (v : TranscriptView) (index : Nat) (align : ScrollAlign) : Nat :=
  min (alignedOffset (v.startOf index) (v.heightOf index) v.height align)
    (v.scroll.maxOffset v.height)

variable {t : Transcript} {v after : TranscriptView} {index : Nat}

namespace IsInStep

theorem heights_getElem? (h : v.IsInStep) (hindex : index < v.cells.length) :
    v.scroll.heights[index]? = some (v.heightOf index) := by
  rw [heightOf, h, List.getElem?_map, List.getElem?_eq_getElem hindex]
  rfl

theorem length_heights (h : v.IsInStep) : v.scroll.heights.length = v.cells.length := by
  rw [h, List.length_map]

theorem startOf_add_heightOf_lt_totalLines (h : v.IsInStep) (hindex : index < v.cells.length) :
    v.startOf index + v.heightOf index < v.scroll.totalLines :=
  ScrollState.linesOf_take_add_lt (h.heights_getElem? hindex)

theorem window_contains_iff (h : v.IsInStep) (hheight : 0 < v.height)
    (hindex : index < v.cells.length) :
    v.window.contains index = true ↔
      v.startOf index < v.scroll.offset v.height + v.height ∧
        v.scroll.offset v.height ≤ v.startOf index + v.heightOf index := by
  refine Iff.trans ?_ (ScrollState.mem_visibleRange?_iff hheight (h.heights_getElem? hindex))
  rw [window, visibleRange?]
  cases v.scroll.visibleRange? v.height with
  | none => simp [VisibleWindow.contains, VisibleWindow.empty]
  | some range => simp [VisibleWindow.contains]

theorem scrollToItem_eq (h : v.IsInStep) (hindex : index < v.cells.length) (t : Transcript)
    (align : ScrollAlign) :
    v.scrollToItem t index align =
      (v.moveBy fun s =>
        { s with mode := .anchored (v.scrollTarget index align) }).measure t := by
  have hlength : index < v.scroll.heights.length := h.length_heights ▸ hindex
  have hstart : v.scroll.itemStart? index = some (v.startOf index) := if_pos hlength
  simp only [scrollToItem, hstart, ScrollState.itemHeight?, h.heights_getElem? hindex]
  rfl

theorem renders_scrollToItem (h : v.IsInStep) (hindex : index < v.cells.length) (t : Transcript)
    (align : ScrollAlign) :
    Renders t (v.moveBy fun s => { s with mode := .anchored (v.scrollTarget index align) })
      (v.scrollToItem t index align) := by
  rw [h.scrollToItem_eq hindex]
  exact renders_measure _ t

theorem offset_scrollToItem (h : v.IsInStep) (hindex : index < v.cells.length) (t : Transcript)
    (align : ScrollAlign) :
    (v.scrollToItem t index align).scroll.offset v.height =
      min (v.scrollTarget index align)
        ((v.scrollToItem t index align).scroll.totalLines - v.height) := by
  have hmode :
      (v.scrollToItem t index align).scroll.mode = .anchored (v.scrollTarget index align) :=
    (h.renders_scrollToItem hindex t align).mode_eq
  rw [ScrollState.offset, hmode]
  rfl

end IsInStep

theorem Renders.startOf_eq_of_heightOf_eq (h : Renders t v after) (hstep : v.IsInStep)
    (habove : ∀ i < index, after.heightOf i = v.heightOf i) :
    after.startOf index = v.startOf index := by
  have hlength := h.length_eq
  have hheights : after.scroll.heights.take index = v.scroll.heights.take index := by
    apply List.ext_getElem?
    intro i
    by_cases hi : i < index
    · rw [List.getElem?_take_of_lt hi, List.getElem?_take_of_lt hi]
      rcases Nat.lt_or_ge i v.cells.length with hcell | hcell
      · rw [(h.inStep hstep).heights_getElem? (hlength ▸ hcell), hstep.heights_getElem? hcell,
          habove i hi]
      · rw [List.getElem?_eq_none (by rw [(h.inStep hstep).length_heights]; omega),
          List.getElem?_eq_none (by rw [hstep.length_heights]; omega)]
    · rw [List.getElem?_take_eq_none (by omega), List.getElem?_take_eq_none (by omega)]
  rw [startOf, startOf, hheights]

theorem Renders.startOf_eq (h : Renders t v after) (hstep : v.IsInStep)
    (habove : ∀ i < index, v.isMeasured i = true ∨
      ∃ item, t.item? i = some item ∧ (item.render v.width v.options).height = estimatedHeight) :
    after.startOf index = v.startOf index := by
  refine h.startOf_eq_of_heightOf_eq hstep fun i hi => ?_
  rcases h.cell i with hsame | ⟨hnone, item, hitem, hcell⟩
  · rw [heightOf, heightOf, hsame]
  · rcases habove i hi with hmeasured | ⟨other, hother, hestimated⟩
    · simp [isMeasured, hnone] at hmeasured
    · obtain rfl : item = other := Option.some.inj (hitem.symm.trans hother)
      rw [heightOf, heightOf, hcell, hnone]
      exact hestimated

theorem Renders.heightOf_eq (h : Renders t v after) (index : Nat) :
    after.heightOf index = v.heightOf index ∨ v.heightOf index = estimatedHeight ∧
      1 ≤ after.heightOf index := by
  rcases h.cell index with hsame | ⟨hnone, item, -, hcell⟩
  · exact .inl (by rw [heightOf, heightOf, hsame])
  · refine .inr ⟨by rw [heightOf, hnone]; rfl, ?_⟩
    rw [heightOf, hcell]
    exact item.one_le_height_render v.width v.options

theorem IsFaithful.one_le_heightOf (h : v.IsFaithful t) (hsync : v.InSync t) (index : Nat) :
    1 ≤ v.heightOf index := by
  rw [heightOf]
  cases hcell : v.cells[index]?.join with
  | none => exact Nat.le_succ 1
  | some rendered =>
      obtain ⟨item, -, rfl⟩ := h.cell_eq hsync.1 index rendered (Option.join_eq_some_iff.mp hcell)
      exact item.one_le_height_render v.width v.options

theorem scrollToItem_contains_iff (hstep : v.IsInStep) (hheight : 1 ≤ v.height)
    (hindex : index < v.cells.length) {align : ScrollAlign}
    (hafter : v.scrollToItem t index align = after) :
    after.window.contains index = true ↔
      after.startOf index < v.scrollTarget index align + v.height ∧
        (v.scrollTarget index align ≤ after.startOf index + after.heightOf index ∨
          after.scroll.totalLines ≤ after.startOf index + after.heightOf index + v.height) := by
  have hrenders := hstep.renders_scrollToItem hindex t align
  have hoffset := hstep.offset_scrollToItem hindex t align
  rw [hafter] at hrenders hoffset
  have hafterheight : after.height = v.height := hrenders.height_eq
  have hafterindex : index < after.cells.length := by
    rw [hrenders.length_eq]
    exact hindex
  have hafterstep : after.IsInStep := hrenders.inStep hstep
  have hlines := hafterstep.startOf_add_heightOf_lt_totalLines hafterindex
  have hcontains := hafterstep.window_contains_iff (hafterheight ▸ hheight) hafterindex
  rw [hafterheight, hoffset] at hcontains
  rw [hcontains]
  omega

theorem scrollToItem_contains_of_startOf_eq (hfaithful : v.IsFaithful t) (hsync : v.InSync t)
    (hheight : 1 ≤ v.height) (hindex : index < v.cells.length) {align : ScrollAlign}
    (hafter : v.scrollToItem t index align = after)
    (hstart : after.startOf index = v.startOf index) : after.window.contains index = true := by
  have hrenders := hfaithful.inStep.renders_scrollToItem hindex t align
  rw [hafter] at hrenders
  have hrows := hfaithful.one_le_heightOf hsync index
  have hkept : after.heightOf index = v.heightOf index ∨
      v.heightOf index = 2 ∧ 1 ≤ after.heightOf index := hrenders.heightOf_eq index
  have hlines := hfaithful.inStep.startOf_add_heightOf_lt_totalLines hindex
  rw [scrollToItem_contains_iff hfaithful.inStep hheight hindex hafter, hstart, scrollTarget,
    ScrollState.maxOffset]
  cases align with
  | start =>
      rw [alignedOffset]
      omega
  | center =>
      rw [alignedOffset]
      omega
  | stop =>
      rw [alignedOffset]
      omega

/-- When a view scrolls to an item, the item is on the screen afterwards if all items above it are
rendered already or have the two rows that they are taken to have.  In general it is on the screen
just if rendering has not moved it off: its first line must still be above the bottom of the
viewport, and the line below its rows not above the top, unless the document ends before that. -/
theorem window_scrollToItem_contains (hreachable : Reachable t v) (hsync : v.InSync t)
    (hheight : 1 ≤ v.height) (hindex : index < t.size) (align : ScrollAlign)
    (hafter : v.scrollToItem t index align = after) :
    (after.window.contains index = true ↔
      after.startOf index < v.scrollTarget index align + v.height ∧
        (v.scrollTarget index align ≤ after.startOf index + after.heightOf index ∨
          after.scroll.totalLines ≤ after.startOf index + after.heightOf index + v.height)) ∧
      ((∀ i < index, v.isMeasured i = true ∨ ∃ item, t.item? i = some item ∧
          (item.render v.width v.options).height = estimatedHeight) →
        after.window.contains index = true) := by
  rw [← hsync.2] at hindex
  have hstep := hreachable.isInStep
  constructor
  · exact scrollToItem_contains_iff hstep hheight hindex hafter
  · intro habove
    have hrenders := hstep.renders_scrollToItem hindex t align
    rw [hafter] at hrenders
    have hstart := hrenders.startOf_eq hstep habove
    exact scrollToItem_contains_of_startOf_eq hreachable.isFaithful hsync hheight hindex hafter
      hstart

/-- Six items of five rows each. -/
def longInputs : Transcript :=
  .ofEvents (List.replicate 6 ⟨none, none, .input "a\nb\nc\nd"⟩)

/-- A view of four lines at the top of the items.  It has rendered the first item and those at the
end. -/
def longInputsTop : TranscriptView :=
  (((new longInputs ⟨5, false⟩).resize longInputs 40 4).2).toTop longInputs

theorem reachable_longInputsTop : Reachable longInputs longInputsTop :=
  .step .toTop (.step (.resize 40 4) (.new longInputs ⟨5, false⟩))

theorem inSync_longInputsTop : longInputsTop.InSync longInputs :=
  ⟨by decide +kernel, by decide +kernel⟩

theorem window_scrollToItem_contains_second :
    (longInputsTop.scrollToItem longInputs 1 .start).window.contains 1 = true := by
  have habove : ∀ i < 1, longInputsTop.isMeasured i = true ∨
      ∃ item, longInputs.item? i = some item ∧
        (item.render longInputsTop.width longInputsTop.options).height = estimatedHeight := by
    intro i hi
    obtain rfl : i = 0 := by omega
    exact .inl (by decide +kernel)
  exact (window_scrollToItem_contains reachable_longInputsTop inSync_longInputsTop
    (by decide +kernel) (by decide +kernel) .start rfl).2 habove

/-- Scrolled to from the top, the fourth item is not in the window: when the third one is
rendered, it takes up the lines that the fourth was thought to be on. -/
theorem window_scrollToItem_misses_fourth :
    Reachable longInputs longInputsTop ∧ longInputsTop.InSync longInputs ∧
      1 ≤ longInputsTop.height ∧ 3 < longInputs.size ∧
      (longInputsTop.scrollToItem longInputs 3 .center).window.contains 3 = false :=
  ⟨reachable_longInputsTop, inSync_longInputsTop, by decide +kernel, by decide +kernel,
    by decide +kernel⟩

end TranscriptSearch.TranscriptView
