import TranscriptSearch.Proofs.Screen.DrawnRows

namespace TranscriptSearch

/-- A line of the document: a row of an item, or the blank line below its rows. -/
structure DocumentLine where
  itemIndex : Nat
  row : Option Nat
deriving DecidableEq

namespace ScrollState

/-- The lines of an item: its rows, and the blank line below them. -/
def itemLines (index height : Nat) : List DocumentLine :=
  (List.range height).map (fun row => ⟨index, some row⟩) ++ [⟨index, none⟩]

/-- The lines of items, if those have numbers from `first` on. -/
def documentFrom (first : Nat) (heights : List Nat) : List DocumentLine :=
  (heights.zipIdx first).flatMap fun (height, index) => itemLines index height

/-- The lines of all items, from top to bottom. -/
def document (s : ScrollState) : List DocumentLine :=
  documentFrom 0 s.heights

example : document ⟨.follow, [2, 1]⟩ =
    [⟨0, some 0⟩, ⟨0, some 1⟩, ⟨0, none⟩, ⟨1, some 0⟩, ⟨1, none⟩] :=
  rfl

theorem length_itemLines (index height : Nat) : (itemLines index height).length = height + 1 := by
  simp [itemLines]

theorem documentFrom_cons (first height : Nat) (heights : List Nat) :
    documentFrom first (height :: heights) =
      itemLines first height ++ documentFrom (first + 1) heights := by
  rw [documentFrom, List.zipIdx_cons, List.flatMap_cons]
  rfl

theorem documentFrom_append (first : Nat) (above below : List Nat) :
    documentFrom first (above ++ below) =
      documentFrom first above ++ documentFrom (first + above.length) below := by
  rw [documentFrom, List.zipIdx_append, List.flatMap_append]
  rfl

theorem length_documentFrom (first : Nat) (heights : List Nat) :
    (documentFrom first heights).length = linesOf heights := by
  induction heights generalizing first with
  | nil => rfl
  | cons height heights ih =>
      rw [documentFrom_cons, List.length_append, length_itemLines, ih, linesOf_cons]

theorem length_document (s : ScrollState) : s.document.length = s.totalLines :=
  length_documentFrom 0 s.heights

theorem drop_documentFrom {heights : List Nat} {index : Nat} (hindex : index ≤ heights.length)
    (first skip : Nat) :
    (documentFrom first heights).drop (linesOf (heights.take index) + skip) =
      (documentFrom (first + index) (heights.drop index)).drop skip := by
  have hsplit := documentFrom_append first (heights.take index) (heights.drop index)
  rw [List.take_append_drop, List.length_take_of_le hindex] at hsplit
  rw [hsplit, ← length_documentFrom first, List.drop_length_add_append]

theorem take_documentFrom {heights : List Nat} {index lines : Nat}
    (h : index < heights.length → lines ≤ linesOf (heights.take index)) (first : Nat) :
    (documentFrom first heights).take lines =
      (documentFrom first (heights.take index)).take lines := by
  rcases Nat.lt_or_ge index heights.length with hindex | hindex
  · have hsplit := documentFrom_append first (heights.take index) (heights.drop index)
    rw [List.take_append_drop] at hsplit
    have hlines := h hindex
    rw [← length_documentFrom first] at hlines
    rw [hsplit, List.take_append_of_le_length hlines]
  · rw [List.take_of_length_le hindex]

theorem take_drop_document_of_none {s : ScrollState} {viewport : Nat}
    (h : s.visibleRange? viewport = none) :
    (s.document.drop (s.offset viewport)).take viewport = [] := by
  rw [visibleRange?] at h
  split at h
  · next hviewport => rw [hviewport, List.take_zero]
  · rw [Option.map_eq_none_iff] at h
    have hend : s.totalLines ≤ s.offset viewport := by
      refine Nat.le_of_not_lt fun hoffset => ?_
      obtain ⟨first, skip, hline⟩ := exists_itemAtLine? hoffset
      rw [h] at hline
      simp at hline
    rw [List.drop_eq_nil_of_le (s.length_document ▸ hend), List.take_nil]

theorem le_linesOf_take_itemsAbove (heights : List Nat) (line : Nat)
    (h : itemsAbove heights line < heights.length) :
    line ≤ linesOf (heights.take (itemsAbove heights line)) := by
  have hstart := lt_itemsAbove_iff (List.getElem?_eq_getElem h) line
  omega

theorem take_drop_document {s : ScrollState} {viewport : Nat} {range : VisibleRange}
    (h : s.visibleRange? viewport = some range) :
    (s.document.drop (s.offset viewport)).take viewport =
      ((documentFrom range.first
        ((s.heights.drop range.first).take (range.stop - range.first))).drop
        range.skip).take viewport := by
  rw [visibleRange?] at h
  split at h
  · simp at h
  · next hviewport =>
      obtain ⟨⟨first, skip⟩, hline, rfl⟩ := Option.map_eq_some_iff.mp h
      simp only
      obtain ⟨htop, height, hheight, -⟩ := linesOf_take_add_of_itemAtLine? hline
      have hfirst := (List.getElem?_eq_some_iff.mp hheight).1
      have hbelow : first < itemsAbove s.heights (s.offset viewport + viewport) := by
        rw [lt_itemsAbove_iff hheight]
        omega
      have hstart := le_linesOf_take_itemsAbove s.heights (s.offset viewport + viewport)
      generalize itemsAbove s.heights (s.offset viewport + viewport) = stop at hbelow hstart ⊢
      -- The items that are not overlapped begin below the viewport.
      have hlines : stop - first < (s.heights.drop first).length →
          skip + viewport ≤ linesOf ((s.heights.drop first).take (stop - first)) := by
        intro hlength
        rw [List.length_drop] at hlength
        have hbottom := hstart (by omega)
        have hsplit : s.heights.take (first + (stop - first)) = _ := List.take_add
        rw [Nat.add_sub_cancel' (Nat.le_of_lt hbelow)] at hsplit
        rw [hsplit, linesOf_append] at hbottom
        omega
      rw [document, ← htop, drop_documentFrom (Nat.le_of_lt hfirst), Nat.zero_add, List.take_drop,
        List.take_drop, take_documentFrom hlines]

end ScrollState

/-- What line of the document a line of the screen is. -/
def ScreenRow.place (row : ScreenRow) : DocumentLine :=
  ⟨row.itemIndex, row.line⟩

theorem RenderedItem.map_place_screenRows (item : RenderedItem) (index skip : Nat) :
    (item.screenRows index skip).map ScreenRow.place =
      (ScrollState.itemLines index item.height).drop skip := by
  have hrows : (List.range item.height).map (fun line =>
      (⟨index, if line < item.height then some line else none⟩ : DocumentLine)) =
        (List.range item.height).map fun row => ⟨index, some row⟩ :=
    List.map_congr_left fun line hline => by rw [if_pos (List.mem_range.mp hline)]
  have hblank : (⟨index, if item.height < item.height then some item.height else none⟩ :
      DocumentLine) = ⟨index, none⟩ := by
    rw [if_neg (Nat.lt_irrefl _)]
  rw [screenRows, List.map_map, List.map_drop, List.range_succ, List.map_append,
    ScrollState.itemLines, ← hrows, ← hblank]
  rfl

namespace TranscriptView

variable {t : Transcript} {v : TranscriptView}

theorem IsInStep.drop_heights (h : v.IsInStep) {index : Nat} (hindex : index < v.cells.length) :
    v.scroll.heights.drop index = v.heightOf index :: v.scroll.heights.drop (index + 1) := by
  rw [List.drop_eq_getElem?_toList_append, h.heights_getElem? hindex]
  rfl

theorem IsInStep.map_place_rowsOf (h : v.IsInStep) {first count skip room : Nat}
    (hmeasured : ∀ index, first ≤ index → index < first + count → v.isMeasured index = true)
    (hskip : 0 < count → skip ≤ v.heightOf first) :
    (v.rowsOf t room skip (List.range' first count)).1.map ScreenRow.place =
      ((ScrollState.documentFrom first ((v.scroll.heights.drop first).take count)).drop skip).take
        room := by
  induction count generalizing first skip room with
  | zero => simp [rowsOf, ScrollState.documentFrom]
  | succ count ih =>
      obtain ⟨item, hcell, hrendered⟩ :=
        rendered_of_isMeasured t (hmeasured first (Nat.le_refl _) (by omega))
      have hindex := (List.getElem?_eq_some_iff.mp hcell).1
      have hheight := heightOf_eq hcell
      have hskip' := hskip (Nat.succ_pos count)
      have hlines := ScrollState.length_itemLines first (v.heightOf first)
      have hrest : (v.rowsOf t (room - (item.screenRows first skip).length) 0
          (List.range' (first + 1) count)).1.map ScreenRow.place = _ :=
        ih (fun index hlower hupper => hmeasured index (by omega) (by omega))
          (fun _ => Nat.zero_le _)
      rw [h.drop_heights hindex, List.take_succ_cons, ScrollState.documentFrom_cons,
        List.drop_append_of_le_length (by omega), hheight, ← item.map_place_screenRows,
        List.range'_succ, rowsOf, hrendered]
      simp only
      split
      · next hroom =>
          rw [List.map_take, List.take_append_of_le_length]
          rw [List.length_map]
          exact Nat.le_of_lt hroom
      · next hroom =>
          rw [List.map_append, List.take_append, List.length_map, List.take_of_length_le, hrest,
            List.drop_zero]
          rw [List.length_map]
          exact Nat.le_of_not_lt hroom

theorem IsInStep.skip_le_heightOf (hstep : v.IsInStep) {range : VisibleRange}
    (h : v.visibleRange? = some range) : range.skip ≤ v.heightOf range.first := by
  rw [visibleRange?, ScrollState.visibleRange?] at h
  split at h
  · simp at h
  · obtain ⟨⟨first, skip⟩, hline, rfl⟩ := Option.map_eq_some_iff.mp h
    obtain ⟨-, height, hheight, hskip⟩ := ScrollState.linesOf_take_add_of_itemAtLine? hline
    have hfirst := (List.getElem?_eq_some_iff.mp hheight).1
    rw [hstep.length_heights] at hfirst
    rw [hstep.heights_getElem? hfirst, Option.some.injEq] at hheight
    exact hheight ▸ hskip

/-- The rows on the screen are the lines of the document from the top of the viewport on, as far
as there is room. -/
theorem WindowIsMeasured.map_place_screenRows (h : v.WindowIsMeasured) (hstep : v.IsInStep)
    (t : Transcript) :
    (v.screenRows t).1.map ScreenRow.place =
      (v.scroll.document.drop (v.scroll.offset v.height)).take v.height := by
  rw [screenRows]
  cases hrange : v.visibleRange? with
  | none =>
      rw [ScrollState.take_drop_document_of_none hrange]
      rfl
  | some range =>
      rw [ScrollState.take_drop_document hrange]
      refine hstep.map_place_rowsOf ?_ fun _ => hstep.skip_le_heightOf hrange
      intro index hlower hupper
      refine h index ((window_contains_iff_of_visibleRange? hrange).mpr
        (VisibleRange.mem_indices.mpr ⟨hlower, ?_⟩))
      omega

theorem WindowIsMeasured.length_screenRows (h : v.WindowIsMeasured) (hstep : v.IsInStep)
    (t : Transcript) :
    (v.screenRows t).1.length = min v.height v.scroll.totalLines := by
  have hoffset : v.scroll.offset v.height ≤ v.scroll.totalLines - v.height :=
    v.scroll.offset_le_maxOffset v.height
  have hlength := congrArg List.length (h.map_place_screenRows hstep t)
  rw [List.length_map, List.length_take, List.length_drop, ScrollState.length_document] at hlength
  omega

/-- Whether the screen shows the document from the top of the viewport on, each row with its item.
The document does not change when it is drawn. -/
structure ShowsDocument (v : TranscriptView) (t : Transcript) : Prop where
  view_eq : (v.screenRows t).2 = v
  length_eq : (v.screenRows t).1.length = min v.height v.scroll.totalLines
  place_eq : ∀ n row, (v.screenRows t).1[n]? = some row →
    v.scroll.document[v.scroll.offset v.height + n]? = some row.place
  item_eq : ∀ row ∈ (v.screenRows t).1, ∃ item, t.item? row.itemIndex = some item ∧
    row.item = item.render v.width v.options ∧
    v.scroll.itemHeight? row.itemIndex = some row.item.height

/-- A view in sync with its transcript shows the document from the top of the viewport on. -/
theorem showsDocument_of_inSync (hreachable : Reachable t v) (hsync : v.InSync t) :
    v.ShowsDocument t := by
  have hmeasured := hreachable.isMeasuredFor hsync.1
  have hstep := hreachable.isInStep
  refine ⟨hmeasured.screenRows_eq t, hmeasured.length_screenRows hstep t, ?_, ?_⟩
  · intro n row hrow
    have hlength := (List.getElem?_eq_some_iff.mp hrow).1
    have hplace := congrArg (·[n]?) (hmeasured.map_place_screenRows hstep t)
    rw [List.getElem?_map, hrow, List.getElem?_take_of_lt, List.getElem?_drop] at hplace
    · exact hplace.symm
    · rw [hmeasured.length_screenRows hstep t] at hlength
      omega
  · intro row hrow
    have hheight : 0 < v.height := by
      have hlength := List.length_pos_of_mem hrow
      rw [hmeasured.length_screenRows hstep t] at hlength
      omega
    obtain ⟨index, rendered, line, hcell, -, -, -, rfl⟩ :=
      (hmeasured.mem_screenRows_iff hstep hheight).mp hrow
    obtain ⟨item, hitem, hrender⟩ := hreachable.isFaithful.cell_eq hsync.1 index rendered hcell
    refine ⟨item, hitem, hrender, ?_⟩
    change v.scroll.heights[index]? = some rendered.height
    rw [hstep.heights_getElem? (List.getElem?_eq_some_iff.mp hcell).1, heightOf_eq hcell]

theorem showsDocument_longInputsTop_scrollDown :
    ∃ down, longInputsTop.scrollDown? longInputs 3 = some down ∧ down.ShowsDocument longInputs ∧
      (down.screenRows longInputs).1.map ScreenRow.place =
        [⟨0, some 3⟩, ⟨0, some 4⟩, ⟨0, none⟩, ⟨1, some 0⟩] := by
  have hmoves : (longInputsTop.scrollDown? longInputs 3).isSome = true := by decide +kernel
  refine ⟨(longInputsTop.scrollDown? longInputs 3).getD longInputsTop, ?_, ?_, by decide +kernel⟩
  · obtain ⟨down, hdown⟩ := Option.isSome_iff_exists.mp hmoves
    rw [hdown, Option.getD_some]
  · exact showsDocument_of_inSync (.step (.scrollDown 3) reachable_longInputsTop)
      ⟨by decide +kernel, by decide +kernel⟩

end TranscriptView

end TranscriptSearch
