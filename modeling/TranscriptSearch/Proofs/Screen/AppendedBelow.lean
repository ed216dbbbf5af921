import Mathlib.Data.List.Infix
import TranscriptSearch.Proofs.Screen.Document
import TranscriptSearch.Proofs.Screen.LaidOut

/-!
What a view makes of events that have been appended.  The items it had stay as they are, rendered
or not, since those in the window are rendered before others come below them.  So the viewport
moves only if its line is below the lowest one that it can have its top at: such a line comes into
force as the document grows.
-/

namespace TranscriptSearch

namespace ScrollState

theorem linesOf_le_of_isPrefix {heights longer : List Nat} (h : heights <+: longer) :
    linesOf heights ≤ linesOf longer := by
  obtain ⟨more, rfl⟩ := h
  rw [linesOf_append]
  exact Nat.le_add_right _ _

theorem document_isPrefix {s s' : ScrollState} (h : s.heights <+: s'.heights) :
    s.document <+: s'.document := by
  obtain ⟨more, hmore⟩ := h
  rw [document, document, ← hmore, documentFrom_append]
  exact List.prefix_append _ _

end ScrollState

theorem ScreenRow.eq_of_place_eq {row row' : ScreenRow} (hplace : row.place = row'.place)
    (hitem : row.item = row'.item) : row = row' := by
  obtain ⟨item, index, line⟩ := row
  obtain ⟨item', index', line'⟩ := row'
  obtain ⟨rfl, rfl⟩ := DocumentLine.mk.inj hplace
  obtain rfl : item = item' := hitem
  rfl

namespace TranscriptView

variable {t later : Transcript} {v after : TranscriptView} {index line : Nat}

theorem WindowIsMeasured.cells_of_mem (h : v.WindowIsMeasured) (hstep : v.IsInStep)
    {row : ScreenRow}
    (hrow : row ∈ (v.screenRows t).1) : v.cells[row.itemIndex]? = some (some row.item) := by
  have hheight : 0 < v.height := by
    have hlength := List.length_pos_of_mem hrow
    rw [h.length_screenRows hstep t] at hlength
    omega
  obtain ⟨index, item, line, hcell, -, -, -, rfl⟩ := (h.mem_screenRows_iff hstep hheight).mp hrow
  exact hcell

theorem offset_of_anchored (h : v.mode = .anchored line) (viewport : Nat) :
    v.scroll.offset viewport = min line (v.scroll.maxOffset viewport) := by
  rw [mode] at h
  rw [ScrollState.offset, h]

/-- Whether a view has come from another one by nothing but items that are added below. -/
structure GrowsBelow (v after : TranscriptView) : Prop where
  height_eq : after.height = v.height
  mode_eq : after.mode = v.mode
  prefix_cells : v.cells <+: after.cells
  inStep_before : v.IsInStep
  inStep_after : after.IsInStep

namespace GrowsBelow

theorem refl (h : v.IsInStep) : v.GrowsBelow v :=
  ⟨rfl, rfl, List.prefix_refl _, h, h⟩

theorem prefix_heights (h : v.GrowsBelow after) : v.scroll.heights <+: after.scroll.heights := by
  rw [h.inStep_before, h.inStep_after]
  exact h.prefix_cells.map cellHeight

theorem maxOffset_le (h : v.GrowsBelow after) :
    v.scroll.maxOffset v.height ≤ after.scroll.maxOffset v.height :=
  Nat.sub_le_sub_right (ScrollState.linesOf_le_of_isPrefix h.prefix_heights) v.height

theorem offset_eq (h : v.GrowsBelow after) (hmode : v.mode = .anchored line) :
    after.scroll.offset after.height = min line (after.scroll.maxOffset v.height) := by
  rw [h.height_eq]
  exact offset_of_anchored (h.mode_eq.trans hmode) v.height

theorem cells_getElem? (h : v.GrowsBelow after) (hindex : index < v.cells.length) :
    after.cells[index]? = v.cells[index]? := by
  obtain ⟨more, hmore⟩ := h.prefix_cells
  rw [← hmore, List.getElem?_append_left hindex]

theorem startOf_eq (h : v.GrowsBelow after) (hindex : index < v.cells.length) :
    after.startOf index = v.startOf index := by
  obtain ⟨more, hmore⟩ := h.prefix_heights
  have hlength : index ≤ v.scroll.heights.length := by
    rw [h.inStep_before.length_heights]
    exact Nat.le_of_lt hindex
  rw [startOf, startOf, ← hmore, List.take_append_of_le_length hlength]

theorem window_contains (h : v.GrowsBelow after) (hmode : v.mode = .anchored line)
    (hindex : index < v.cells.length) (hcontains : after.window.contains index = true) :
    v.window.contains index = true := by
  have hheight := height_pos_of_contains hcontains
  have hindex' : index < after.cells.length :=
    Nat.lt_of_lt_of_le hindex h.prefix_cells.length_le
  have hrows : after.heightOf index = v.heightOf index := by
    rw [heightOf, heightOf, h.cells_getElem? hindex]
  have hlines := h.inStep_before.startOf_add_heightOf_lt_totalLines hindex
  have hmax := h.maxOffset_le
  rw [h.inStep_after.window_contains_iff hheight hindex', h.offset_eq hmode, h.startOf_eq hindex,
    hrows, h.height_eq] at hcontains
  rw [h.inStep_before.window_contains_iff (h.height_eq ▸ hheight) hindex,
    offset_of_anchored hmode]
  simp only [ScrollState.maxOffset] at hmax hcontains ⊢
  omega

theorem rendered (h : v.GrowsBelow after)
    (hindex : index < v.cells.length → v.isMeasured index = true) (t : Transcript) :
    v.GrowsBelow (after.rendered t index).2 := by
  have hrenders := after.renders_rendered t index
  refine ⟨hrenders.height_eq.trans h.height_eq, hrenders.mode_eq.trans h.mode_eq, ?_,
    h.inStep_before, hrenders.inStep h.inStep_after⟩
  rw [TranscriptView.rendered]
  split
  · exact h.prefix_cells
  · exact h.prefix_cells
  · exact h.prefix_cells
  · next item hnone hitem =>
      obtain ⟨more, hmore⟩ := h.prefix_cells
      have hbelow : v.cells.length ≤ index := by
        refine Nat.le_of_not_lt fun hlt => ?_
        obtain ⟨rendered, hrendered⟩ := isMeasured_iff.mp (hindex hlt)
        rw [h.cells_getElem? hlt, hrendered] at hnone
        simp at hnone
      simp only [← hmore, List.set_append_right _ _ hbelow]
      exact List.prefix_append _ _

theorem renderAll (h : v.GrowsBelow after) {indices : List Nat}
    (hindices : ∀ index ∈ indices, index < v.cells.length → v.isMeasured index = true)
    (t : Transcript) : v.GrowsBelow (after.renderAll t indices) := by
  induction indices generalizing after with
  | nil => exact h
  | cons first rest ih =>
      exact ih (h.rendered (hindices first List.mem_cons_self) t) fun index hindex =>
        hindices index (List.mem_cons_of_mem first hindex)

theorem measure (h : v.GrowsBelow after) (hmeasured : v.WindowIsMeasured)
    (hmode : v.mode = .anchored line) (t : Transcript) : v.GrowsBelow (after.measure t) := by
  fun_induction TranscriptView.measure after t with
  | case1 after hrange => exact h
  | case2 after range hrange next hsame =>
      refine h.renderAll (fun index hmem hindex => hmeasured index ?_) t
      exact h.window_contains hmode hindex
        ((window_contains_iff_of_visibleRange? hrange).mpr hmem)
  | case3 after range hrange next hchanged ih =>
      refine ih (h.renderAll (fun index hmem hindex => hmeasured index ?_) t)
      exact h.window_contains hmode hindex
        ((window_contains_iff_of_visibleRange? hrange).mpr hmem)

/-- The top of the viewport stays where it is just if its line is one that it could have before,
or none has been added to those that it can have. -/
theorem offset_eq_iff (h : v.GrowsBelow after) (hmode : v.mode = .anchored line) :
    after.scroll.offset after.height = v.scroll.offset v.height ↔
      line ≤ v.scroll.maxOffset v.height ∨
        after.scroll.maxOffset v.height = v.scroll.maxOffset v.height := by
  have hmax := h.maxOffset_le
  rw [h.offset_eq hmode, offset_of_anchored hmode]
  omega

theorem screenRows_isPrefix (h : v.GrowsBelow after) (hmeasured : v.WindowIsMeasured)
    (hmeasured' : after.WindowIsMeasured)
    (hoffset : after.scroll.offset after.height = v.scroll.offset v.height)
    (t later : Transcript) :
    (v.screenRows t).1 <+: (after.screenRows later).1 := by
  have hlines : v.scroll.totalLines ≤ after.scroll.totalLines :=
    ScrollState.linesOf_le_of_isPrefix h.prefix_heights
  have hlength := hmeasured.length_screenRows h.inStep_before t
  have hlength' := hmeasured'.length_screenRows h.inStep_after later
  rw [h.height_eq] at hlength'
  have hplaces : (v.screenRows t).1.map ScreenRow.place <+:
      (after.screenRows later).1.map ScreenRow.place := by
    rw [hmeasured.map_place_screenRows h.inStep_before,
      hmeasured'.map_place_screenRows h.inStep_after, hoffset, h.height_eq]
    exact ((ScrollState.document_isPrefix h.prefix_heights).drop _).take _
  rw [List.prefix_iff_getElem?]
  intro n hn
  have hn' : n < (after.screenRows later).1.length := by omega
  have hplace := (List.prefix_iff_getElem?.mp hplaces) n (by simpa using hn)
  rw [List.getElem_map, List.getElem?_map, List.getElem?_eq_getElem hn', Option.map_some,
    Option.some.injEq] at hplace
  rw [List.getElem?_eq_getElem hn', Option.some.injEq]
  refine ScreenRow.eq_of_place_eq hplace ?_
  have hcell := hmeasured.cells_of_mem h.inStep_before (List.getElem_mem hn)
  have hcell' := hmeasured'.cells_of_mem h.inStep_after (List.getElem_mem hn')
  have hindex := congrArg DocumentLine.itemIndex hplace
  change (after.screenRows later).1[n].itemIndex = (v.screenRows t).1[n].itemIndex at hindex
  rw [hindex, h.cells_getElem? (List.getElem?_eq_some_iff.mp hcell).1, hcell] at hcell'
  exact (Option.some.inj (Option.some.inj hcell')).symm

end GrowsBelow

theorem mode_grown (v : TranscriptView) (t : Transcript) :
    (v.grown t).mode = if v.isAtBottom && !v.programmatic then .follow else v.mode :=
  apply_ite ScrollState.mode _ _ _

theorem sync_eq_of_lt (hepoch : v.epoch = later.epoch) (hsize : v.cells.length < later.size) :
    (v.sync later).2 = (v.grown later).measure later := by
  rw [sync, if_neg (not_not.mpr hepoch.symm), if_neg (Nat.not_le.mpr hsize)]
  rfl

theorem growsBelow_sync (hfaithful : v.IsFaithful later) (hmeasured : v.WindowIsMeasured)
    (hmode : v.mode = .anchored line) (hepoch : v.epoch = later.epoch)
    (hanchored : ¬ (v.cells.length < later.size ∧ v.isAtBottom = true ∧ v.programmatic = false)) :
    v.GrowsBelow (v.sync later).2 := by
  by_cases hsize : v.cells.length < later.size
  · have hresumes : (v.isAtBottom && !v.programmatic) = false := by
      rw [Bool.eq_false_iff, ne_eq, Bool.and_eq_true, Bool.not_eq_true']
      exact fun hresumes => hanchored ⟨hsize, hresumes⟩
    have hgrown : v.GrowsBelow (v.grown later) := by
      refine ⟨rfl, ?_, List.prefix_append _ _, hfaithful.inStep, (hfaithful.grown hepoch).inStep⟩
      rw [mode_grown, hresumes]
      rfl
    rw [sync_eq_of_lt hepoch hsize]
    exact hgrown.measure hmeasured hmode later
  · rw [sync, if_neg (not_not.mpr hepoch.symm), if_pos (Nat.le_of_not_lt hsize)]
    exact .refl hfaithful.inStep

/-- What a view that does not follow makes of events that have been appended.  If it shows the end
and no search is scrolling, it begins to follow.  Otherwise its mode stays the same, and the top
line stays where it is just if the line that the viewport is anchored at was not below the lowest
possible one, or that one is still the same; this is so wherever the viewport does not show the
end.  Then every row on the screen stays in its place. -/
theorem sync_append_anchored (hreachable : Reachable t v) (hepoch : v.epoch = t.epoch)
    (hmode : v.mode = .anchored line) (sources : List SourceEvent) :
    let later := t.append sources
    let synced := (v.sync later).2
    let resumes := v.cells.length < later.size ∧ v.isAtBottom = true ∧ v.programmatic = false
    let stays := synced.scroll.offset synced.height = v.scroll.offset v.height
    (resumes → synced.isFollowing = true) ∧
      (¬ resumes → synced.mode = .anchored line ∧
        (stays ↔ line ≤ v.scroll.maxOffset v.height ∨
          synced.scroll.maxOffset v.height = v.scroll.maxOffset v.height) ∧
        (v.isAtBottom = false → stays) ∧
        (stays → (v.screenRows t).1 <+: (synced.screenRows later).1)) := by
  intro later synced resumes stays
  have hmeasured := hreachable.isMeasuredFor hepoch
  have hepoch' : v.epoch = later.epoch := hepoch.trans (t.epoch_append sources).symm
  constructor
  · rintro ⟨hgrows, hbottom, hidle⟩
    change ((v.sync later).2.mode == .follow) = true
    rw [sync_eq_of_lt hepoch' hgrows, (renders_measure _ later).mode_eq, mode_grown,
      hbottom, hidle]
    rfl
  · intro hanchored
    have hfaithful := hreachable.isFaithful.later (t.extends_append sources)
    have hgrows : v.GrowsBelow synced :=
      growsBelow_sync hfaithful hmeasured hmode hepoch' hanchored
    have hmeasured' : synced.WindowIsMeasured := by
      have hreachable' : Reachable later synced :=
        .step .sync (.step (.append sources) hreachable)
      exact hreachable'.isMeasuredFor hfaithful.inSync_sync.1
    refine ⟨hgrows.mode_eq.trans hmode, hgrows.offset_eq_iff hmode, fun hbottom => ?_,
      fun hstays => hgrows.screenRows_isPrefix hmeasured hmeasured' hstays t later⟩
    have habove : ¬ v.scroll.maxOffset v.height ≤ v.scroll.offset v.height :=
      of_decide_eq_false hbottom
    rw [offset_of_anchored hmode] at habove
    refine (hgrows.offset_eq_iff hmode).mpr (.inl ?_)
    omega

theorem sync_append_anchored_top :
    let sources := [(⟨none, none, .input "e"⟩ : SourceEvent)]
    let synced := (longInputsTop.sync (longInputs.append sources)).2
    longInputsTop.epoch = longInputs.epoch ∧ longInputsTop.mode = .anchored 0 ∧
      synced.mode = .anchored 0 ∧ longInputsTop.cells.length < synced.cells.length ∧
      synced.scroll.offset synced.height = longInputsTop.scroll.offset longInputsTop.height ∧
      (longInputsTop.screenRows longInputs).1 <+:
        (synced.screenRows (longInputs.append sources)).1 := by
  intro sources synced
  have hepoch : longInputsTop.epoch = longInputs.epoch := by decide +kernel
  have hmode : longInputsTop.mode = .anchored 0 := by decide +kernel
  have hbottom : longInputsTop.isAtBottom = false := by decide +kernel
  obtain ⟨-, hanchored⟩ := sync_append_anchored reachable_longInputsTop hepoch hmode sources
  obtain ⟨hmode', -, hstays, hrows⟩ := hanchored fun hresumes => by
    rw [hbottom] at hresumes
    exact Bool.false_ne_true hresumes.2.1
  exact ⟨hepoch, hmode, hmode', by decide +kernel, hstays hbottom, hrows (hstays hbottom)⟩

/-- Three items of three lines each. -/
def shortInputs : Transcript :=
  .ofEvents (List.replicate 3 ⟨none, none, .input "a"⟩)

/-- A view of six lines, which had four when it was anchored at the end.  A search is
scrolling. -/
def heightenedView : TranscriptView :=
  let small := ((new shortInputs ⟨5, false⟩).resize shortInputs 40 4).2
  (((small.setFollowing shortInputs false).setProgrammatic true).resize shortInputs 40 6).2

theorem reachable_heightenedView : Reachable shortInputs heightenedView :=
  .step (.resize 40 6) (.step (.setProgrammatic true) (.step (.setFollowing false)
    (.step (.resize 40 4) (.new shortInputs ⟨5, false⟩))))

/-- The line that the viewport is anchored at is below its top, and becomes its top when an item
is added. -/
theorem sync_append_moves_top :
    let later := shortInputs.append [⟨none, none, .input "a"⟩]
    let synced := (heightenedView.sync later).2
    Reachable shortInputs heightenedView ∧ heightenedView.InSync shortInputs ∧
      heightenedView.isFollowing = false ∧ heightenedView.programmatic = true ∧
      synced.isFollowing = false ∧
      heightenedView.scroll.offset heightenedView.height = 3 ∧
      synced.scroll.offset synced.height = 5 ∧
      (heightenedView.screenRows shortInputs).1.map ScreenRow.place =
        [⟨1, some 0⟩, ⟨1, some 1⟩, ⟨1, none⟩, ⟨2, some 0⟩, ⟨2, some 1⟩, ⟨2, none⟩] ∧
      (synced.screenRows later).1.map ScreenRow.place =
        [⟨1, none⟩, ⟨2, some 0⟩, ⟨2, some 1⟩, ⟨2, none⟩, ⟨3, some 0⟩, ⟨3, some 1⟩] :=
  ⟨reachable_heightenedView, ⟨by decide +kernel, by decide +kernel⟩, by decide +kernel,
    by decide +kernel, by decide +kernel, by decide +kernel, by decide +kernel, by decide +kernel,
    by decide +kernel⟩

end TranscriptView

end TranscriptSearch
