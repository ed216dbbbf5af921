import TranscriptSearch.Proofs.Screen.ScrollToItem

/-!
The items on the screen are rendered.  Measuring goes on until no item that it brings onto the
screen is left out, and nothing else brings items onto the screen.  So a view that has taken up
the present epoch of its transcript shows only items that it has rendered, and looking at them
changes nothing.
-/

namespace TranscriptSearch

namespace ScrollState

theorem itemsAbove_le_length (heights : List Nat) (line : Nat) :
    itemsAbove heights line ≤ heights.length := by
  induction heights generalizing line with
  | nil => exact Nat.le_refl 0
  | cons height rest ih =>
      rw [itemsAbove, List.length_cons]
      split
      · exact Nat.zero_le _
      · exact Nat.succ_le_succ (ih _)

theorem stop_le_length {s : ScrollState} {viewport : Nat} {range : VisibleRange}
    (h : s.visibleRange? viewport = some range) : range.stop ≤ s.heights.length := by
  rw [visibleRange?] at h
  split at h
  · simp at h
  · obtain ⟨⟨first, skip⟩, -, rfl⟩ := Option.map_eq_some_iff.mp h
    exact itemsAbove_le_length _ _

theorem visibleRange?_eq_of_offset_eq {s s' : ScrollState} {viewport : Nat}
    (hheights : s'.heights = s.heights) (hoffset : s'.offset viewport = s.offset viewport) :
    s'.visibleRange? viewport = s.visibleRange? viewport := by
  simp only [visibleRange?, hheights, hoffset]

theorem offset_le_maxOffset (s : ScrollState) (viewport : Nat) :
    s.offset viewport ≤ s.maxOffset viewport := by
  rw [offset]
  split
  · exact Nat.le_refl _
  · exact Nat.min_le_right _ _

@[simp] theorem offset_stopFollowing (s : ScrollState) (viewport : Nat) :
    (s.stopFollowing viewport).offset viewport = s.offset viewport := by
  rw [stopFollowing]
  split
  · exact Nat.min_eq_left (s.offset_le_maxOffset viewport)
  · rfl

theorem offset_follow_of_isAtBottom {s : ScrollState} {viewport : Nat}
    (h : s.isAtBottom viewport = true) : s.follow.offset viewport = s.offset viewport := by
  have hbottom : s.maxOffset viewport ≤ s.offset viewport := of_decide_eq_true h
  exact Nat.le_antisymm hbottom (s.offset_le_maxOffset viewport)

end ScrollState

theorem VisibleRange.mem_indices {range : VisibleRange} {index : Nat} :
    index ∈ range.indices ↔ range.first ≤ index ∧ index < range.stop := by
  rw [indices, List.mem_range'_1]
  omega

namespace TranscriptView

variable {t : Transcript} {v after : TranscriptView} {index : Nat}

/-- Whether all items in the window are rendered. -/
def WindowIsMeasured (v : TranscriptView) : Prop :=
  ∀ index, v.window.contains index = true → v.isMeasured index = true

theorem isMeasured_iff : v.isMeasured index = true ↔
    ∃ item, v.cells[index]? = some (some item) := by
  rw [isMeasured, Option.isSome_iff_exists]
  simp only [Option.join_eq_some_iff]

theorem window_contains_iff_of_visibleRange? {range : VisibleRange}
    (h : v.visibleRange? = some range) :
    v.window.contains index = true ↔ index ∈ range.indices := by
  simp only [window, h, VisibleWindow.contains, Bool.and_eq_true, decide_eq_true_eq,
    VisibleRange.mem_indices]

theorem window_eq
    (hscroll : after.scroll.visibleRange? after.height = v.scroll.visibleRange? v.height) :
    after.window = v.window := by
  rw [window, window, visibleRange?, visibleRange?, hscroll]

theorem Renders.isMeasured (h : Renders t v after) (hmeasured : v.isMeasured index = true) :
    after.isMeasured index = true := by
  obtain ⟨item, hitem⟩ := isMeasured_iff.mp hmeasured
  rcases h.cell index with hsame | ⟨hnone, -⟩
  · exact isMeasured_iff.mpr ⟨item, hsame.trans hitem⟩
  · rw [hitem] at hnone
    simp at hnone

theorem rendered_of_isMeasured (t : Transcript) (h : v.isMeasured index = true) :
    ∃ item, v.cells[index]? = some (some item) ∧ v.rendered t index = (some item, v) := by
  obtain ⟨item, hitem⟩ := isMeasured_iff.mp h
  refine ⟨item, hitem, ?_⟩
  rw [rendered, hitem]

theorem isMeasured_rendered (hcell : index < v.cells.length) (hitem : index < t.size) :
    (v.rendered t index).2.isMeasured index = true := by
  obtain ⟨item, hget⟩ : ∃ item, t.item? index = some item := ⟨_, List.getElem?_eq_getElem hitem⟩
  by_cases hmeasured : v.isMeasured index = true
  · obtain ⟨_, -, heq⟩ := rendered_of_isMeasured t hmeasured
    rw [heq]
    exact hmeasured
  · have hnone : v.cells[index]? = some none := by
      rcases hvalue : v.cells[index]? with _ | _ | rows
      · exact absurd (List.getElem?_eq_none_iff.mp hvalue) (Nat.not_le.mpr hcell)
      · rfl
      · exact absurd (isMeasured_iff.mpr ⟨rows, hvalue⟩) hmeasured
    rw [rendered, hnone, hget]
    exact isMeasured_iff.mpr ⟨_, List.getElem?_set_self hcell⟩

theorem isMeasured_renderAll (hcells : v.cells.length ≤ t.size) {indices : List Nat}
    (hmem : index ∈ indices) (hindex : index < v.cells.length) :
    (v.renderAll t indices).isMeasured index = true := by
  induction indices generalizing v with
  | nil => exact absurd hmem List.not_mem_nil
  | cons first rest ih =>
      change ((v.rendered t first).2.renderAll t rest).isMeasured index = true
      have hlength := (v.renders_rendered t first).length_eq
      rcases List.mem_cons.mp hmem with rfl | hrest
      · have hfirst := isMeasured_rendered hindex (Nat.lt_of_lt_of_le hindex hcells)
        exact ((v.rendered t index).2.renders_renderAll t rest).isMeasured hfirst
      · exact ih (hlength ▸ hcells) hrest (hlength ▸ hindex)

theorem renderAll_of_isMeasured (t : Transcript) {indices : List Nat}
    (h : ∀ index ∈ indices, v.isMeasured index = true) : v.renderAll t indices = v := by
  induction indices with
  | nil => rfl
  | cons first rest ih =>
      obtain ⟨_, -, heq⟩ := rendered_of_isMeasured t (h first List.mem_cons_self)
      change (v.rendered t first).2.renderAll t rest = v
      rw [heq]
      exact ih fun index hindex => h index (List.mem_cons_of_mem first hindex)

theorem rendered_generation (v : TranscriptView) (t : Transcript) (index : Nat) :
    v.generation < (v.rendered t index).2.generation ∨
      (v.rendered t index).2.generation = v.generation ∧
        (v.rendered t index).2.scroll = v.scroll := by
  rw [rendered]
  split
  · exact .inr ⟨rfl, rfl⟩
  · exact .inr ⟨rfl, rfl⟩
  · exact .inr ⟨rfl, rfl⟩
  · simp only
    split
    · exact .inl (Nat.lt_succ_self _)
    · next hsame =>
        exact .inr ⟨rfl, ScrollState.snd_setHeight_of_fst_eq_false (Bool.not_eq_true _ ▸ hsame)⟩

theorem renderAll_generation (v : TranscriptView) (t : Transcript) (indices : List Nat) :
    v.generation < (v.renderAll t indices).generation ∨
      (v.renderAll t indices).generation = v.generation ∧
        (v.renderAll t indices).scroll = v.scroll := by
  induction indices generalizing v with
  | nil => exact .inr ⟨rfl, rfl⟩
  | cons first rest ih =>
      change v.generation < ((v.rendered t first).2.renderAll t rest).generation ∨
        ((v.rendered t first).2.renderAll t rest).generation = v.generation ∧
          ((v.rendered t first).2.renderAll t rest).scroll = v.scroll
      rcases v.rendered_generation t first with hmore | ⟨hsame, hscroll⟩
      · rcases ih (v.rendered t first).2 with hmore' | ⟨hsame', -⟩
        · exact .inl (Nat.lt_trans hmore hmore')
        · exact .inl (hsame'.symm ▸ hmore)
      · rcases ih (v.rendered t first).2 with hmore' | ⟨hsame', hscroll'⟩
        · exact .inl (hsame ▸ hmore')
        · exact .inr ⟨hsame'.trans hsame, hscroll'.trans hscroll⟩

theorem windowIsMeasured_of_visibleRange?_eq_none (h : v.visibleRange? = none) :
    v.WindowIsMeasured := by
  intro index hcontains
  simp [window, h, VisibleWindow.contains, VisibleWindow.empty] at hcontains

theorem windowIsMeasured_measure (hstep : v.IsInStep) (hcells : v.cells.length ≤ t.size) :
    (v.measure t).WindowIsMeasured := by
  fun_induction measure v t with
  | case1 v hrange => exact windowIsMeasured_of_visibleRange?_eq_none hrange
  | case2 v range hrange next hsame =>
      have hrenders : Renders t v next := v.renders_renderAll t range.indices
      have hscroll : next.scroll = v.scroll := by
        rcases v.renderAll_generation t range.indices with hmore | ⟨-, hscroll⟩
        · exact absurd hsame (Nat.ne_of_gt hmore)
        · exact hscroll
      have hrange' : next.visibleRange? = some range := by
        rw [visibleRange?, hscroll, hrenders.height_eq]
        exact hrange
      intro index hcontains
      have hmem := (window_contains_iff_of_visibleRange? hrange').mp hcontains
      have hstop := ScrollState.stop_le_length hrange
      have hindex := (VisibleRange.mem_indices.mp hmem).2
      rw [hstep.length_heights] at hstop
      exact isMeasured_renderAll hcells hmem (Nat.lt_of_lt_of_le hindex hstop)
  | case3 v range hrange next hchanged ih =>
      have hrenders : Renders t v next := v.renders_renderAll t range.indices
      exact ih (hrenders.inStep hstep) (hrenders.length_eq ▸ hcells)

theorem WindowIsMeasured.measure_eq (h : v.WindowIsMeasured) (t : Transcript) :
    v.measure t = v := by
  rw [measure]
  split
  · rfl
  · next range hrange =>
      have hsame : v.renderAll t range.indices = v :=
        renderAll_of_isMeasured t fun index hmem =>
          h index ((window_contains_iff_of_visibleRange? hrange).mpr hmem)
      simp only [hsame]
      exact dif_pos trivial

theorem WindowIsMeasured.materialized_eq (h : v.WindowIsMeasured) (t : Transcript) (index : Nat) :
    (v.materialized t index).2 = v := by
  rw [materialized]
  split
  · next hcontains =>
      obtain ⟨_, -, heq⟩ := rendered_of_isMeasured t (h index hcontains)
      rw [heq]
  · rfl

theorem rowsOf_of_isMeasured (t : Transcript) {indices : List Nat}
    (h : ∀ index ∈ indices, v.isMeasured index = true) (room skip : Nat) :
    (v.rowsOf t room skip indices).2 = v := by
  induction indices generalizing room skip with
  | nil => rfl
  | cons first rest ih =>
      obtain ⟨item, -, heq⟩ := rendered_of_isMeasured t (h first List.mem_cons_self)
      rw [rowsOf, heq]
      simp only
      split
      · rfl
      · exact ih (fun index hindex => h index (List.mem_cons_of_mem first hindex)) _ _

theorem WindowIsMeasured.screenRows_eq (h : v.WindowIsMeasured) (t : Transcript) :
    (v.screenRows t).2 = v := by
  rw [screenRows]
  split
  · rfl
  · next range hrange =>
      exact rowsOf_of_isMeasured t
        (fun index hmem => h index ((window_contains_iff_of_visibleRange? hrange).mpr hmem)) _ _

/-- Whether a view shows only items that it has rendered, unless the transcript is in a later
epoch. -/
def IsMeasuredFor (v : TranscriptView) (t : Transcript) : Prop :=
  v.epoch = t.epoch → v.WindowIsMeasured

namespace IsMeasuredFor

theorem of_measure (hfaithful : v.IsFaithful t) : (v.measure t).IsMeasuredFor t := by
  intro hepoch
  rw [(v.renders_measure t).epoch_eq] at hepoch
  exact windowIsMeasured_measure hfaithful.inStep (hfaithful.length_le hepoch)

theorem of_relayout (v : TranscriptView) (t : Transcript) : (v.relayout t).IsMeasuredFor t := by
  intro _
  rw [relayout]
  exact windowIsMeasured_measure (setHeights_replicate _ _) (Nat.le_of_eq List.length_replicate)

theorem of_eq (h : v.IsMeasuredFor t) (hepoch : after.epoch = v.epoch)
    (hcells : after.cells = v.cells) (hwindow : after.window = v.window) :
    after.IsMeasuredFor t := by
  intro hcurrent index hcontains
  rw [hwindow] at hcontains
  have hmeasured := h (hepoch.symm.trans hcurrent) index hcontains
  rwa [isMeasured, ← hcells] at hmeasured

theorem of_same (h : v.IsMeasuredFor t) (hsame : v.WindowIsMeasured → after = v)
    (hepoch : after.epoch = v.epoch) : after.IsMeasuredFor t := by
  intro hcurrent
  have hmeasured := h (hepoch.symm.trans hcurrent)
  rw [hsame hmeasured]
  exact hmeasured

theorem sync (hfaithful : v.IsFaithful t) (h : v.IsMeasuredFor t) :
    (v.sync t).2.IsMeasuredFor t := by
  rw [TranscriptView.sync]
  split
  · exact of_relayout _ t
  · split
    · exact h
    · next hepoch hsize =>
        rw [Decidable.not_not] at hepoch
        exact of_measure (hfaithful.grown hepoch.symm)

theorem resize (hfaithful : v.IsFaithful t) (h : v.IsMeasuredFor t) (width height : Nat) :
    (v.resize t width height).2.IsMeasuredFor t := by
  rw [TranscriptView.resize]
  split
  · exact h
  · simp only
    split
    · next hwidth =>
        subst hwidth
        exact of_measure
          ⟨hfaithful.inStep, hfaithful.epoch_le, hfaithful.length_le, hfaithful.cell_eq⟩
    · exact of_relayout _ t

theorem setFollowing (hfaithful : v.IsFaithful t) (h : v.IsMeasuredFor t) (following : Bool) :
    (v.setFollowing t following).IsMeasuredFor t := by
  rw [TranscriptView.setFollowing]
  split
  · exact of_measure (hfaithful.moveBy rfl)
  · refine h.of_eq rfl rfl (window_eq ?_)
    exact ScrollState.visibleRange?_eq_of_offset_eq (ScrollState.heights_stopFollowing _ _)
      (ScrollState.offset_stopFollowing _ _)

theorem scrollDown (hfaithful : v.IsFaithful t) (h : v.IsMeasuredFor t) (lines : Nat) :
    ((v.scrollDown? t lines).getD v).IsMeasuredFor t := by
  rcases v.eq_or_moves_scrollDown t lines with hsame | ⟨move, hheights, hmove⟩
  · rw [hsame]
    exact h
  · rw [hmove]
    exact of_measure (hfaithful.moveBy hheights)

theorem next (hfaithful : v.IsFaithful t) (h : v.IsMeasuredFor t) (step : ViewStep) :
    (step.nextView t v).IsMeasuredFor (step.nextTranscript t) := by
  cases step with
  | append sources =>
      intro hepoch
      exact h (hepoch.trans (t.epoch_append sources))
  | reset =>
      -- The view is an epoch behind, so nothing is claimed of it.
      intro hepoch
      have hle := hfaithful.epoch_le
      change v.epoch = t.epoch + 1 at hepoch
      omega
  | sync => exact h.sync hfaithful
  | resize width height => exact resize hfaithful h width height
  | setExpandArguments expandArguments =>
      change (v.setExpandArguments t expandArguments).IsMeasuredFor t
      rw [TranscriptView.setExpandArguments]
      split
      · exact h
      · exact of_relayout _ t
  | materialize index =>
      exact h.of_same (fun hmeasured => hmeasured.materialized_eq t index)
        (v.renders_materialized t index).epoch_eq
  | scrollToItem index align =>
      change (v.scrollToItem t index align).IsMeasuredFor t
      rw [TranscriptView.scrollToItem]
      split
      · exact of_measure (hfaithful.moveBy rfl)
      · exact h
  | scrollUp lines => exact of_measure (hfaithful.moveBy rfl)
  | scrollDown lines => exact scrollDown hfaithful h lines.toNat
  | pageUp => exact of_measure (hfaithful.moveBy rfl)
  | pageDown => exact scrollDown hfaithful h (max v.height 1)
  | toTop => exact of_measure (hfaithful.moveBy rfl)
  | setFollowing following => exact setFollowing hfaithful h following
  | setProgrammatic programmatic => exact h.of_eq rfl rfl rfl
  | setHighlight kind spans =>
      cases kind with
      | all => exact h.of_eq rfl rfl rfl
      | current => exact h.of_eq rfl rfl rfl
  | clearHighlight kind =>
      change (v.clearHighlight kind).IsMeasuredFor t
      unfold TranscriptView.clearHighlight
      split
      · exact h
      · cases kind with
        | all => exact h.of_eq rfl rfl rfl
        | current => exact h.of_eq rfl rfl rfl
  | draw =>
      have hepoch : (v.screenRows t).2.epoch = v.epoch := by
        rw [screenRows]
        split
        · rfl
        · exact (renders_rowsOf v t _ _ _).epoch_eq
      exact h.of_same (fun hmeasured => hmeasured.screenRows_eq t) hepoch

end IsMeasuredFor

theorem Reachable.isMeasuredFor (h : Reachable t v) : v.IsMeasuredFor t := by
  induction h with
  | new t options => exact .of_relayout _ t
  | step step hbefore ih => exact .next hbefore.isFaithful ih step

end TranscriptView

end TranscriptSearch
