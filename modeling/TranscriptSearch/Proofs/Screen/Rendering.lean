import TranscriptSearch.Proofs.Screen.ScrollLines
import TranscriptSearch.Proofs.Text.Lines
import TranscriptSearch.Screen.View

namespace TranscriptSearch

theorem Item.one_le_height_render (item : Item) (width : Nat) (options : CellOptions) :
    1 ≤ (item.render width options).height := by
  have hheader : ∀ (frame : CellFrame) (title : String) (style : Style),
      1 ≤ (frame.header title style).length := by
    intro frame title style
    rw [CellFrame.header]
    split
    · next hrows => exact absurd hrows (Text.wrapWords_ne_nil _ _)
    · simp
  rw [render, RenderedItem.height, List.length_append]
  exact Nat.le_trans (hheader _ _ _) (Nat.le_add_right _ _)

namespace TranscriptView

/-- Whether the numbers of rows that the viewport goes by are those of the items. -/
def IsInStep (v : TranscriptView) : Prop :=
  v.scroll.heights = v.cells.map cellHeight

theorem IsInStep.setHeight {v : TranscriptView} (h : v.IsInStep) (index : Nat)
    (item : RenderedItem) :
    (v.scroll.setHeight index item.height).2.heights =
      (v.cells.set index (some item)).map cellHeight := by
  rw [ScrollState.heights_setHeight, h, List.map_set]
  rfl

theorem setHeights_replicate (s : ScrollState) (n : Nat) :
    (s.setHeights (List.replicate n estimatedHeight)).heights =
      (List.replicate n none).map cellHeight := by
  rw [List.map_replicate]
  rfl

theorem IsInStep.pushHeights_replicate {v : TranscriptView} (h : v.IsInStep) (n : Nat) :
    (v.scroll.pushHeights (List.replicate n estimatedHeight)).heights =
      (v.cells ++ List.replicate n none).map cellHeight := by
  rw [ScrollState.pushHeights, List.map_append, List.map_replicate, ← h]
  rfl

/-- What rendering items makes of a view. -/
structure Renders (t : Transcript) (v after : TranscriptView) : Prop where
  /-- Nothing changes but the rendered items, their heights and the number of changes of them. -/
  frame : { after with scroll := v.scroll, cells := v.cells, generation := v.generation } = v
  mode_eq : after.mode = v.mode
  inStep : v.IsInStep → after.IsInStep
  length_eq : after.cells.length = v.cells.length
  /-- A cell changes only when its item is rendered for the first time. -/
  cell : ∀ index, after.cells[index]? = v.cells[index]? ∨
    v.cells[index]? = some none ∧ ∃ item, t.item? index = some item ∧
      after.cells[index]? = some (some (item.render v.width v.options))

namespace Renders

variable {t : Transcript} {v after last : TranscriptView}

theorem width_eq (h : Renders t v after) : after.width = v.width :=
  (congrArg TranscriptView.width h.frame :)

theorem height_eq (h : Renders t v after) : after.height = v.height :=
  (congrArg TranscriptView.height h.frame :)

theorem options_eq (h : Renders t v after) : after.options = v.options :=
  (congrArg TranscriptView.options h.frame :)

theorem epoch_eq (h : Renders t v after) : after.epoch = v.epoch :=
  (congrArg TranscriptView.epoch h.frame :)

theorem programmatic_eq (h : Renders t v after) : after.programmatic = v.programmatic :=
  (congrArg TranscriptView.programmatic h.frame :)

theorem refl (t : Transcript) (v : TranscriptView) : Renders t v v :=
  ⟨rfl, rfl, id, rfl, fun _ => .inl rfl⟩

theorem trans (h : Renders t v after) (h' : Renders t after last) : Renders t v last where
  frame := by
    have hframe := congrArg (fun w : TranscriptView =>
      { w with scroll := v.scroll, cells := v.cells, generation := v.generation }) h'.frame
    exact hframe.trans h.frame
  mode_eq := h'.mode_eq.trans h.mode_eq
  inStep := h'.inStep ∘ h.inStep
  length_eq := h'.length_eq.trans h.length_eq
  cell index := by
    rcases h.cell index with hsame | ⟨hnone, item, hitem, hcell⟩
    · rcases h'.cell index with hsame' | ⟨hnone, item, hitem, hcell⟩
      · exact .inl (hsame'.trans hsame)
      · rw [h.width_eq, h.options_eq] at hcell
        exact .inr ⟨hsame.symm.trans hnone, item, hitem, hcell⟩
    · rcases h'.cell index with hsame' | ⟨hnone', -⟩
      · exact .inr ⟨hnone, item, hitem, hsame'.trans hcell⟩
      · rw [hcell] at hnone'
        simp at hnone'

end Renders

theorem renders_rendered (v : TranscriptView) (t : Transcript) (index : Nat) :
    Renders t v (v.rendered t index).2 := by
  rw [rendered]
  split
  · exact .refl t v
  · exact .refl t v
  · exact .refl t v
  · next item hnone hitem =>
      refine ⟨rfl, v.scroll.mode_setHeight index _, fun hstep => hstep.setHeight index _,
        List.length_set, fun other => ?_⟩
      by_cases heq : index = other
      · subst heq
        have hlength : index < v.cells.length := (List.getElem?_eq_some_iff.mp hnone).1
        exact .inr ⟨hnone, item, hitem, List.getElem?_set_self hlength⟩
      · exact .inl (List.getElem?_set_ne heq)

theorem renders_renderAll (v : TranscriptView) (t : Transcript) (indices : List Nat) :
    Renders t v (v.renderAll t indices) := by
  induction indices generalizing v with
  | nil => exact .refl t v
  | cons index indices ih => exact (v.renders_rendered t index).trans (ih _)

theorem renders_measure (v : TranscriptView) (t : Transcript) : Renders t v (v.measure t) := by
  fun_induction measure v t with
  | case1 v hrange => exact .refl t v
  | case2 v range hrange next hsame => exact v.renders_renderAll t range.indices
  | case3 v range hrange next hchanged ih => exact (v.renders_renderAll t range.indices).trans ih

theorem renders_materialized (v : TranscriptView) (t : Transcript) (index : Nat) :
    Renders t v (v.materialized t index).2 := by
  rw [materialized]
  split
  · exact v.renders_rendered t index
  · exact .refl t v

theorem renders_rowsOf (v : TranscriptView) (t : Transcript) (room skip : Nat)
    (indices : List Nat) : Renders t v (v.rowsOf t room skip indices).2 := by
  induction indices generalizing v room skip with
  | nil => exact .refl t v
  | cons index indices ih =>
      have hstep := v.renders_rendered t index
      rw [rowsOf]
      split
      · next hrendered =>
          rw [hrendered] at hstep
          exact hstep
      · next hrendered =>
          rw [hrendered] at hstep
          simp only
          split
          · exact hstep
          · exact hstep.trans (ih _ _ _)

end TranscriptView

end TranscriptSearch
