import Mathlib.Logic.Function.Iterate
import TranscriptSearch.Proofs.Screen.KeepingUp

namespace TranscriptSearch.TranscriptView

variable {t : Transcript} {v : TranscriptView} {index : Nat}

/-- One round of measuring: the items on the screen are rendered. -/
def measureRound (t : Transcript) (v : TranscriptView) : TranscriptView :=
  match v.visibleRange? with
  | none => v
  | some range => v.renderAll t range.indices

/-- Whether a round changes no height, so that it is the last one. -/
def Settles (t : Transcript) (v : TranscriptView) : Prop :=
  (v.measureRound t).generation = v.generation

theorem measureRound_of_some {range : VisibleRange} (h : v.visibleRange? = some range) :
    v.measureRound t = v.renderAll t range.indices := by
  rw [measureRound, h]

theorem settles_of_none (h : v.visibleRange? = none) : v.Settles t := by
  rw [Settles, measureRound, h]

theorem measure_of_settles (h : v.Settles t) : v.measure t = v.measureRound t := by
  cases hrange : v.visibleRange? with
  | none =>
      rw [measure, measureRound, hrange]
  | some range =>
      rw [Settles, measureRound_of_some hrange] at h
      rw [measure, measureRound_of_some hrange, hrange]
      exact dif_pos h

theorem measure_of_not_settles (h : ¬ v.Settles t) :
    v.measure t = (v.measureRound t).measure t := by
  cases hrange : v.visibleRange? with
  | none => exact absurd (settles_of_none hrange) h
  | some range =>
      rw [Settles, measureRound_of_some hrange] at h
      rw [measure, measureRound_of_some hrange, hrange]
      exact dif_neg h

theorem pending_measureRound_lt (h : ¬ v.Settles t) : (v.measureRound t).pending < v.pending := by
  cases hrange : v.visibleRange? with
  | none => exact absurd (settles_of_none hrange) h
  | some range =>
      rw [Settles, measureRound_of_some hrange] at h
      rw [measureRound_of_some hrange]
      rcases v.renderAll_eq_or_pending_lt t range.indices with hsame | hless
      · exact absurd (congrArg generation hsame) h
      · exact hless

/-- Whether measuring goes round until, after `n` rounds that change heights, there is one that
changes none. -/
structure SettlesAfter (t : Transcript) (n : Nat) (v : TranscriptView) : Prop where
  measure_eq : v.measure t = (measureRound t)^[n + 1] v
  last : ((measureRound t)^[n] v).Settles t
  before : ∀ k < n, ¬ ((measureRound t)^[k] v).Settles t

/-- Measuring comes to an end: every round but the last one renders items. -/
theorem exists_settlesAfter (v : TranscriptView) (t : Transcript) :
    ∃ n ≤ v.pending, v.SettlesAfter t n := by
  induction hpending : v.pending using Nat.strongRecOn generalizing v with
  | ind pending ih =>
      by_cases hsettles : v.Settles t
      · exact ⟨0, Nat.zero_le _, measure_of_settles hsettles, hsettles,
          fun k hk => absurd hk (Nat.not_lt_zero k)⟩
      · have hless := pending_measureRound_lt hsettles
        obtain ⟨n, hn, hmeasure, hlast, hbefore⟩ := ih _ (hpending ▸ hless) (v.measureRound t) rfl
        refine ⟨n + 1, by omega, (measure_of_not_settles hsettles).trans hmeasure, hlast, ?_⟩
        intro k hk
        cases k with
        | zero => exact hsettles
        | succ k => exact hbefore k (Nat.lt_of_succ_lt_succ hk)

/-- Whether a line of an item is in the viewport: one of its rows, or the blank line below
them. -/
def Overlaps (v : TranscriptView) (index : Nat) : Prop :=
  ∃ start rows line, v.scroll.itemStart? index = some start ∧
    v.scroll.itemHeight? index = some rows ∧
    line ≤ rows ∧ v.scroll.offset v.height ≤ start + line ∧
    start + line < v.scroll.offset v.height + v.height

theorem height_pos_of_contains (h : v.window.contains index = true) : 0 < v.height := by
  refine Nat.pos_of_ne_zero fun hheight => ?_
  have hnone : v.visibleRange? = none := by
    rw [visibleRange?, ScrollState.visibleRange?, if_pos hheight]
  simp [window, hnone, VisibleWindow.contains, VisibleWindow.empty] at h

section InStep

variable (hstep : v.IsInStep)

include hstep

theorem IsInStep.itemStart?_eq (hindex : index < v.cells.length) :
    v.scroll.itemStart? index = some (v.startOf index) := by
  rw [ScrollState.itemStart?, startOf, if_pos]
  rw [hstep.length_heights]
  exact hindex

theorem IsInStep.itemHeight?_eq (hindex : index < v.cells.length) :
    v.scroll.itemHeight? index = some (v.heightOf index) :=
  hstep.heights_getElem? hindex

theorem IsInStep.lt_length_of_itemStart? {start : Nat}
    (h : v.scroll.itemStart? index = some start) : index < v.cells.length := by
  rw [ScrollState.itemStart?, hstep.length_heights] at h
  split at h
  · next hindex => exact hindex
  · simp at h

theorem IsInStep.lt_length_of_contains (h : v.window.contains index = true) :
    index < v.cells.length := by
  cases hrange : v.visibleRange? with
  | none => simp [window, hrange, VisibleWindow.contains, VisibleWindow.empty] at h
  | some range =>
      have hmem := (window_contains_iff_of_visibleRange? hrange).mp h
      have hstop := ScrollState.stop_le_length hrange
      rw [hstep.length_heights] at hstop
      exact Nat.lt_of_lt_of_le (VisibleRange.mem_indices.mp hmem).2 hstop

theorem IsInStep.overlaps_iff : v.Overlaps index ↔ v.window.contains index = true := by
  constructor
  · rintro ⟨start, rows, line, hstart, hrows, hline, htop, hbottom⟩
    have hindex := hstep.lt_length_of_itemStart? hstart
    obtain rfl := Option.some.inj ((hstep.itemStart?_eq hindex).symm.trans hstart)
    obtain rfl := Option.some.inj ((hstep.itemHeight?_eq hindex).symm.trans hrows)
    rw [hstep.window_contains_iff (by omega) hindex]
    omega
  · intro hcontains
    have hindex := hstep.lt_length_of_contains hcontains
    have hheight := height_pos_of_contains hcontains
    obtain ⟨hbottom, htop⟩ := (hstep.window_contains_iff hheight hindex).mp hcontains
    -- The first line of the item that is not above the viewport.
    exact ⟨v.startOf index, v.heightOf index, v.scroll.offset v.height - v.startOf index,
      hstep.itemStart?_eq hindex, hstep.itemHeight?_eq hindex, by omega, by omega, by omega⟩

end InStep

/-- Whether every item of a transcript has its place in a view: with the rows it has at the
present width once it is rendered, as all items on the screen are, and with two rows until
then. -/
structure IsLaidOut (v : TranscriptView) (t : Transcript) : Prop where
  length_cells : v.cells.length = t.size
  length_heights : v.scroll.heights.length = t.size
  rendered : ∀ index rendered, v.cells[index]? = some (some rendered) →
    ∃ item, t.item? index = some item ∧ rendered = item.render v.width v.options ∧
      v.scroll.itemHeight? index = some rendered.height
  estimated : ∀ index, v.cells[index]? = some none →
    v.scroll.itemHeight? index = some estimatedHeight
  measured : ∀ index, v.Overlaps index → v.isMeasured index = true

theorem IsFaithful.isLaidOut (h : v.IsFaithful t) (hsync : v.InSync t)
    (hmeasured : v.WindowIsMeasured) : v.IsLaidOut t where
  length_cells := hsync.2
  length_heights := h.inStep.length_heights.trans hsync.2
  rendered index rendered hcell := by
    obtain ⟨item, hitem, hrender⟩ := h.cell_eq hsync.1 index rendered hcell
    refine ⟨item, hitem, hrender, ?_⟩
    rw [h.inStep.itemHeight?_eq (List.getElem?_eq_some_iff.mp hcell).1, heightOf, hcell]
    rfl
  estimated index hcell := by
    rw [h.inStep.itemHeight?_eq (List.getElem?_eq_some_iff.mp hcell).1, heightOf, hcell]
    rfl
  measured index hoverlaps := hmeasured index (h.inStep.overlaps_iff.mp hoverlaps)

/-- A view that keeps up with its transcript has a place for every item, and no item on the screen
is left to be rendered.  Measuring ends, whatever it begins with: at the latest after one round
more than there are items left to render. -/
theorem isLaidOut_of_keepsUp (h : KeepsUp false t v) :
    v.IsLaidOut t ∧ ∀ before : TranscriptView, ∃ n ≤ before.pending, before.SettlesAfter t n :=
  ⟨h.reachable.isFaithful.isLaidOut h.inSync h.windowIsMeasured,
    fun before => before.exists_settlesAfter t⟩

/-- The six long inputs and a short one that came later. -/
def grownInputs : Transcript :=
  longInputs.append [⟨none, none, .input "e"⟩]

/-- A view of four lines that was put at the top of the items before the last one came. -/
def grownInputsTop : TranscriptView :=
  (longInputsTop.sync grownInputs).2

theorem keepsUp_longInputsTop : KeepsUp false longInputs longInputsTop :=
  ((KeepsUp.new longInputs ⟨5, false⟩).operate (.resize 40 4) id).operate .toTop id

theorem keepsUp_grownInputsTop : KeepsUp false grownInputs grownInputsTop :=
  (keepsUp_longInputsTop.append _).sync

theorem isLaidOut_grownInputsTop :
    grownInputsTop.IsLaidOut grownInputs ∧ grownInputsTop.isMeasured 1 = true ∧
      grownInputsTop.isMeasured 2 = false ∧
      ∃ n ≤ grownInputsTop.pending, grownInputsTop.SettlesAfter grownInputs n :=
  ⟨(isLaidOut_of_keepsUp keepsUp_grownInputsTop).1, by decide +kernel, by decide +kernel,
    (isLaidOut_of_keepsUp keepsUp_grownInputsTop).2 grownInputsTop⟩

end TranscriptSearch.TranscriptView
