import TranscriptSearch.Proofs.Screen.Rendering
import TranscriptSearch.Proofs.Transcript.Growth

namespace TranscriptSearch

/-- A change of the transcript, or an operation of its view. -/
inductive ViewStep where
  | append (sources : List SourceEvent)
  | reset
  | sync
  | resize (width height : Nat)
  | setExpandArguments (expandArguments : Bool)
  | materialize (index : Nat)
  | scrollToItem (index : Nat) (align : ScrollAlign)
  | scrollUp (lines : Nat)
  | scrollDown (lines : UInt64)
  | pageUp
  | pageDown
  | toTop
  | setFollowing (following : Bool)
  | setProgrammatic (programmatic : Bool)
  | setHighlight (kind : HighlightKind) (spans : List RenderedSpan)
  | clearHighlight (kind : HighlightKind)
  | draw

namespace ViewStep

/-- The transcript after a step. -/
def nextTranscript (t : Transcript) : ViewStep → Transcript
  | .append sources => t.append sources
  | .reset => t.reset
  | _ => t

/-- The view after a step.  A move down that fails leaves it as it was. -/
def nextView (t : Transcript) (v : TranscriptView) : ViewStep → TranscriptView
  | .append _ => v
  | .reset => v
  | .sync => (v.sync t).2
  | .resize width height => (v.resize t width height).2
  | .setExpandArguments expandArguments => v.setExpandArguments t expandArguments
  | .materialize index => (v.materialized t index).2
  | .scrollToItem index align => v.scrollToItem t index align
  | .scrollUp lines => v.scrollUp t lines
  | .scrollDown lines => (v.scrollDown? t lines.toNat).getD v
  | .pageUp => v.pageUp t
  | .pageDown => (v.pageDown? t).getD v
  | .toTop => v.toTop t
  | .setFollowing following => v.setFollowing t following
  | .setProgrammatic programmatic => v.setProgrammatic programmatic
  | .setHighlight kind spans => v.setHighlight kind spans
  | .clearHighlight kind => v.clearHighlight kind
  | .draw => (v.screenRows t).2

end ViewStep

namespace TranscriptView

/-- The views that a transcript can come to be shown in. -/
inductive Reachable : Transcript → TranscriptView → Prop
  | new (t : Transcript) (options : CellOptions) : Reachable t (.new t options)
  | step {t : Transcript} {v : TranscriptView} (step : ViewStep) :
      Reachable t v → Reachable (step.nextTranscript t) (step.nextView t v)

/-- Whether a view has taken up all that happened to the transcript. -/
def InSync (v : TranscriptView) (t : Transcript) : Prop :=
  v.epoch = t.epoch ∧ v.cells.length = t.size

/-- The view with new items put below the others, before any of them is rendered. -/
def grown (v : TranscriptView) (t : Transcript) : TranscriptView :=
  let added := t.size - v.cells.length
  let scroll := v.scroll.pushHeights (List.replicate added estimatedHeight)
  { v with
    scroll := if v.isAtBottom && !v.programmatic then scroll.follow else scroll
    cells := v.cells ++ List.replicate added none
    generation := v.generation + 1 }

theorem heights_grown (v : TranscriptView) (t : Transcript) :
    (v.grown t).scroll.heights =
      (v.scroll.pushHeights (List.replicate (t.size - v.cells.length) estimatedHeight)).heights :=
  (apply_ite ScrollState.heights _ _ _).trans (ite_self _)

theorem length_cells_grown (v : TranscriptView) (t : Transcript) :
    (v.grown t).cells.length = v.cells.length + (t.size - v.cells.length) := by
  rw [grown, List.length_append, List.length_replicate]

theorem eq_or_moves_scrollDown (v : TranscriptView) (t : Transcript) (lines : Nat) :
    (v.scrollDown? t lines).getD v = v ∨ ∃ move : ScrollState → ScrollState,
      (move v.scroll).heights = v.scroll.heights ∧
        (v.scrollDown? t lines).getD v = (v.moveBy move).measure t := by
  rw [scrollDown?, moveBy?]
  cases hmove : v.scroll.scrollDown? lines v.height with
  | none => exact .inl rfl
  | some after => exact .inr ⟨fun _ => after, ScrollState.heights_of_scrollDown? hmove, rfl⟩

/-- Whether what a view has rendered are the items of the transcript. -/
structure IsFaithful (v : TranscriptView) (t : Transcript) : Prop where
  inStep : v.IsInStep
  epoch_le : v.epoch ≤ t.epoch
  length_le : v.epoch = t.epoch → v.cells.length ≤ t.size
  cell_eq : v.epoch = t.epoch → ∀ index rendered, v.cells[index]? = some (some rendered) →
    ∃ item, t.item? index = some item ∧ rendered = item.render v.width v.options

namespace IsFaithful

variable {t : Transcript} {v : TranscriptView}

theorem renders {after : TranscriptView} (h : v.IsFaithful t) (hafter : Renders t v after) :
    after.IsFaithful t where
  inStep := hafter.inStep h.inStep
  epoch_le := by
    rw [hafter.epoch_eq]
    exact h.epoch_le
  length_le hepoch := by
    rw [hafter.length_eq]
    exact h.length_le (hafter.epoch_eq ▸ hepoch)
  cell_eq hepoch index rendered hrendered := by
    rw [hafter.width_eq, hafter.options_eq]
    rcases hafter.cell index with hsame | ⟨-, item, hitem, hcell⟩
    · exact h.cell_eq (hafter.epoch_eq ▸ hepoch) index rendered (hsame ▸ hrendered)
    · rw [hcell, Option.some.injEq, Option.some.injEq] at hrendered
      exact ⟨item, hitem, hrendered.symm⟩

theorem measure (h : v.IsFaithful t) : (v.measure t).IsFaithful t :=
  h.renders (v.renders_measure t)

theorem later {later : Transcript} (h : v.IsFaithful t) (hlater : later.Extends t) :
    v.IsFaithful later := by
  have hle := h.epoch_le
  have hle' := hlater.epoch_le
  refine ⟨h.inStep, by omega, fun hepoch => ?_, fun hepoch index rendered hrendered => ?_⟩
  · have hprefix := (hlater.prefix_items (by omega)).length_le
    exact Nat.le_trans (h.length_le (by omega)) hprefix
  · obtain ⟨item, hitem, hrender⟩ := h.cell_eq (by omega) index rendered hrendered
    obtain ⟨more, hmore⟩ := hlater.prefix_items (by omega)
    refine ⟨item, ?_, hrender⟩
    rw [Transcript.item?] at hitem ⊢
    rw [← hmore, List.getElem?_append_left (List.getElem?_eq_some_iff.mp hitem).1, hitem]

theorem of_unrendered (hepoch : v.epoch ≤ t.epoch) {n : Nat} (hstep : v.IsInStep)
    (hcells : v.cells = List.replicate n none) (hn : v.epoch = t.epoch → n ≤ t.size) :
    v.IsFaithful t := by
  refine ⟨hstep, hepoch, fun heq => ?_, fun _ index rendered hrendered => ?_⟩
  · rw [hcells, List.length_replicate]
    exact hn heq
  · rw [hcells] at hrendered
    simp [List.getElem?_replicate] at hrendered

theorem relayout (hepoch : v.epoch ≤ t.epoch) : (v.relayout t).IsFaithful t := by
  rw [TranscriptView.relayout]
  exact measure (of_unrendered hepoch (setHeights_replicate _ _) rfl fun _ => Nat.le_refl t.size)

theorem grown (h : v.IsFaithful t) (hepoch : v.epoch = t.epoch) : (v.grown t).IsFaithful t := by
  have hle := h.length_le hepoch
  refine ⟨?_, h.epoch_le, fun _ => ?_, fun heq index rendered hrendered => ?_⟩
  · exact (v.heights_grown t).trans (h.inStep.pushHeights_replicate _)
  · rw [length_cells_grown]
    omega
  · refine h.cell_eq heq index rendered ?_
    simp only [TranscriptView.grown, List.getElem?_append] at hrendered
    split at hrendered
    · exact hrendered
    · simp [List.getElem?_replicate] at hrendered

theorem sync (h : v.IsFaithful t) : (v.sync t).2.IsFaithful t := by
  rw [TranscriptView.sync]
  split
  · exact relayout (Nat.le_refl t.epoch)
  · split
    · exact h
    · next hepoch hsize =>
        rw [Decidable.not_not] at hepoch
        exact (h.grown hepoch.symm).measure

theorem resize (h : v.IsFaithful t) (width height : Nat) :
    (v.resize t width height).2.IsFaithful t := by
  rw [TranscriptView.resize]
  split
  · exact h
  · simp only
    split
    · next hwidth =>
        subst hwidth
        exact measure ⟨h.inStep, h.epoch_le, h.length_le, h.cell_eq⟩
    · exact relayout h.epoch_le

theorem setExpandArguments (h : v.IsFaithful t) (expandArguments : Bool) :
    (v.setExpandArguments t expandArguments).IsFaithful t := by
  rw [TranscriptView.setExpandArguments]
  split
  · exact h
  · exact relayout h.epoch_le

theorem materialized (h : v.IsFaithful t) (index : Nat) :
    (v.materialized t index).2.IsFaithful t := by
  rw [TranscriptView.materialized]
  split
  · exact h.renders (v.renders_rendered t index)
  · exact h

theorem moveBy (h : v.IsFaithful t) {move : ScrollState → ScrollState}
    (hheights : (move v.scroll).heights = v.scroll.heights) : (v.moveBy move).IsFaithful t :=
  ⟨hheights.trans h.inStep, h.epoch_le, h.length_le, h.cell_eq⟩

theorem scrollDown (h : v.IsFaithful t) (lines : Nat) :
    ((v.scrollDown? t lines).getD v).IsFaithful t := by
  rcases v.eq_or_moves_scrollDown t lines with hsame | ⟨move, hheights, hmove⟩
  · rw [hsame]
    exact h
  · rw [hmove]
    exact (h.moveBy hheights).measure

theorem scrollToItem (h : v.IsFaithful t) (index : Nat) (align : ScrollAlign) :
    (v.scrollToItem t index align).IsFaithful t := by
  rw [TranscriptView.scrollToItem]
  split
  · exact (h.moveBy rfl).measure
  · exact h

theorem setFollowing (h : v.IsFaithful t) (following : Bool) :
    (v.setFollowing t following).IsFaithful t := by
  rw [TranscriptView.setFollowing]
  split
  · exact (h.moveBy rfl).measure
  · exact h.moveBy (ScrollState.heights_stopFollowing _ _)

theorem setHighlight (h : v.IsFaithful t) (kind : HighlightKind) (spans : List RenderedSpan) :
    (v.setHighlight kind spans).IsFaithful t := by
  cases kind <;> exact ⟨h.inStep, h.epoch_le, h.length_le, h.cell_eq⟩

theorem clearHighlight (h : v.IsFaithful t) (kind : HighlightKind) :
    (v.clearHighlight kind).IsFaithful t := by
  unfold TranscriptView.clearHighlight
  split
  · exact h
  · cases kind <;> exact ⟨h.inStep, h.epoch_le, h.length_le, h.cell_eq⟩

theorem screenRows (h : v.IsFaithful t) : (v.screenRows t).2.IsFaithful t := by
  rw [TranscriptView.screenRows]
  split
  · exact h
  · exact h.renders (renders_rowsOf _ _ _ _ _)

theorem next (h : v.IsFaithful t) (step : ViewStep) :
    (step.nextView t v).IsFaithful (step.nextTranscript t) := by
  cases step with
  | append sources => exact h.later (t.extends_append sources)
  | reset => exact h.later t.extends_reset
  | sync => exact h.sync
  | resize width height => exact h.resize width height
  | setExpandArguments expandArguments => exact h.setExpandArguments expandArguments
  | materialize index => exact h.materialized index
  | scrollToItem index align => exact h.scrollToItem index align
  | scrollUp lines => exact (h.moveBy rfl).measure
  | scrollDown lines => exact h.scrollDown lines.toNat
  | pageUp => exact (h.moveBy rfl).measure
  | pageDown => exact h.scrollDown (max v.height 1)
  | toTop => exact (h.moveBy rfl).measure
  | setFollowing following => exact h.setFollowing following
  | setProgrammatic programmatic => exact ⟨h.inStep, h.epoch_le, h.length_le, h.cell_eq⟩
  | setHighlight kind spans => exact h.setHighlight kind spans
  | clearHighlight kind => exact h.clearHighlight kind
  | draw => exact h.screenRows

end IsFaithful

theorem Reachable.isFaithful {t : Transcript} {v : TranscriptView} (h : Reachable t v) :
    v.IsFaithful t := by
  induction h with
  | new t options => exact .relayout (Nat.le_refl t.epoch)
  | step step _ ih => exact ih.next step

theorem Reachable.isInStep {t : Transcript} {v : TranscriptView} (h : Reachable t v) :
    v.IsInStep :=
  h.isFaithful.inStep

end TranscriptView

end TranscriptSearch
