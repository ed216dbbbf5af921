import TranscriptSearch.Proofs.Screen.Measured

namespace TranscriptSearch

namespace ViewStep

/-- Whether a step changes the transcript, without the view's knowing. -/
def ChangesTranscript : ViewStep → Prop
  | .append _ => True
  | .reset => True
  | _ => False

/-- Whether a step paints highlights or takes them away. -/
def Paints : ViewStep → Prop
  | .setHighlight .. => True
  | .clearHighlight _ => True
  | _ => False

/-- Whether a step moves the viewport, asks for rows or calls for other ones. -/
def IsOperation : ViewStep → Prop
  | .append _ => False
  | .reset => False
  | .sync => False
  | .setProgrammatic _ => False
  | .setHighlight .. => False
  | .clearHighlight _ => False
  | _ => True

/-- Whether the view has something to take up after a step, if `behind` says whether it had
before. -/
def leavesBehind (behind : Bool) : ViewStep → Bool
  | .append _ => true
  | .reset => true
  | .sync => false
  | _ => behind

theorem leavesBehind_eq_false_iff {behind : Bool} (step : ViewStep) :
    step.leavesBehind behind = false ↔ step = .sync ∨ behind = false ∧
      ¬ step.ChangesTranscript := by
  cases step <;> simp [leavesBehind, ChangesTranscript]

theorem nextTranscript_of_not_changesTranscript {step : ViewStep} (h : ¬ step.ChangesTranscript)
    (t : Transcript) : step.nextTranscript t = t := by
  cases step with
  | append sources => exact absurd trivial h
  | reset => exact absurd trivial h
  | _ => rfl

theorem extends_nextTranscript (step : ViewStep) (t : Transcript) :
    (step.nextTranscript t).Extends t := by
  cases step with
  | append sources => exact t.extends_append sources
  | reset => exact t.extends_reset
  | _ => exact .refl t

theorem standsStill_of_leavesBehind {behind : Bool} {step : ViewStep}
    (h : step.leavesBehind behind = true) (hstep : behind = true → ¬ step.IsOperation)
    (t : Transcript) (v : TranscriptView) :
    (step.nextView t v).cells = v.cells ∧ (step.nextView t v).window = v.window := by
  cases step with
  | append sources => exact ⟨rfl, rfl⟩
  | reset => exact ⟨rfl, rfl⟩
  | sync => exact absurd h Bool.false_ne_true
  | setProgrammatic programmatic => exact ⟨rfl, rfl⟩
  | setHighlight kind spans => cases kind <;> exact ⟨rfl, rfl⟩
  | clearHighlight kind =>
      change (v.clearHighlight kind).cells = v.cells ∧ (v.clearHighlight kind).window = v.window
      unfold TranscriptView.clearHighlight
      split
      · exact ⟨rfl, rfl⟩
      · cases kind <;> exact ⟨rfl, rfl⟩
  | _ => exact absurd trivial (hstep h)

end ViewStep

namespace TranscriptView

variable {t : Transcript} {v after last : TranscriptView}

theorem Renders.layer?_eq (h : Renders t v after) (kind : HighlightKind) :
    after.layer? kind = v.layer? kind := by
  cases kind with
  | all => exact (congrArg TranscriptView.allSpans h.frame :)
  | current => exact (congrArg TranscriptView.currentSpans h.frame :)

theorem generation_le_measure (v : TranscriptView) (t : Transcript) :
    v.generation ≤ (v.measure t).generation := by
  fun_induction measure v t with
  | case1 v hrange => exact Nat.le_refl _
  | case2 v range hrange next hsame => exact Nat.le_of_eq hsame.symm
  | case3 v range hrange next hchanged ih =>
      rcases v.renderAll_generation t range.indices with hmore | ⟨hsame, -⟩
      · exact Nat.le_trans (Nat.le_of_lt hmore) ih
      · exact absurd hsame hchanged

theorem generation_le_rendered (v : TranscriptView) (t : Transcript) (index : Nat) :
    v.generation ≤ (v.rendered t index).2.generation := by
  rcases v.rendered_generation t index with hmore | ⟨hsame, -⟩
  · exact Nat.le_of_lt hmore
  · exact Nat.le_of_eq hsame.symm

theorem generation_le_rowsOf (v : TranscriptView) (t : Transcript) (room skip : Nat)
    (indices : List Nat) : v.generation ≤ (v.rowsOf t room skip indices).2.generation := by
  induction indices generalizing v room skip with
  | nil => exact Nat.le_refl _
  | cons index indices ih =>
      have hfirst := v.generation_le_rendered t index
      rw [rowsOf]
      split
      · next hrendered =>
          rw [hrendered] at hfirst
          exact hfirst
      · next hrendered =>
          rw [hrendered] at hfirst
          simp only
          split
          · exact hfirst
          · exact Nat.le_trans hfirst (ih _ _ _)

/-- Whether a view still has the items it had, to be rendered in the same way. -/
structure KeepsItems (v after : TranscriptView) : Prop where
  epoch_eq : after.epoch = v.epoch
  width_eq : after.width = v.width
  options_eq : after.options = v.options
  length_eq : after.cells.length = v.cells.length
  generation_le : v.generation ≤ after.generation

/-- Whether a view has laid out all items of its transcript anew, or new ones.  That counts as
another layout. -/
structure Renews (t : Transcript) (v after : TranscriptView) : Prop where
  epoch_eq : after.epoch = v.epoch ∨ after.epoch = t.epoch
  length_eq : after.cells.length = t.size
  generation_lt : v.generation < after.generation

/-- Whether a view still has its items and its highlights. -/
structure Keeps (v after : TranscriptView) : Prop extends KeepsItems v after where
  layer_eq : ∀ kind, after.layer? kind = v.layer? kind

namespace Keeps

theorem refl (v : TranscriptView) : v.Keeps v :=
  ⟨⟨rfl, rfl, rfl, rfl, Nat.le_refl _⟩, fun _ => rfl⟩

theorem moveBy (v : TranscriptView) (move : ScrollState → ScrollState) :
    v.Keeps (v.moveBy move) :=
  ⟨⟨rfl, rfl, rfl, rfl, Nat.le_refl _⟩, fun kind => by cases kind <;> rfl⟩

theorem trans (h : v.Keeps after) (h' : after.Keeps last) : v.Keeps last where
  epoch_eq := h'.epoch_eq.trans h.epoch_eq
  width_eq := h'.width_eq.trans h.width_eq
  options_eq := h'.options_eq.trans h.options_eq
  length_eq := h'.length_eq.trans h.length_eq
  generation_le := Nat.le_trans h.generation_le h'.generation_le
  layer_eq kind := (h'.layer_eq kind).trans (h.layer_eq kind)

theorem renders (h : v.Keeps after) (hrenders : Renders t after last)
    (hgeneration : after.generation ≤ last.generation) : v.Keeps last :=
  h.trans ⟨⟨hrenders.epoch_eq, hrenders.width_eq, hrenders.options_eq, hrenders.length_eq,
    hgeneration⟩, hrenders.layer?_eq⟩

theorem measure (h : v.Keeps after) (t : Transcript) : v.Keeps (after.measure t) :=
  h.renders (after.renders_measure t) (after.generation_le_measure t)

end Keeps

theorem renews_measure (hepoch : after.epoch = v.epoch ∨ after.epoch = t.epoch)
    (hlength : after.cells.length = t.size) (hgeneration : v.generation < after.generation) :
    Renews t v (after.measure t) where
  epoch_eq := by
    rw [(after.renders_measure t).epoch_eq]
    exact hepoch
  length_eq := (after.renders_measure t).length_eq.trans hlength
  generation_lt := Nat.lt_of_lt_of_le hgeneration (after.generation_le_measure t)

theorem renews_relayout (hepoch : after.epoch = v.epoch ∨ after.epoch = t.epoch)
    (hgeneration : v.generation ≤ after.generation) : Renews t v (after.relayout t) :=
  renews_measure hepoch List.length_replicate (Nat.lt_succ_of_le hgeneration)

theorem epoch_relayout (v : TranscriptView) (t : Transcript) : (v.relayout t).epoch = v.epoch :=
  (renders_measure _ t).epoch_eq

theorem eq_or_renews_sync (v : TranscriptView) (t : Transcript) :
    (v.sync t).2 = v ∧ v.epoch = t.epoch ∧ t.size ≤ v.cells.length ∨
      (v.sync t).2.epoch = t.epoch ∧ Renews t v (v.sync t).2 := by
  rw [sync]
  split
  · exact .inr ⟨epoch_relayout _ t, renews_relayout (.inr rfl) (Nat.le_refl _)⟩
  · next hepoch =>
      rw [Decidable.not_not] at hepoch
      split
      · next hsize => exact .inl ⟨rfl, hepoch.symm, hsize⟩
      · next hsize =>
          refine .inr ⟨(renders_measure _ t).epoch_eq.trans hepoch.symm,
            renews_measure (.inl rfl) ?_ (Nat.lt_succ_self _)⟩
          rw [List.length_append, List.length_replicate]
          omega

theorem keeps_or_renews_resize (v : TranscriptView) (t : Transcript) (width height : Nat) :
    v.Keeps (v.resize t width height).2 ∨ Renews t v (v.resize t width height).2 := by
  rw [resize]
  split
  · exact .inl (.refl v)
  · simp only
    split
    · next hwidth =>
        have hkeeps : v.Keeps { v with width, height } :=
          ⟨⟨rfl, hwidth, rfl, rfl, Nat.le_refl _⟩, fun kind => by cases kind <;> rfl⟩
        exact .inl (hkeeps.measure t)
    · exact .inr (renews_relayout (.inl rfl) (Nat.le_refl _))

theorem keeps_or_renews_setExpandArguments (v : TranscriptView) (t : Transcript)
    (expandArguments : Bool) : v.Keeps (v.setExpandArguments t expandArguments) ∨
      Renews t v (v.setExpandArguments t expandArguments) := by
  rw [setExpandArguments]
  split
  · exact .inl (.refl v)
  · exact .inr (renews_relayout (.inl rfl) (Nat.le_refl _))

theorem keeps_materialized (v : TranscriptView) (t : Transcript) (index : Nat) :
    v.Keeps (v.materialized t index).2 := by
  rw [materialized]
  split
  · exact (Keeps.refl v).renders (v.renders_rendered t index) (v.generation_le_rendered t index)
  · exact .refl v

theorem keeps_scrollToItem (v : TranscriptView) (t : Transcript) (index : Nat)
    (align : ScrollAlign) : v.Keeps (v.scrollToItem t index align) := by
  rw [scrollToItem]
  split
  · exact (Keeps.moveBy v _).measure t
  · exact .refl v

theorem keeps_setFollowing (v : TranscriptView) (t : Transcript) (following : Bool) :
    v.Keeps (v.setFollowing t following) := by
  rw [setFollowing]
  split
  · exact (Keeps.moveBy v _).measure t
  · exact .moveBy v _

theorem keeps_scrollDown (v : TranscriptView) (t : Transcript) (lines : Nat) :
    v.Keeps ((v.scrollDown? t lines).getD v) := by
  rcases v.eq_or_moves_scrollDown t lines with hsame | ⟨move, -, hmove⟩
  · rw [hsame]
    exact .refl v
  · rw [hmove]
    exact (Keeps.moveBy v move).measure t

theorem keeps_screenRows (v : TranscriptView) (t : Transcript) : v.Keeps (v.screenRows t).2 := by
  rw [screenRows]
  split
  · exact .refl v
  · exact (Keeps.refl v).renders (renders_rowsOf v t _ _ _) (v.generation_le_rowsOf t _ _ _)

/-- A step that does not paint leaves a view its items and its highlights, or lays the items out
anew. -/
theorem keeps_or_renews (v : TranscriptView) (t : Transcript) {step : ViewStep}
    (h : ¬ step.Paints) : v.Keeps (step.nextView t v) ∨ Renews t v (step.nextView t v) := by
  cases step with
  | append sources => exact .inl (.refl v)
  | reset => exact .inl (.refl v)
  | sync =>
      rcases v.eq_or_renews_sync t with ⟨hsame, -⟩ | ⟨-, hrenews⟩
      · left
        change v.Keeps (v.sync t).2
        rw [hsame]
        exact .refl v
      · exact .inr hrenews
  | resize width height => exact v.keeps_or_renews_resize t width height
  | setExpandArguments expandArguments =>
    exact v.keeps_or_renews_setExpandArguments t expandArguments
  | materialize index => exact .inl (v.keeps_materialized t index)
  | scrollToItem index align => exact .inl (v.keeps_scrollToItem t index align)
  | scrollUp lines => exact .inl ((Keeps.moveBy v _).measure t)
  | scrollDown lines => exact .inl (v.keeps_scrollDown t lines.toNat)
  | pageUp => exact .inl ((Keeps.moveBy v _).measure t)
  | pageDown => exact .inl (v.keeps_scrollDown t (max v.height 1))
  | toTop => exact .inl ((Keeps.moveBy v _).measure t)
  | setFollowing following => exact .inl (v.keeps_setFollowing t following)
  | setProgrammatic programmatic =>
      exact .inl ⟨⟨rfl, rfl, rfl, rfl, Nat.le_refl _⟩, fun kind => by cases kind <;> rfl⟩
  | setHighlight kind spans => exact absurd trivial h
  | clearHighlight kind => exact absurd trivial h
  | draw => exact .inl (v.keeps_screenRows t)

theorem keeps_or_lt_next (h : v.Keeps after ∨ v.generation < after.generation) (t : Transcript)
    {step : ViewStep} (hstep : ¬ step.Paints) :
    v.Keeps (step.nextView t after) ∨ v.generation < (step.nextView t after).generation := by
  rcases after.keeps_or_renews t hstep with hkeeps | hrenews
  · exact h.imp (fun hbefore => hbefore.trans hkeeps)
      (fun hbefore => Nat.lt_of_lt_of_le hbefore hkeeps.generation_le)
  · refine .inr (Nat.lt_of_le_of_lt ?_ hrenews.generation_lt)
    exact h.elim (fun hbefore => hbefore.generation_le) Nat.le_of_lt

theorem keepsItems_of_paints (v : TranscriptView) (t : Transcript) {step : ViewStep}
    (h : step.Paints) : v.KeepsItems (step.nextView t v) := by
  cases step with
  | setHighlight kind spans => cases kind <;> exact ⟨rfl, rfl, rfl, rfl, Nat.le_refl _⟩
  | clearHighlight kind =>
      change v.KeepsItems (v.clearHighlight kind)
      unfold clearHighlight
      split
      · exact (Keeps.refl v).toKeepsItems
      · cases kind <;> exact ⟨rfl, rfl, rfl, rfl, Nat.le_refl _⟩
  | _ => exact False.elim h

theorem keepsItems_or_renews (v : TranscriptView) (t : Transcript) (step : ViewStep) :
    v.KeepsItems (step.nextView t v) ∨ Renews t v (step.nextView t v) := by
  by_cases h : step.Paints
  · exact .inl (v.keepsItems_of_paints t h)
  · exact (v.keeps_or_renews t h).imp_left Keeps.toKeepsItems

theorem InSync.next (h : v.InSync t) (step : ViewStep) : (step.nextView t v).InSync t := by
  rcases v.keepsItems_or_renews t step with hkeeps | hrenews
  · exact ⟨hkeeps.epoch_eq.trans h.1, hkeeps.length_eq.trans h.2⟩
  · refine ⟨?_, hrenews.length_eq⟩
    rcases hrenews.epoch_eq with hepoch | hepoch
    · exact hepoch.trans h.1
    · exact hepoch

theorem IsFaithful.inSync_sync (h : v.IsFaithful t) : (v.sync t).2.InSync t := by
  rcases v.eq_or_renews_sync t with ⟨hsame, hepoch, hsize⟩ | ⟨hepoch, hrenews⟩
  · rw [hsame]
    exact ⟨hepoch, Nat.le_antisymm (h.length_le hepoch) hsize⟩
  · exact ⟨hepoch, hrenews.length_eq⟩

/-- The views that a transcript comes to be shown in when what happens to it is taken up before
anything else is done with the view.  The first argument says whether there is something to take
up. -/
inductive KeepsUp : Bool → Transcript → TranscriptView → Prop
  | new (t : Transcript) (options : CellOptions) : KeepsUp false t (.new t options)
  | step {behind : Bool} {t : Transcript} {v : TranscriptView} (step : ViewStep)
      (hstep : behind = true → ¬ step.IsOperation) :
      KeepsUp behind t v →
        KeepsUp (step.leavesBehind behind) (step.nextTranscript t) (step.nextView t v)

namespace KeepsUp

variable {behind : Bool}

theorem append (h : KeepsUp behind t v) (sources : List SourceEvent) :
    KeepsUp true (t.append sources) v :=
  .step (.append sources) (fun _ => id) h

theorem sync (h : KeepsUp behind t v) : KeepsUp false t (v.sync t).2 :=
  .step .sync (fun _ => id) h

theorem operate (h : KeepsUp false t v) (step : ViewStep) (hstep : ¬ step.ChangesTranscript) :
    KeepsUp false t (step.nextView t v) := by
  have hafter := KeepsUp.step step (fun hbehind => absurd hbehind Bool.false_ne_true) h
  rw [ViewStep.nextTranscript_of_not_changesTranscript hstep] at hafter
  rwa [(step.leavesBehind_eq_false_iff).mpr (.inr ⟨rfl, hstep⟩)] at hafter

theorem reachable (h : KeepsUp behind t v) : Reachable t v := by
  induction h with
  | new t options => exact .new t options
  | step step hstep _ ih => exact .step step ih

theorem inSync (h : KeepsUp false t v) : v.InSync t := by
  generalize hbehind : false = behind at h
  induction h with
  | new t options =>
      have hrenews : Renews t ⟨options, 80, 24, .empty, [], t.epoch, 0, none, none, 0, false⟩
          (.new t options) := renews_relayout (.inl rfl) (Nat.le_refl _)
      exact ⟨hrenews.epoch_eq.elim id id, hrenews.length_eq⟩
  | step step hstep hbefore ih =>
      rcases (step.leavesBehind_eq_false_iff).mp hbehind.symm with rfl | ⟨rfl, hsame⟩
      · exact hbefore.reachable.isFaithful.inSync_sync
      · rw [ViewStep.nextTranscript_of_not_changesTranscript hsame]
        exact (ih rfl).next step

theorem windowIsMeasured (h : KeepsUp behind t v) : v.WindowIsMeasured := by
  induction h with
  | new t options =>
      exact (KeepsUp.new t options).reachable.isMeasuredFor (KeepsUp.new t options).inSync.1
  | @step behind t v step hstep hbefore ih =>
      have hafter := KeepsUp.step step hstep hbefore
      cases hbehind : step.leavesBehind behind with
      | false =>
          rw [hbehind] at hafter
          exact hafter.reachable.isMeasuredFor hafter.inSync.1
      | true =>
          -- Nothing but the transcript and the marks may have changed.
          obtain ⟨hcells, hwindow⟩ := ViewStep.standsStill_of_leavesBehind hbehind hstep t v
          intro index hcontains
          rw [hwindow] at hcontains
          have hmeasured := ih index hcontains
          rwa [isMeasured, ← hcells] at hmeasured

end KeepsUp

end TranscriptView

end TranscriptSearch
