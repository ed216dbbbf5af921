import TranscriptSearch.Proofs.Screen.DrawnRows

namespace TranscriptSearch.TranscriptView

/-- The view once a search has turned to an item.  An item in the window leaves it as it is, and
any other one is put into the middle. -/
def turnTo (v : TranscriptView) (t : Transcript) (index : Nat) : TranscriptView :=
  if v.window.contains index then v else v.scrollToItem t index .center

/-- Turning to items one after the other.  In between the view may change as long as it stands
where it stood. -/
inductive Turns (t : Transcript) : TranscriptView → List Nat → TranscriptView → Prop where
  | nil {v after : TranscriptView} : v.StandsLike after → Turns t v [] after
  | cons {v put after : TranscriptView} {index : Nat} {rest : List Nat} :
      v.StandsLike put → Turns t (put.turnTo t index) rest after → Turns t v (index :: rest) after

/-- Whether no item that one view has rendered is another one in a later view. -/
def KeepsRendered (v after : TranscriptView) : Prop :=
  ∀ index : Nat, after.cells[index]? = v.cells[index]? ∨ v.cells[index]? = some none

variable {t : Transcript} {v between after : TranscriptView} {index : Nat} {indices : List Nat}

namespace KeepsRendered

theorem trans (h : v.KeepsRendered between) (h' : between.KeepsRendered after) :
    v.KeepsRendered after := by
  intro index
  rcases h index with hsame | hnone
  · rw [← hsame]
    exact h' index
  · exact .inr hnone

theorem lt_length (h : v.KeepsRendered after) (hindex : index < after.cells.length) :
    index < v.cells.length := by
  rcases h index with hsame | hnone
  · rw [List.getElem?_eq_getElem hindex] at hsame
    exact (List.getElem?_eq_some_iff.mp hsame.symm).1
  · exact (List.getElem?_eq_some_iff.mp hnone).1

theorem heightOf_eq (h : v.KeepsRendered between) (h' : between.KeepsRendered after)
    (hsame : after.heightOf index = v.heightOf index) :
    after.heightOf index = between.heightOf index := by
  rcases h index with hcell | hnone
  · rw [hsame, heightOf, heightOf, hcell]
  · rcases h' index with hcell | hnone'
    · rw [heightOf, heightOf, hcell]
    · rw [hsame, heightOf, heightOf, hnone, hnone']

end KeepsRendered

theorem StandsLike.keepsRendered (h : v.StandsLike after) : v.KeepsRendered after :=
  fun index => .inl (congrArg (·[index]?) h.cells_eq)

theorem Renders.keepsRendered (h : Renders t v after) : v.KeepsRendered after :=
  fun index => (h.cell index).imp_right And.left

theorem turnTo_eq_or_renders (v : TranscriptView) (t : Transcript) (index : Nat) :
    v.turnTo t index = v ∨
      ∃ offset, Renders t (v.moveBy (·.anchor offset v.height)) (v.turnTo t index) := by
  rw [turnTo]
  split
  · exact .inl rfl
  · rw [scrollToItem]
    split
    · exact .inr ⟨_, renders_measure _ t⟩
    · exact .inl rfl

theorem keepsRendered_turnTo (v : TranscriptView) (t : Transcript) (index : Nat) :
    v.KeepsRendered (v.turnTo t index) := by
  rcases v.turnTo_eq_or_renders t index with hsame | ⟨offset, hrenders⟩
  · rw [hsame]
    exact (StandsLike.refl v).keepsRendered
  · -- The move of the viewport leaves the cells alone.
    intro index
    exact hrenders.keepsRendered index

theorem IsInStep.turnTo (h : v.IsInStep) (t : Transcript) (index : Nat) :
    (v.turnTo t index).IsInStep := by
  rcases v.turnTo_eq_or_renders t index with hsame | ⟨offset, hrenders⟩
  · rwa [hsame]
  · exact hrenders.inStep h

namespace Turns

theorem keepsRendered (h : Turns t v indices after) : v.KeepsRendered after := by
  induction h with
  | nil hstands => exact hstands.keepsRendered
  | cons hstands _ ih =>
      exact hstands.keepsRendered.trans ((keepsRendered_turnTo _ t _).trans ih)

theorem isInStep (h : Turns t v indices after) (hstep : v.IsInStep) : after.IsInStep := by
  induction h with
  | nil hstands => exact hstands.isInStep hstep
  | cons hstands _ ih => exact ih ((hstands.isInStep hstep).turnTo t _)

theorem of_standsLike (hstands : v.StandsLike between) (h : Turns t between indices after) :
    Turns t v indices after := by
  cases h with
  | nil hlast => exact .nil (hstands.trans hlast)
  | cons hput hrest => exact .cons (hstands.trans hput) hrest

end Turns

/-- Turning to items from `start` on, up to the last one, which is put into the middle if it is
not in the window then. -/
structure Leads (t : Transcript) (v : TranscriptView) (start last : Nat) (earlier : List Nat)
    (turn after : TranscriptView) : Prop where
  before_last : ∀ index ∈ earlier, start ≤ index ∧ index < last
  turns : Turns t v earlier turn
  stands : turn.StandsLike after ∨
    turn.window.contains last = false ∧ (turn.scrollToItem t last .center).StandsLike after

namespace Leads

variable {start last : Nat} {earlier : List Nat} {turn later : TranscriptView}

theorem of_standsLike (hstands : v.StandsLike between)
    (h : Leads t between start last earlier turn after) :
    Leads t v start last earlier turn after where
  before_last := h.before_last
  turns := .of_standsLike hstands h.turns
  stands := h.stands

end Leads

end TranscriptSearch.TranscriptView
