import TranscriptSearch.Proofs.Screen.KeepingUp
import TranscriptSearch.Proofs.Screen.ScreenSearch

namespace TranscriptSearch

namespace TranscriptView

variable {t t' : Transcript} {v after : TranscriptView} {index : Nat}

theorem WindowIsMeasured.fst_materialized (h : v.WindowIsMeasured) (t : Transcript)
    (index : Nat) :
    (v.materialized t index).1 =
      if v.window.contains index then v.cells[index]?.join else none := by
  rw [materialized]
  split
  · next hcontains =>
      obtain ⟨item, hcell, hrendered⟩ := rendered_of_isMeasured t (h index hcontains)
      rw [hrendered, hcell]
      rfl
  · rfl

/-- Whether two views, each with its transcript, show the same items in the same window. -/
structure ShowsSame (t : Transcript) (v : TranscriptView) (t' : Transcript)
    (after : TranscriptView) :
    Prop where
  items_eq : t'.items = t.items
  window_eq : after.window = v.window
  cell_eq : ∀ index, v.window.contains index = true → after.cells[index]? = v.cells[index]?

namespace ShowsSame

theorem refl (t : Transcript) (v : TranscriptView) : ShowsSame t v t v :=
  ⟨rfl, rfl, fun _ _ => rfl⟩

theorem of_standsLike (h : v.StandsLike after) (t : Transcript) : ShowsSame t v t after :=
  ⟨rfl, h.window_eq, fun _ _ => by rw [h.cells_eq]⟩

theorem windowIsMeasured (h : ShowsSame t v t' after) (hmeasured : v.WindowIsMeasured) :
    after.WindowIsMeasured := by
  intro index hcontains
  rw [h.window_eq] at hcontains
  rw [isMeasured, h.cell_eq index hcontains]
  exact hmeasured index hcontains

theorem fst_materialized (h : ShowsSame t v t' after) (hmeasured : v.WindowIsMeasured)
    (index : Nat) :
    (after.materialized t' index).1 = (v.materialized t index).1 := by
  rw [hmeasured.fst_materialized, (h.windowIsMeasured hmeasured).fst_materialized, h.window_eq]
  split
  · next hcontains => rw [h.cell_eq index hcontains]
  · rfl

end ShowsSame

/-- A view in sync that still has its items shows what it showed, if it has the same window. -/
theorem KeepsItems.showsSame (h : v.KeepsItems after) (hv : v.IsFaithful t)
    (hafter : after.IsFaithful t')
    (hsync : after.InSync t') (hextends : t'.Extends t) (hmeasured : v.WindowIsMeasured)
    (hmeasured' : after.WindowIsMeasured) (hwindow : after.window = v.window) :
    ShowsSame t v t' after := by
  have hafterEpoch : v.epoch = t'.epoch := h.epoch_eq.symm.trans hsync.1
  -- No epoch has begun in between: the view would have taken it up.
  have hepoch : v.epoch = t.epoch := by
    have hle := hv.epoch_le
    have hle' := hextends.epoch_le
    omega
  have hgrown := hextends.prefix_items (hafterEpoch.symm.trans hepoch)
  have hitems : t'.items = t.items := by
    refine (hgrown.eq_of_length_le ?_).symm
    have hlength : v.cells.length ≤ t.size := hv.length_le hepoch
    rw [← h.length_eq, hsync.2] at hlength
    exact hlength
  refine ⟨hitems, hwindow, fun index hcontains => ?_⟩
  obtain ⟨rows, hrows⟩ := isMeasured_iff.mp (hmeasured index hcontains)
  obtain ⟨rows', hrows'⟩ := isMeasured_iff.mp (hmeasured' index (hwindow ▸ hcontains))
  obtain ⟨item, hitem, rfl⟩ := hv.cell_eq hepoch index rows hrows
  obtain ⟨item', hitem', rfl⟩ := hafter.cell_eq hsync.1 index rows' hrows'
  rw [Transcript.item?, hitems] at hitem'
  obtain rfl : item = item' := Option.some.inj (hitem.symm.trans hitem')
  rw [hrows, hrows', h.width_eq, h.options_eq]

end TranscriptView

namespace ScreenSurface

open TranscriptView (ShowsSame)

variable {t t' : Transcript} {v after : TranscriptView}

theorem fst_spansOf (v : TranscriptView) (t : Transcript) (term : SearchTerm) (index : Nat) :
    (spansOf v t term index).1 =
      match (v.materialized t index).1, t.item? index with
      | some cell, some item => (cell.occurrences term).map fun found =>
          ⟨item.id, index, found.line, found.start, found.stop⟩
      | _, _ => [] := by
  rw [spansOf]
  rcases v.materialized t index with ⟨_ | cell, after⟩
  · rfl
  · cases t.item? index <;> rfl

section Same

variable (h : ShowsSame t v t' after) (hmeasured : v.WindowIsMeasured)

include h hmeasured

theorem fst_spansOf_eq (term : SearchTerm) (index : Nat) :
    (spansOf after t' term index).1 = (spansOf v t term index).1 := by
  rw [fst_spansOf, fst_spansOf, h.fst_materialized hmeasured, Transcript.item?, h.items_eq]
  rfl

theorem fst_spansIn_eq (term : SearchTerm) (room : Nat) (indices : List Nat) :
    (spansIn after t' term room indices).1 = (spansIn v t term room indices).1 := by
  have hmeasured' := h.windowIsMeasured hmeasured
  induction indices generalizing room with
  | nil => rfl
  | cons index indices ih =>
      rw [spansIn, spansIn]
      split
      · rfl
      · simp only [spansOf_eq hmeasured, spansOf_eq hmeasured', fst_spansOf_eq h hmeasured, ih]

end Same

section Search

variable {s last : ScreenSurface} (h : ShowsSame t s.view t' last.view)
  (hmeasured : s.view.WindowIsMeasured)

include h hmeasured

theorem fst_visibleOccurrences_eq (term : String) (limit : Nat) :
    (last.visibleOccurrences t' term limit).1 = (s.visibleOccurrences t term limit).1 := by
  rw [visibleOccurrences, visibleOccurrences]
  split
  · rfl
  · simp only [h.window_eq, fst_spansIn_eq h hmeasured]

theorem fst_cell?_eq (itemId : String) : (last.cell? t' itemId).1 = (s.cell? t itemId).1 := by
  rw [cell?, cell?, Transcript.indexOf?, h.items_eq, ← Transcript.indexOf?]
  split
  · rfl
  · simp only [h.fst_materialized hmeasured]

theorem fst_locate_eq (itemId term : String) (n : Nat) :
    (last.locate t' itemId term n).1 = (s.locate t itemId term n).1 := by
  rw [locate, locate]
  split
  · rfl
  · simp only [fst_cell?_eq h hmeasured]

end Search

end ScreenSurface

end TranscriptSearch
