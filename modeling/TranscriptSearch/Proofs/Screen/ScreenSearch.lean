import TranscriptSearch.Proofs.Screen.DrawnRows
import TranscriptSearch.Proofs.Screen.SearchRuns
import TranscriptSearch.Screen.Surface

namespace TranscriptSearch.ScreenSurface

open TranscriptView (Renders)

variable (s : ScreenSurface) (t : Transcript)

theorem renders_cell? (itemId : String) : Renders t s.view (s.cell? t itemId).2.view := by
  rw [cell?]
  split
  · exact .refl t s.view
  · exact s.view.renders_materialized t _

theorem renders_occurrenceCount (itemId term : String) :
    Renders t s.view (s.occurrenceCount t itemId term).2.view := by
  rw [occurrenceCount]
  split
  · exact .refl t s.view
  · exact s.renders_cell? t itemId

theorem renders_locate (itemId term : String) (n : Nat) :
    Renders t s.view (s.locate t itemId term n).2.view := by
  rw [locate]
  split
  · exact .refl t s.view
  · exact s.renders_cell? t itemId

theorem renders_spansOf (v : TranscriptView) (t : Transcript) (term : SearchTerm) (index : Nat) :
    Renders t v (spansOf v t term index).2 := by
  have hmaterialized := v.renders_materialized t index
  rw [spansOf]
  split
  · next hcell =>
      rw [hcell] at hmaterialized
      exact hmaterialized
  · next hcell =>
      rw [hcell] at hmaterialized
      split
      · exact hmaterialized
      · exact hmaterialized

theorem renders_spansIn (v : TranscriptView) (t : Transcript) (term : SearchTerm) (room : Nat)
    (indices : List Nat) : Renders t v (spansIn v t term room indices).2 := by
  induction indices generalizing v room with
  | nil => exact .refl t v
  | cons index indices ih =>
      rw [spansIn]
      split
      · exact .refl t v
      · exact (renders_spansOf v t term index).trans (ih _ _)

theorem renders_visibleOccurrences (term : String) (limit : Nat) :
    Renders t s.view (s.visibleOccurrences t term limit).2.view := by
  rw [visibleOccurrences]
  split
  · exact .refl t s.view
  · exact renders_spansIn s.view t _ limit _

section Measured

variable {s t} (h : s.view.WindowIsMeasured)

include h

theorem cell?_eq (itemId : String) : (s.cell? t itemId).2 = s := by
  rw [cell?]
  split
  · rfl
  · next index _ =>
      simp only [h.materialized_eq t index]

theorem occurrenceCount_eq (itemId term : String) : (s.occurrenceCount t itemId term).2 = s := by
  rw [occurrenceCount]
  split
  · rfl
  · exact cell?_eq h itemId

theorem locate_eq (itemId term : String) (n : Nat) : (s.locate t itemId term n).2 = s := by
  rw [locate]
  split
  · rfl
  · exact cell?_eq h itemId

omit h in
theorem spansOf_eq {v : TranscriptView} (h : v.WindowIsMeasured) (t : Transcript)
    (term : SearchTerm) (index : Nat) : (spansOf v t term index).2 = v := by
  have hmaterialized := h.materialized_eq t index
  rw [spansOf]
  split
  · next hcell =>
      rw [hcell] at hmaterialized
      exact hmaterialized
  · next hcell =>
      rw [hcell] at hmaterialized
      split
      · exact hmaterialized
      · exact hmaterialized

omit h in
theorem spansIn_eq {v : TranscriptView} (h : v.WindowIsMeasured) (t : Transcript)
    (term : SearchTerm) (room : Nat) (indices : List Nat) :
    (spansIn v t term room indices).2 = v := by
  induction indices generalizing room with
  | nil => rfl
  | cons index indices ih =>
      rw [spansIn]
      split
      · rfl
      · simp only [spansOf_eq h]
        exact ih _

theorem visibleOccurrences_eq (term : String) (limit : Nat) :
    (s.visibleOccurrences t term limit).2 = s := by
  rw [visibleOccurrences]
  split
  · rfl
  · simp only [spansIn_eq h]

end Measured

end TranscriptSearch.ScreenSurface
