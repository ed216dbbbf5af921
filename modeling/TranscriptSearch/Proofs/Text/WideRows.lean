import TranscriptSearch.Number.Sum
import TranscriptSearch.Proofs.Text.Lines

namespace TranscriptSearch.Text

theorem breakRow_of_wide {columnsOf : Char → Nat} {width : Nat} {cs : List Char} {used : Nat}
    (h : used + sumOf (cs.map columnsOf) ≤ width) (empty : Bool) :
    breakRow columnsOf width empty used cs = (cs, []) := by
  induction cs generalizing used empty with
  | nil => rfl
  | cons c cs ih =>
      simp only [List.map_cons, sumOf_cons] at h
      rw [breakRow, if_neg (by simp; omega), ih (by omega)]

theorem wrapColumns_of_wide {cs : List Char} {width : Nat}
    (h : sumOf (cs.map charColumns) ≤ width) : wrapColumns cs width = [cs] := by
  simp only [wrapColumns, breakColumns]
  rw [breakRow_of_wide (by omega)]

/-- The columns of words, each measured by itself. -/
def wordsColumns (ws : List Word) : Nat :=
  sumOf (ws.map fun word => columns word.gap + columns word.chars)

theorem fillRow_of_wide {ws : List Word} {width used : Nat} (h : used + wordsColumns ws ≤ width) :
    fillRow width used ws = (wordsText ws, []) := by
  induction ws generalizing used with
  | nil => rfl
  | cons word ws ih =>
      simp only [wordsColumns, List.map_cons, sumOf_cons] at h
      rw [fillRow, if_pos (by omega), ih (by simp only [wordsColumns]; omega)]
      rfl

theorem exists_wrapWords_of_wide (cs : List Char) :
    ∃ bound, ∀ width, bound ≤ width → wrapWords cs width = [trim cs] := by
  cases hwords : words cs with
  | nil =>
      refine ⟨1, fun width hwidth => ?_⟩
      rw [wrapWords, if_neg (by omega), hwords, trim_eq_nil_of_words hwords]
  | cons word rest =>
      refine ⟨columns word.chars + wordsColumns rest + 1, fun width hwidth => ?_⟩
      have hrow : wordRows width word.chars = [word.chars] := by
        rw [wordRows, if_pos (by omega)]
      have hfill : fillRow width (columns word.chars) rest = (wordsText rest, []) :=
        fillRow_of_wide (by omega)
      rw [wrapWords, if_neg (by omega), hwords, trim_eq_of_words hwords]
      simp [hrow, hfill, continueLast]

end TranscriptSearch.Text
