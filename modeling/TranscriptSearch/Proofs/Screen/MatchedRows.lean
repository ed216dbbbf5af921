import TranscriptSearch.Proofs.Match.MatchedTexts
import TranscriptSearch.Proofs.Screen.SearchRuns

namespace TranscriptSearch

namespace RenderedItem

/-- The text in the rows that is matched by an occurrence. -/
def textAt (item : RenderedItem) (found : RowMatch) : String :=
  (⟨found.start, found.stop⟩ : Span).textOf (item.texts.getD found.line "")

/-- The texts that are matched in the rows, in the order in which they are drawn. -/
def matchedTexts (item : RenderedItem) (term : SearchTerm) : List String :=
  (item.occurrences term).map item.textAt

end RenderedItem

/-- Whether a run stands in a text at its offset. -/
def SearchRun.StandsIn (run : SearchRun) (text : String) : Prop :=
  ∃ before after, text = before ++ (run.text ++ after) ∧ run.start = bytesOf before

namespace SearchRun.StandsIn

variable {run : SearchRun} {text : String}

theorem append (h : run.StandsIn text) (more : String) : run.StandsIn (text ++ more) := by
  obtain ⟨before, after, rfl, hstart⟩ := h
  exact ⟨before, after ++ more, by simp only [String.append_assoc], hstart⟩

theorem extend (h : run.StandsIn text) (hend : run.start + bytesOf run.text = bytesOf text)
    (more : String) :
    SearchRun.StandsIn { run with text := run.text ++ more } (text ++ more) := by
  obtain ⟨before, after, rfl, hstart⟩ := h
  rw [bytesOf_append, bytesOf_append, hstart] at hend
  have hafter : after = "" := by
    by_cases hfilled : after = ""
    · exact hfilled
    · have hpos := bytesOf_pos hfilled
      omega
  subst hafter
  exact ⟨before, "", by simp only [String.append_assoc, String.append_empty], hstart⟩

end SearchRun.StandsIn

theorem standsIn_of_mem_runsFrom {line : StyledLine} {number : Nat} {run : SearchRun}
    (h : run ∈ runsFrom number 0 none line.spans) : run.StandsIn line.text := by
  refine forall_mem_runsFrom
    (motive := fun before run => run.StandsIn (StyledLine.text ⟨before⟩)) ?_ ?_ ?_ h
  · intro before span run hrun
    rw [text_concat]
    exact hrun.append span.text
  · intro before span _
    rw [text_concat, Nat.zero_add]
    exact ⟨StyledLine.text ⟨before⟩, "", by rw [String.append_empty], rfl⟩
  · intro before span run _ hrun htouching
    rw [Nat.zero_add] at htouching
    rw [text_concat]
    exact hrun.extend htouching span.text

namespace RenderedItem

theorem matchedTexts_eq (item : RenderedItem) (term : SearchTerm) :
    item.matchedTexts term = term.matchedTexts (item.runs.map SearchRun.text) := by
  rw [matchedTexts, occurrences, SearchTerm.matchedTexts_eq_flatMap, List.map_flatMap,
    List.flatMap_map, List.flatMap_def, List.flatMap_def]
  congr 1
  apply List.map_congr_left
  intro run hrun
  obtain ⟨line, hline, hmem⟩ := exists_of_mem_runs hrun
  have hrow : item.texts.getD run.line "" = line.text := by simp [texts, hline]
  obtain ⟨before, after, htext, hstart⟩ := standsIn_of_mem_runsFrom hmem
  rw [← hrow] at htext
  rw [SearchTerm.matchedIn, List.map_map]
  apply List.map_congr_left
  intro span hspan
  change (Span.mk _ _).textOf (item.texts.getD run.line "") = _
  rw [htext, hstart]
  exact term.textOf_shift hspan before after

theorem length_matchedTexts (item : RenderedItem) (term : SearchTerm) :
    (item.matchedTexts term).length = item.count term := by
  rw [matchedTexts_eq, SearchTerm.length_matchedTexts, count_eq_countIn]

theorem length_occurrences (item : RenderedItem) (term : SearchTerm) :
    (item.occurrences term).length = item.count term := by
  rw [← item.length_matchedTexts, matchedTexts, List.length_map]

theorem isSome_locate?_iff (item : RenderedItem) (term : SearchTerm) {n : Nat}
    (hn : 1 ≤ n) : (item.locate? term n).isSome = true ↔ n ≤ item.count term := by
  rw [locate?, if_neg (by omega), ← item.length_occurrences, isSome_getElem?]
  omega

theorem map_locate? (item : RenderedItem) (term : SearchTerm) (n : Nat) :
    (item.locate? term n).map item.textAt =
      if n = 0 then none else (item.matchedTexts term)[n - 1]? := by
  rw [locate?, matchedTexts, List.getElem?_map]
  split <;> rfl

end RenderedItem

end TranscriptSearch
