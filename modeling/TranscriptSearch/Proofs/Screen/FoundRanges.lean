import TranscriptSearch.Proofs.Screen.MatchedRows
import TranscriptSearch.Proofs.Text.Boundaries

namespace TranscriptSearch

open Text

namespace SearchTerm

theorem isInfix_fold_of_spanAt? {key before cs after : List Char} (hkey : key ≠ []) {place : Nat}
    (hplace : OccursAt key (fold (before ++ (cs ++ after))) place)
    (hspan : spanAt? (foldedChars 0 (before ++ (cs ++ after))) key.length place =
      some ⟨byteSize before, byteSize before + byteSize cs⟩) : key <:+: fold cs := by
  obtain ⟨first, last, hfirst, hlast, -, -, hrange⟩ := exists_of_spanAt? hkey hplace hspan
  obtain ⟨hstart, hstop⟩ := Span.mk.inj hrange
  have hpos := List.length_pos_iff.mpr hkey
  have hsize := start_lt_stop_of_getElem? hlast
  have hlength : ∀ offset cs, (foldedChars offset cs).length = (fold cs).length :=
    fun offset cs => by
    rw [← foldedChars_map_char offset, List.length_map]
  simp only [foldedChars_append, Nat.zero_add] at hfirst hlast
  -- A character before the range begins before it, and one behind the range begins behind it.
  have hbegin : (fold before).length ≤ place := by
    by_contra hlt
    rw [List.getElem?_append_left (by rw [hlength]; omega)] at hfirst
    obtain ⟨front, d, back, rfl, hbefore, -⟩ :=
      exists_of_mem_foldedChars (List.mem_of_getElem? hfirst)
    have hwidth := Char.utf8Size_pos d
    rw [byteSize_append, byteSize_cons] at hstart
    omega
  have hend : place + key.length ≤ (fold before).length + (fold cs).length := by
    by_contra hlt
    rw [List.getElem?_append_right (by rw [hlength]; omega),
      List.getElem?_append_right (by simp only [hlength]; omega)] at hlast
    obtain ⟨front, d, back, -, hbehind, -⟩ :=
      exists_of_mem_foldedChars (List.mem_of_getElem? hlast)
    omega
  obtain ⟨i, rfl⟩ := Nat.exists_eq_add_of_le hbegin
  rw [fold_append, occursAt_append_iff, OccursAt, fold_append,
    List.drop_append_of_le_length (by omega)] at hplace
  have hbegins :=
    List.prefix_of_prefix_length_le hplace (List.prefix_append _ _)
      (by rw [List.length_drop]; omega)
  exact hbegins.isInfix.trans (List.drop_suffix i _).isInfix

variable {term : SearchTerm} {text : String} {span : Span}

theorem exists_of_mem_spans (h : span ∈ term.spans text) :
    ∃ before cs after, text.toList = before ++ (cs ++ after) ∧ cs ≠ [] ∧
      span = ⟨byteSize before, byteSize before + byteSize cs⟩ ∧ term.key <:+: fold cs := by
  obtain ⟨before, cs, after, htext, hcs, hspan⟩ := (isRangeOf_of_mem_spans h).exists_eq
  obtain ⟨places, hplaces, hspans⟩ := term.exists_places text
  have hmem := List.mem_map_of_mem (f := some) h
  rw [hspans] at hmem
  obtain ⟨place, hplace, heq⟩ := List.mem_map.mp hmem
  have hoccurs := hplaces.occursAt place hplace
  rw [hspan] at heq
  rw [htext] at hoccurs heq
  exact ⟨before, cs, after, htext, hcs, hspan,
    isInfix_fold_of_spanAt? term.key_ne_nil hoccurs heq⟩

end SearchTerm

/-- Whether the byte of a row belongs to a span of which the text is searched. -/
def StyledLine.IsSearchableAt (line : StyledLine) (byte : Nat) : Prop :=
  ∃ before span after, line.spans = before ++ span :: after ∧ span.style.isSearchable = true ∧
    bytesOf (StyledLine.text ⟨before⟩) ≤ byte ∧
    byte < bytesOf (StyledLine.text ⟨before⟩) + bytesOf span.text

theorem StyledLine.IsSearchableAt.concat {before : List StyledSpan} {byte : Nat}
    (h : StyledLine.IsSearchableAt ⟨before⟩ byte) (span : StyledSpan) :
    StyledLine.IsSearchableAt ⟨before ++ [span]⟩ byte := by
  obtain ⟨front, shown, after, hspans, hrest⟩ := h
  refine ⟨front, shown, after ++ [span], ?_, hrest⟩
  change before = _ at hspans
  change before ++ [span] = _
  rw [hspans, List.append_assoc, List.cons_append]

/-- Whether all bytes of a run belong to spans of which the text is searched. -/
def SearchRun.IsSearchableIn (run : SearchRun) (line : StyledLine) : Prop :=
  ∀ byte, run.start ≤ byte → byte < run.start + bytesOf run.text → line.IsSearchableAt byte

theorem isSearchableIn_of_mem_runsFrom {line : StyledLine} {number : Nat} {run : SearchRun}
    (h : run ∈ runsFrom number 0 none line.spans) : run.IsSearchableIn line := by
  refine forall_mem_runsFrom (motive := fun before run => run.IsSearchableIn ⟨before⟩) ?_ ?_ ?_ h
  · intro before span run hrun byte hstart hstop
    exact (hrun byte hstart hstop).concat span
  · intro before span hsearchable byte hstart hstop
    rw [Nat.zero_add] at hstart hstop
    exact ⟨before, span, [], rfl, hsearchable, hstart, hstop⟩
  · intro before span run hsearchable hrun htouching byte hstart hstop
    rw [Nat.zero_add] at htouching
    rw [bytesOf_append] at hstop
    change byte < run.start + (bytesOf run.text + bytesOf span.text) at hstop
    by_cases hbefore : byte < run.start + bytesOf run.text
    · exact (hrun byte hstart hbefore).concat span
    · exact ⟨before, span, [], rfl, hsearchable, by omega, by omega⟩

theorem le_start_of_mem_runsFrom {spans : List StyledSpan} {line offset first : Nat}
    {current : Option SearchRun}
    (hoffset : first ≤ offset) (hcurrent : ∀ run ∈ current, first ≤ run.start) {run : SearchRun}
    (h : run ∈ runsFrom line offset current spans) : first ≤ run.start :=
  append_of_mem_runsFrom (motive := fun _ run => first ≤ run.start) (fun _ _ _ hrun => hrun)
    (fun _ _ _ => Nat.le_trans hoffset (Nat.le_add_right _ _)) (fun _ _ _ _ hrun _ => hrun)
      [] hcurrent h

theorem pairwise_runsFrom {spans : List StyledSpan} {line offset : Nat}
    {current : Option SearchRun}
    (hcurrent : ∀ run ∈ current, run.start + bytesOf run.text ≤ offset) :
    (runsFrom line offset current spans).Pairwise fun run next => run.start + bytesOf run.text ≤
      next.start := by
  induction spans generalizing offset current with
  | nil => cases current <;> simp [runsFrom]
  | cons span rest ih =>
      by_cases hhidden : (!span.style.isSearchable || span.text = "") = true
      · rw [runsFrom_cons_of_hidden hhidden]
        exact ih fun run hrun => Nat.le_trans (hcurrent run hrun) (Nat.le_add_right _ _)
      · by_cases htouching : ∃ last, current = some last ∧ last.start + bytesOf last.text = offset
        · obtain ⟨last, rfl, hend⟩ := htouching
          rw [runsFrom, if_neg hhidden, if_pos hend]
          refine ih ?_
          rintro run ⟨⟩
          rw [bytesOf_append, ← Nat.add_assoc, hend]
        · rw [runsFrom_cons_of_shown hhidden
            (fun last hlast hend => htouching ⟨last, hlast, hend⟩), List.pairwise_append]
          refine ⟨by cases current <;> simp, ih (by rintro run ⟨⟩; exact Nat.le_refl _), ?_⟩
          intro run hrun next hnext
          have hstart :=
            le_start_of_mem_runsFrom (Nat.le_add_right offset _)
              (by rintro run ⟨⟩; exact Nat.le_refl _)
            hnext
          exact Nat.le_trans (hcurrent run (Option.mem_toList.mp hrun)) hstart

/-- Whether an occurrence comes before another one. -/
def RowMatch.IsBefore (found later : RowMatch) : Prop :=
  found.line < later.line ∨ found.line = later.line ∧ found.start < later.start

/-- Whether an occurrence is a range of characters of a row, all of them searched, that holds the
term. -/
structure RowMatch.IsIn (found : RowMatch) (term : SearchTerm) (line : StyledLine) : Prop where
  isRangeOf : (⟨found.start, found.stop⟩ : Span).IsRangeOf line.text.toList
  key_isInfix : term.key <:+: fold ((⟨found.start, found.stop⟩ : Span).textOf line.text).toList
  isSearchableAt : ∀ byte, found.start ≤ byte → byte < found.stop → line.IsSearchableAt byte

namespace RenderedItem

theorem isIn_of_mem_runsFrom {line : StyledLine} {number : Nat} {run : SearchRun}
    (hrun : run ∈ runsFrom number 0 none line.spans) {term : SearchTerm} {span : Span}
    (hspan : span ∈ term.spans run.text) :
    RowMatch.IsIn ⟨run.line, run.start + span.start, run.start + span.stop⟩ term line := by
  obtain ⟨front, back, htext, hstart⟩ := standsIn_of_mem_runsFrom hrun
  obtain ⟨before, cs, after, hrunText, hcs, rfl, hkey⟩ := SearchTerm.exists_of_mem_spans hspan
  have hline : line.text.toList = (front.toList ++ before) ++ (cs ++ (after ++ back.toList)) := by
    simp [htext, hrunText]
  have hbegin : run.start + byteSize before = byteSize (front.toList ++ before) := by
    rw [byteSize_append, hstart, bytesOf]
  have hend : run.start + (byteSize before + byteSize cs) = byteSize (front.toList ++ before) +
      byteSize cs := by
    rw [← hbegin, Nat.add_assoc]
  have hbytes : byteSize before + byteSize cs ≤ bytesOf run.text := by
    rw [bytesOf, hrunText, byteSize_append, byteSize_append]
    omega
  refine ⟨?_, ?_, ?_⟩
  · rw [hline, hbegin, hend]
    exact Span.isRangeOf_append hcs
  · have hslice := Span.textOf_append_append (front.toList ++ before) cs (after ++ back.toList)
    rw [← hline, String.ofList_toList, ← hend, ← hbegin] at hslice
    rw [hslice, String.toList_ofList]
    exact hkey
  · intro byte hfirst hlast
    exact isSearchableIn_of_mem_runsFrom hrun byte (by simp only at hfirst; omega)
      (by simp only at hlast; omega)

theorem pairwise_runsOf (first : Nat) (lines : List StyledLine) :
    (runsOf first lines).Pairwise fun run next => run.line < next.line ∨
      run.line = next.line ∧ run.start + bytesOf run.text ≤ next.start := by
  induction lines generalizing first with
  | nil => exact .nil
  | cons line rest ih =>
      rw [runsOf, List.pairwise_append]
      refine ⟨(pairwise_runsFrom (by simp)).imp_of_mem ?_, ih (first + 1), ?_⟩
      · intro run next hrun hnext hle
        exact .inr ⟨(line_of_mem_runsFrom hrun).trans (line_of_mem_runsFrom hnext).symm, hle⟩
      · intro run hrun next hnext
        obtain ⟨i, -, -, hline, -⟩ := exists_of_mem_runsOf hnext
        have hfirst := line_of_mem_runsFrom hrun
        exact .inl (by omega)

theorem pairwise_occurrences (item : RenderedItem) (term : SearchTerm) :
    (item.occurrences term).Pairwise RowMatch.IsBefore := by
  rw [occurrences, List.pairwise_flatMap]
  constructor
  · intro run _
    rw [List.pairwise_map]
    refine (term.pairwise_spans run.text).imp fun hspans => .inr ⟨rfl, ?_⟩
    exact Nat.add_lt_add_left hspans.1.start_lt run.start
  · refine (pairwise_runsOf 0 item.lines).imp ?_
    intro run next hruns found hfound later hlater
    obtain ⟨span, hspan, rfl⟩ := List.mem_map.mp hfound
    obtain ⟨other, hother, rfl⟩ := List.mem_map.mp hlater
    rcases hruns with hline | ⟨hline, hle⟩
    · exact .inl hline
    · have hrange := SearchTerm.isRangeOf_of_mem_spans hspan
      have hstart : span.start < bytesOf run.text :=
        Nat.lt_of_lt_of_le hrange.start_lt_stop hrange.stop_le
      refine .inr ⟨hline, ?_⟩
      change run.start + span.start < next.start + other.start
      omega

/-- A term is found in the rows as often as it is counted, each time in searched characters of one
row, and one place after the other. -/
theorem occurrences_in_rows (item : RenderedItem) (term : SearchTerm) :
    (item.occurrences term).length = item.count term ∧
      (∀ n, item.locate? term n = none ↔ n = 0 ∨ item.count term < n) ∧
      (∀ n, 1 ≤ n → n ≤ item.count term → ∃ found, item.locate? term n = some found ∧
        (item.occurrences term)[n - 1]? = some found) ∧
      (∀ found ∈ item.occurrences term, ∃ line, item.lines[found.line]? = some line ∧
        found.IsIn term line) ∧
      (item.occurrences term).Pairwise RowMatch.IsBefore := by
  refine ⟨item.length_occurrences term, ?_, ?_, ?_, item.pairwise_occurrences term⟩
  · intro n
    rcases Nat.eq_zero_or_pos n with rfl | hn
    · simp [locate?]
    · have hsome := item.isSome_locate?_iff term hn
      rw [← Option.not_isSome_iff_eq_none, hsome]
      omega
  · intro n hn hcount
    obtain ⟨found, hfound⟩ :=
      Option.isSome_iff_exists.mp ((item.isSome_locate?_iff term hn).mpr hcount)
    refine ⟨found, hfound, ?_⟩
    rwa [locate?, if_neg (by omega)] at hfound
  · intro found hfound
    obtain ⟨run, hrun, hmem⟩ := List.mem_flatMap.mp hfound
    obtain ⟨span, hspan, rfl⟩ := List.mem_map.mp hmem
    obtain ⟨line, hline, hrow⟩ := exists_of_mem_runs hrun
    exact ⟨line, hline, isIn_of_mem_runsFrom hrow hspan⟩

/-- Two titles with a label and a guide between them, and then a word in two colours. -/
def joinedWords : RenderedItem where
  lines := [
    ⟨[⟨"• ", .guide⟩, ⟨"é ERR", .title⟩, ⟨"", .guide⟩, ⟨"or", .muted⟩, ⟨" error: ", .label⟩,
      ⟨"err", .title⟩]⟩,
    ⟨[⟨"or", .title⟩, ⟨"  ", .guide⟩, ⟨"Err", .plain⟩, ⟨"OR", .toolArgs⟩]⟩]

/-- The term is found across the empty guide and across the colours, but neither in the label nor
across the rows. -/
theorem occurrences_in_rows_joined : ∃ term, SearchTerm.ofString? "error" = some term ∧
    joinedWords.occurrences term = [⟨0, 7, 12⟩, ⟨1, 4, 9⟩] ∧ joinedWords.count term = 2 ∧
      joinedWords.locate? term 0 = none ∧ joinedWords.locate? term 2 = some ⟨1, 4, 9⟩ ∧
      joinedWords.locate? term 3 = none ∧
      ∃ line, joinedWords.lines[1]? = some line ∧ RowMatch.IsIn ⟨1, 4, 9⟩ term line := by
  have hterm : SearchTerm.ofString? "error" = some ⟨"error".toList, true, by decide⟩ :=
    SearchTerm.ofString?_eq_some_iff.mpr ⟨by decide, by decide⟩
  have hfound : joinedWords.occurrences ⟨"error".toList, true, by decide⟩ =
      [⟨0, 7, 12⟩, ⟨1, 4, 9⟩] := by
    decide +kernel
  obtain ⟨hlength, hnone, hsome, hrows, -⟩ :=
    occurrences_in_rows joinedWords ⟨"error".toList, true, by decide⟩
  rw [hfound] at hlength hsome hrows
  obtain ⟨found, hlocate, hsecond⟩ := hsome 2 (by decide) (by rw [← hlength]; decide)
  obtain rfl := Option.some.inj hsecond
  have hthird := (hnone 3).mpr (.inr (by rw [← hlength]; decide))
  exact ⟨_, hterm, hfound, hlength.symm, (hnone 0).mpr (.inl rfl), hlocate, hthird,
    hrows ⟨1, 4, 9⟩ (by simp)⟩

end RenderedItem

end TranscriptSearch
