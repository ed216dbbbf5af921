import TranscriptSearch.Match.Segments
import TranscriptSearch.Screen.RenderedItem

namespace TranscriptSearch

@[simp] theorem isSearchable_guide : Style.guide.isSearchable = false := rfl

@[simp] theorem isSearchable_truncation : Style.truncation.isSearchable = false := rfl

@[simp] theorem isSearchable_label : Style.label.isSearchable = false := rfl

/-- Whether no two searchable pieces touch, where `touching` says that one has ended just
before. -/
def StandApart : Bool → List StyledSpan → Prop
  | _, [] => True
  | touching, span :: rest =>
      if span.text = "" then StandApart touching rest
      else if span.style.isSearchable then touching = false ∧ StandApart true rest
      else StandApart false rest

/-- The pieces of searchable text that are not empty. -/
def ownTexts (spans : List StyledSpan) : List String :=
  (spans.filter fun span => span.style.isSearchable && span.text != "").map StyledSpan.text

theorem bytesOf_pos {text : String} (h : text ≠ "") : 0 < bytesOf text := by
  have hne : text.toList ≠ [] := mt String.toList_eq_nil_iff.mp h
  obtain ⟨c, cs, hcs⟩ := List.exists_cons_of_ne_nil hne
  have hpos := Char.utf8Size_pos c
  rw [bytesOf, hcs, Text.byteSize_cons]
  omega

theorem runsFrom_cons_of_hidden {span : StyledSpan}
    (h : (!span.style.isSearchable || span.text = "") = true) (line offset : Nat)
    (current : Option SearchRun) (rest : List StyledSpan) :
    runsFrom line offset current (span :: rest) =
      runsFrom line (offset + bytesOf span.text) current rest := by
  cases current <;> rw [runsFrom, if_pos h]

theorem runsFrom_cons_of_shown {span : StyledSpan}
    (h : ¬ (!span.style.isSearchable || span.text = "") = true) {line offset : Nat}
    {current : Option SearchRun}
    (hcurrent : ∀ run, current = some run → run.start + bytesOf run.text ≠ offset)
    (rest : List StyledSpan) :
    runsFrom line offset current (span :: rest) =
      current.toList ++
        runsFrom line (offset + bytesOf span.text) (some ⟨line, offset, span.text⟩) rest := by
  cases current with
  | none => rw [runsFrom, if_neg h, Option.toList_none, List.nil_append]
  | some run => rw [runsFrom, if_neg h, if_neg (hcurrent run rfl), Option.toList_some,
      List.singleton_append]

theorem runsFrom_map_text {spans : List StyledSpan} {touching : Bool}
    (h : StandApart touching spans) {line offset : Nat} {current : Option SearchRun}
    (hbefore : ∀ run, current = some run → run.start + bytesOf run.text ≤ offset)
    (htouching : touching = false →
      ∀ run, current = some run → run.start + bytesOf run.text ≠ offset) :
    (runsFrom line offset current spans).map SearchRun.text =
      current.toList.map SearchRun.text ++ ownTexts spans := by
  induction spans generalizing touching offset current with
  | nil => simp [runsFrom, ownTexts]
  | cons span rest ih =>
      by_cases hempty : span.text = ""
      · have hbytes : offset + bytesOf span.text = offset := by
          rw [hempty]
          rfl
        rw [StandApart, if_pos hempty] at h
        rw [runsFrom_cons_of_hidden (by simp [hempty]), hbytes, ih h hbefore htouching]
        simp [ownTexts, hempty]
      · have hpos := bytesOf_pos hempty
        rw [StandApart, if_neg hempty] at h
        by_cases hsearchable : span.style.isSearchable = true
        · rw [if_pos hsearchable] at h
          rw [runsFrom_cons_of_shown (by simp [hsearchable, hempty]) (htouching h.1),
            List.map_append, ih h.2 (by rintro run ⟨⟩; exact Nat.le_refl _) (by simp)]
          simp [ownTexts, hsearchable, hempty]
        · rw [if_neg hsearchable] at h
          have hnext : ∀ run, current = some run →
              run.start + bytesOf run.text < offset + bytesOf span.text := by
            intro run hrun
            have := hbefore run hrun
            omega
          rw [runsFrom_cons_of_hidden (by simp [hsearchable]),
            ih h (fun run hrun => Nat.le_of_lt (hnext run hrun))
              (fun _ run hrun => Nat.ne_of_lt (hnext run hrun))]
          simp [ownTexts, hsearchable]

theorem bytesOf_append (a b : String) : bytesOf (a ++ b) = bytesOf a + bytesOf b := by
  rw [bytesOf, String.toList_append, Text.byteSize_append]
  rfl

theorem text_concat (before : List StyledSpan) (span : StyledSpan) :
    StyledLine.text ⟨before ++ [span]⟩ = StyledLine.text ⟨before⟩ ++ span.text := by
  simp [StyledLine.text]

section Induction

variable {line offset : Nat} {motive : List StyledSpan → SearchRun → Prop}
  (more : ∀ before span run, motive before run → motive (before ++ [span]) run)
  (new : ∀ before span, span.style.isSearchable = true →
    motive (before ++ [span]) ⟨line, offset + bytesOf (StyledLine.text ⟨before⟩), span.text⟩)
  (extend : ∀ before span run, span.style.isSearchable = true → motive before run →
    run.start + bytesOf run.text = offset + bytesOf (StyledLine.text ⟨before⟩) →
      motive (before ++ [span]) { run with text := run.text ++ span.text })

include more in
theorem append_of_more (spans : List StyledSpan) {before : List StyledSpan} {run : SearchRun}
    (h : motive before run) : motive (before ++ spans) run := by
  induction spans generalizing before with
  | nil => rwa [List.append_nil]
  | cons span rest ih =>
      rw [List.append_cons]
      exact ih (more before span run h)

include more new extend

theorem append_of_mem_runsFrom (before : List StyledSpan) {spans : List StyledSpan}
    {current : Option SearchRun}
    (hcurrent : ∀ run ∈ current, motive before run) {run : SearchRun}
    (h : run ∈ runsFrom line (offset + bytesOf (StyledLine.text ⟨before⟩)) current spans) :
    motive (before ++ spans) run := by
  induction spans generalizing before current with
  | nil =>
      rw [List.append_nil]
      exact hcurrent run (by simpa [runsFrom] using h)
  | cons span rest ih =>
      have hnext : offset + bytesOf (StyledLine.text ⟨before⟩) + bytesOf span.text =
          offset + bytesOf (StyledLine.text ⟨before ++ [span]⟩) := by
        rw [text_concat, bytesOf_append, Nat.add_assoc]
      have hkept : ∀ run ∈ current, motive (before ++ [span]) run :=
        fun run hrun => more before span run (hcurrent run hrun)
      rw [List.append_cons]
      by_cases hhidden : (!span.style.isSearchable || span.text = "") = true
      · rw [runsFrom_cons_of_hidden hhidden, hnext] at h
        exact ih _ hkept h
      · have hsearchable : span.style.isSearchable = true := by
          simp only [Bool.or_eq_true, not_or, Bool.not_eq_true, Bool.not_eq_false'] at hhidden
          exact hhidden.1
        by_cases htouching : ∃ last, current = some last ∧
            last.start + bytesOf last.text = offset + bytesOf (StyledLine.text ⟨before⟩)
        · obtain ⟨last, rfl, hend⟩ := htouching
          have hlast := extend before span last hsearchable (hcurrent last rfl) hend
          rw [runsFrom, if_neg hhidden, if_pos hend, hnext] at h
          exact ih _ (by rintro run ⟨⟩; exact hlast) h
        · have hspan := new before span hsearchable
          rw [runsFrom_cons_of_shown hhidden
            (fun last hlast hend => htouching ⟨last, hlast, hend⟩), hnext] at h
          rcases List.mem_append.mp h with hdone | hrest
          · exact append_of_more more rest (hkept run (Option.mem_toList.mp hdone))
          · exact ih _ (by rintro run ⟨⟩; exact hspan) hrest

/-- What holds of each searchable span as a run of its own, and stays when such a span is put to a
run that it touches, holds of the runs of a row.  It may depend on the spans that have been gone
through. -/
theorem forall_mem_runsFrom {spans : List StyledSpan} {run : SearchRun}
    (h : run ∈ runsFrom line offset none spans) :
    motive spans run :=
  append_of_mem_runsFrom more new extend [] (by simp) h

end Induction

theorem line_of_mem_runsFrom {spans : List StyledSpan} {line offset : Nat} {run : SearchRun}
    (h : run ∈ runsFrom line offset none spans) : run.line = line :=
  forall_mem_runsFrom (motive := fun _ run => run.line = line) (fun _ _ _ hrun => hrun)
    (fun _ _ _ => rfl) (fun _ _ _ _ hrun _ => hrun) h

namespace RenderedItem

theorem count_eq_countIn (item : RenderedItem) (term : SearchTerm) :
    item.count term = term.countIn (item.runs.map SearchRun.text) := by
  simp only [count, SearchTerm.countIn, List.map_map, Function.comp_def]

theorem runsOf_map_text {lines : List StyledLine}
    (h : ∀ line ∈ lines, StandApart false line.spans) (first : Nat) :
    (runsOf first lines).map SearchRun.text = lines.flatMap (ownTexts ·.spans) := by
  induction lines generalizing first with
  | nil => rfl
  | cons line rest ih =>
      have hrest : ∀ line ∈ rest, StandApart false line.spans :=
        fun line hline => h line (by simp [hline])
      rw [runsOf, List.map_append, ih hrest,
        runsFrom_map_text (h line (by simp)) (by simp) (by simp)]
      rfl

theorem runs_map_text {lines : List StyledLine}
    (h : ∀ line ∈ lines, StandApart false line.spans) :
    (RenderedItem.mk lines).runs.map SearchRun.text = lines.flatMap (ownTexts ·.spans) :=
  runsOf_map_text h 0

theorem exists_of_mem_runsOf {first : Nat} {lines : List StyledLine} {run : SearchRun}
    (h : run ∈ runsOf first lines) :
    ∃ i line, lines[i]? = some line ∧ run.line = first + i ∧
      run ∈ runsFrom run.line 0 none line.spans := by
  induction lines generalizing first with
  | nil => simp [runsOf] at h
  | cons line rest ih =>
      rcases List.mem_append.mp h with hfirst | hrest
      · have hline := line_of_mem_runsFrom hfirst
        exact ⟨0, line, rfl, hline, hline ▸ hfirst⟩
      · obtain ⟨i, later, hlater, hline, hrun⟩ := ih hrest
        exact ⟨i + 1, later, by simpa using hlater, by omega, hrun⟩

theorem exists_of_mem_runs {item : RenderedItem} {run : SearchRun} (h : run ∈ item.runs) :
    ∃ line, item.lines[run.line]? = some line ∧ run ∈ runsFrom run.line 0 none line.spans := by
  obtain ⟨i, line, hline, hnumber, hrun⟩ := exists_of_mem_runsOf h
  rw [Nat.zero_add] at hnumber
  exact ⟨line, hnumber ▸ hline, hrun⟩

end RenderedItem

end TranscriptSearch
