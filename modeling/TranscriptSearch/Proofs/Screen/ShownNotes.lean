import TranscriptSearch.Proofs.Screen.ShownLines

namespace TranscriptSearch

open Text

/-- A piece of text as it is drawn if it fits. -/
def StyledSpan.sanitized (span : StyledSpan) : StyledSpan :=
  ⟨.ofList (sanitize span.text.toList), span.style⟩

/-- The searchable ones of some pieces of text, each as a line. -/
def noteLines (spans : List StyledSpan) : List ShownLine :=
  (spans.filter (·.style.isSearchable)).map (⟨·.text.toList, false⟩)

theorem filledTexts_noteLines (spans : List StyledSpan) :
    filledTexts ((noteLines spans).map ShownLine.text) =
      ownTexts (spans.map StyledSpan.sanitized) := by
  induction spans with
  | nil => rfl
  | cons span spans ih =>
      have hown : ownTexts ((span :: spans).map StyledSpan.sanitized) =
          ownTexts [span.sanitized] ++ ownTexts (spans.map StyledSpan.sanitized) := by
        simp [ownTexts, List.filter_cons]
        split <;> simp
      have hlines : noteLines (span :: spans) = noteLines [span] ++ noteLines spans := by
        simp [noteLines, List.filter_cons]
        split <;> simp
      rw [hown, hlines, List.map_append, filledTexts_append, ih]
      congr 1
      by_cases hsearchable : span.style.isSearchable = true
      · by_cases hempty : sanitize span.text.toList = []
        · simp [noteLines, filledTexts, ownTexts, ShownLine.text, StyledSpan.sanitized, hempty]
        · simp [noteLines, filledTexts, ownTexts, ShownLine.text, StyledSpan.sanitized, hempty,
            hsearchable]
      · simp [noteLines, filledTexts, ownTexts, StyledSpan.sanitized, hsearchable]

theorem countIn_ownTexts_cons (term : SearchTerm) (span : StyledSpan) (rest : List StyledSpan) :
    term.countIn (ownTexts (span :: rest)) =
      (if span.style.isSearchable then term.count span.text else 0) +
        term.countIn (ownTexts rest) := by
  by_cases hempty : span.text = ""
  · simp [ownTexts, hempty]
  · by_cases hsearchable : span.style.isSearchable = true
    · simp [ownTexts, hempty, hsearchable]
    · simp [ownTexts, hsearchable]

namespace CellFrame

theorem fitSpans_of_wide {spans : List StyledSpan} {budget : Nat}
    (h : sumOf (spans.map fun span => columns (sanitize span.text.toList)) ≤ budget) :
    fitSpans budget spans = spans.map StyledSpan.sanitized := by
  induction spans generalizing budget with
  | nil => rfl
  | cons span rest ih =>
      simp only [List.map_cons, sumOf_cons] at h
      rw [fitSpans, if_pos (by omega), ih (by omega)]
      rfl

theorem countIn_fitSpans_le (term : SearchTerm) (budget : Nat) (spans : List StyledSpan) :
    term.countIn (ownTexts (fitSpans budget spans)) ≤
      term.countIn (ownTexts (spans.map StyledSpan.sanitized)) := by
  induction spans generalizing budget with
  | nil => exact Nat.le_refl _
  | cons span rest ih =>
      rw [fitSpans, List.map_cons, countIn_ownTexts_cons]
      split
      · rw [countIn_ownTexts_cons]
        exact Nat.add_le_add_left (ih _) _
      · have hclip := term.countChars_le_of_pieces
          (pieces_of_isPrefix (prefix_clip (budget - 1) (sanitize span.text.toList)))
        rw [SearchTerm.countChars_cons, SearchTerm.countChars_nil, Nat.add_zero] at hclip
        rw [countIn_ownTexts_cons, countIn_ownTexts_cons]
        by_cases hsearchable : span.style.isSearchable = true
        · simp only [StyledSpan.sanitized, hsearchable, if_true]
          simp [ownTexts]
          omega
        · simp [ownTexts, hsearchable]

theorem standApart_fitSpans {touching : Bool} {spans : List StyledSpan}
    (h : StandApart touching (spans.map StyledSpan.sanitized)) (budget : Nat) :
    StandApart touching (fitSpans budget spans) := by
  induction spans generalizing touching budget with
  | nil => trivial
  | cons span rest ih =>
      rw [List.map_cons, StandApart] at h
      rw [fitSpans]
      split
      · change StandApart touching (span.sanitized :: fitSpans _ rest)
        rw [StandApart]
        by_cases hempty : span.sanitized.text = ""
        · rw [if_pos hempty] at h ⊢
          exact ih h _
        · rw [if_neg hempty] at h ⊢
          by_cases hsearchable : span.sanitized.style.isSearchable = true
          · rw [if_pos hsearchable] at h ⊢
            exact ⟨h.1, ih h.2 _⟩
          · rw [if_neg hsearchable] at h ⊢
            exact ih h _
      · -- The piece that is cut off keeps its style, so it may stand where the whole one stood.
        obtain ⟨tail, htail⟩ := prefix_clip (budget - 1) (sanitize span.text.toList)
        by_cases hclip : clip (budget - 1) (sanitize span.text.toList) = []
        · simp [StandApart, hclip]
        · have hfilled : sanitize span.text.toList ≠ [] := by
            rw [← htail]
            simp [hclip]
          have hempty : span.sanitized.text ≠ "" := by
            simp [StyledSpan.sanitized, hfilled]
          have hstyle : span.sanitized.style = span.style := rfl
          rw [if_neg hempty, hstyle] at h
          by_cases hsearchable : span.style.isSearchable = true
          · rw [if_pos hsearchable] at h
            simp [StandApart, hsearchable, h.1]
          · simp [StandApart, hsearchable]

theorem madeFrom_note {spans : List StyledSpan}
    (h : StandApart false (spans.map StyledSpan.sanitized)) :
    MadeFrom (fun frame => [frame.note spans]) (noteLines spans) where
  apart frame row hrow := by
    rw [List.mem_singleton.mp hrow]
    simpa [note, StandApart] using standApart_fitSpans h frame.width
  count_le frame term _ := by
    have hcut := countIn_fitSpans_le term frame.width spans
    rw [← filledTexts_noteLines, countIn_filledTexts] at hcut
    simpa [searchedTexts, note, countIn_ownTexts_cons] using hcut
  wide := by
    refine ⟨sumOf (spans.map fun span => columns (sanitize span.text.toList)),
      fun frame hframe => ?_⟩
    rw [filledTexts_noteLines, ← fitSpans_of_wide hframe]
    simp [searchedTexts, note, ownTexts]

theorem madeFrom_label (text : String) (style : Style) (hstyle : style.isSearchable = false) :
    MadeFrom (fun frame => [frame.note [⟨text, style⟩]]) [] := by
  have h : StandApart false ([⟨text, style⟩].map StyledSpan.sanitized) := by
    simp [StandApart, StyledSpan.sanitized, hstyle]
  simpa [noteLines, hstyle] using madeFrom_note h

theorem madeFrom_heading (text : String) (style : Style) (hstyle : style.isSearchable = true) :
    MadeFrom (fun frame => [frame.note [⟨text, style⟩]]) [⟨text.toList, false⟩] := by
  have h : StandApart false ([⟨text, style⟩].map StyledSpan.sanitized) := by
    simp [StandApart]
  simpa [noteLines, hstyle] using madeFrom_note h

theorem madeFrom_preview (text : String) (limit : Nat) (style : Style)
    (hstyle : style.isSearchable = true) :
    MadeFrom (·.preview text limit style) (previewLines limit text.toList) := by
  by_cases hblank : allBlank text.toList = true
  · simpa [preview, previewLines, hblank] using MadeFrom.nil
  · have hraw := madeFrom_raw (unlines ((lines text.toList).take limit)) style hstyle
    by_cases hhidden : (lines text.toList).length - limit = 0
    · simpa [preview, previewLines, hblank, hhidden] using hraw
    · simp only [preview, previewLines, hblank, hhidden, if_false, Bool.false_eq_true]
      rw [← List.append_nil (shownLines _ _)]
      exact hraw.append (madeFrom_label _ .truncation rfl)

end CellFrame

theorem standApart_names (names : List StyledSpan) {between behind : StyledSpan}
    (hbetween : between.style.isSearchable = false) (hbehind : behind.style.isSearchable = false)
    (hfilled : between.sanitized.text ≠ "") :
    StandApart false ((names.intersperse between ++ [behind]).map StyledSpan.sanitized) := by
  have hbetween' : between.sanitized.style.isSearchable = false := hbetween
  have hbehind' : behind.sanitized.style.isSearchable = false := hbehind
  induction names with
  | nil => simp [StandApart, hbehind']
  | cons name names ih =>
      cases names with
      | nil => simp [StandApart, hbehind']
      | cons next names =>
          rw [List.intersperse_cons_cons, List.cons_append, List.cons_append, List.map_cons,
            List.map_cons]
          simp only [StandApart, hbetween', hfilled, ih, if_false, Bool.false_eq_true, and_self,
            ite_self]

theorem filter_isSearchable_names (names : List StyledSpan) {between behind : StyledSpan}
    (hnames : ∀ name ∈ names, name.style.isSearchable = true)
    (hbetween : between.style.isSearchable = false)
    (hbehind : behind.style.isSearchable = false) :
    (names.intersperse between ++ [behind]).filter (·.style.isSearchable) = names := by
  induction names with
  | nil => simp [hbehind]
  | cons name names ih =>
      cases names with
      | nil => simp [hbehind, hnames name (by simp)]
      | cons next names =>
          have hrest := ih fun name hname => hnames name (by simp [hname])
          simp only [List.intersperse_cons_cons, List.cons_append]
          simp [hbetween, hnames name (by simp), hrest]

/-- The names of arguments, each as a line. -/
def nameLines (arguments : Members) : List ShownLine :=
  arguments.map fun argument => ⟨argument.1.toList, false⟩

theorem CellFrame.madeFrom_argumentSummary (arguments : Members) :
    MadeFrom (fun frame => [frame.note (argumentSummary arguments)]) (nameLines arguments) := by
  let names := arguments.map fun argument => (⟨argument.1, .toolArgs⟩ : StyledSpan)
  have hnames : ∀ name ∈ names, name.style.isSearchable = true := by
    intro name hname
    obtain ⟨argument, -, rfl⟩ := List.mem_map.mp hname
    rfl
  have hfilled : (⟨", ", .label⟩ : StyledSpan).sanitized.text ≠ "" := by decide
  have hlines : noteLines (argumentSummary arguments) = nameLines arguments := by
    rw [argumentSummary, noteLines, List.cons_append, List.filter_cons_of_neg (by simp),
      filter_isSearchable_names names hnames isSearchable_label isSearchable_label]
    simp [names, nameLines]
  rw [← hlines]
  apply madeFrom_note
  rw [argumentSummary, List.cons_append, List.map_cons, StandApart]
  split
  · exact standApart_names names isSearchable_label isSearchable_label hfilled
  · exact standApart_names names isSearchable_label isSearchable_label hfilled

end TranscriptSearch
