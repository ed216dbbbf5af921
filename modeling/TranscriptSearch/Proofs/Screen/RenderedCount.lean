import TranscriptSearch.Proofs.Screen.VerbatimTexts

namespace TranscriptSearch

open Text

namespace Event

/-- The lines that are drawn of an event, as they look where nothing is broken. -/
def drawnTexts (options : CellOptions) (event : Event) : List (List Char) :=
  ((event.shown options).flatMap ShownText.lines).map ShownLine.text

theorem madeFrom_rows (event : Event) (options : CellOptions) :
    MadeFrom (fun frame =>
      frame.header event.drawnTitle event.titleStyle ++ event.bodyRows frame options)
      ((event.shown options).flatMap ShownText.lines) := by
  have hbody := event.madeFrom_bodyRows options
  by_cases hunknown : event = .unknown
  · subst hunknown
    exact (CellFrame.madeFrom_header_label "(unrecognized event)").append hbody
  · have hheader := CellFrame.madeFrom_header event.title event.titleStyle
      (isSearchable_titleStyle hunknown)
    cases event with
    | unknown => exact absurd rfl hunknown
    | _ => exact hheader.append hbody

theorem countIn_map_data_shown (event : Event) (options : CellOptions) (term : SearchTerm) :
    term.countIn ((event.shown options).map ShownText.data) = term.countIn event.texts := by
  have hfilter : ∀ texts : List String,
      term.countIn (texts.filter (· ≠ "")) = term.countIn texts := by
    intro texts
    induction texts with
    | nil => rfl
    | cons text texts ih =>
        by_cases hempty : text = ""
        · simpa [hempty] using ih
        · simpa [hempty] using ih
  have htexts : term.countIn (event.title :: (event.shownFields options).map ShownText.data) =
      term.countIn ((event.title :: event.fields).filter (· ≠ "")) := by
    rw [hfilter, map_data_shownFields]
  cases event with
  | unknown => rfl
  | spanEnd id => simp [shown, shownFields, fields, texts, title, ShownText.heading]
  | _ => exact htexts

theorem countChars_drawnTexts_le {options : CellOptions} {event : Event}
    (h : event.IsDrawnVerbatim options) (term : SearchTerm) :
    term.countChars (event.drawnTexts options) ≤ term.countIn event.texts := by
  have hle : ∀ texts : List ShownText, (∀ text ∈ texts, text ∈ event.shown options) →
      term.countChars ((texts.flatMap ShownText.lines).map ShownLine.text) ≤
        term.countIn (texts.map ShownText.data) := by
    intro texts htexts
    induction texts with
    | nil => exact Nat.le_refl _
    | cons text texts ih =>
        have hshown := htexts text (by simp)
        have hrest := ih fun text htext => htexts text (by simp [htext])
        have htext := term.countChars_le_of_pieces
          (ShownLine.pieces_map_text (h.lines text hshown) (isCut_of_mem_shown h.names hshown))
        rw [String.ofList_toList] at htext
        simp only [List.flatMap_cons, List.map_append, SearchTerm.countChars_append,
          List.map_cons, SearchTerm.countIn_cons]
        omega
  rw [← countIn_map_data_shown]
  exact hle _ fun _ htext => htext

end Event

theorem CellFrame.exists_wide (depth bound : Nat) :
    ∃ wide, ∀ width, wide ≤ width → bound ≤ (CellFrame.new depth width).width := by
  let indent := String.join (List.replicate (min depth maxLevel) levelIndent)
  let taken := columns indent.toList + columns marker.toList
  refine ⟨bound + taken, ?_⟩
  intro width hwidth
  change bound ≤ max (width - taken) minWidth
  omega

namespace Item

theorem count_render (item : Item) (width : Nat) (options : CellOptions) (term : SearchTerm) :
    (item.render width options).count term =
      term.countIn (searchedTexts
        ((CellFrame.new item.depth width).header item.event.drawnTitle item.event.titleStyle ++
          item.event.bodyRows (CellFrame.new item.depth width) options)) := by
  have hapart := (item.event.madeFrom_rows options).apart (CellFrame.new item.depth width)
  rw [RenderedItem.count_eq_countIn, render, RenderedItem.runs_map_text hapart]
  rfl

theorem count_render_le (item : Item) (width : Nat) (options : CellOptions) (term : SearchTerm) :
    (item.render width options).count term ≤ term.countChars (item.event.drawnTexts options) := by
  have hwidth : 0 < (CellFrame.new item.depth width).width :=
    Nat.lt_of_lt_of_le (by decide) (Nat.le_max_right _ CellFrame.minWidth)
  rw [count_render]
  exact (item.event.madeFrom_rows options).count_le _ term hwidth

theorem exists_count_render_eq (item : Item) (options : CellOptions) :
    ∃ width, ∀ term : SearchTerm,
      (item.render width options).count term =
        term.countChars (item.event.drawnTexts options) := by
  obtain ⟨bound, hbound⟩ := (item.event.madeFrom_rows options).wide
  obtain ⟨wide, hwide⟩ := CellFrame.exists_wide item.depth bound
  refine ⟨wide, ?_⟩
  intro term
  rw [count_render, hbound _ (hwide wide (Nat.le_refl _)), countIn_filledTexts]
  rfl

/-- An item that is drawn as it stands never shows more occurrences than its data holds.  Any
other item does so for a term just if the lines that are drawn of it hold more occurrences of the
term than the data. -/
theorem count_render_le_countIn_texts (item : Item) (options : CellOptions) :
    (item.event.IsDrawnVerbatim options → ∀ (width : Nat) (term : SearchTerm),
        (item.render width options).count term ≤ term.countIn item.texts) ∧
      ∀ term : SearchTerm,
        (∀ width, (item.render width options).count term ≤ term.countIn item.texts) ↔
          term.countChars (item.event.drawnTexts options) ≤ term.countIn item.texts := by
  constructor
  · intro hverbatim width term
    have hdata := Event.countChars_drawnTexts_le hverbatim term
    exact Nat.le_trans (item.count_render_le width options term) hdata
  · intro term
    constructor
    · intro h
      obtain ⟨width, hwidth⟩ := item.exists_count_render_eq options
      rw [← hwidth term]
      exact h width
    · intro h width
      exact Nat.le_trans (item.count_render_le width options term) h

/-- A tool call whose arguments are drawn by name and whose result is cut off. -/
def searchCall : Item where
  id := "item-1"
  depth := 1
  timestamp := none
  event := .tool "call-1" "grep" [("pattern", .string "error\t"), ("path", .string "log")] none
    (.string "error one\nerror two\nerror three") none

theorem searchCall_count_le :
    searchCall.event.IsDrawnVerbatim ⟨2, false⟩ ∧ ∀ (width : Nat) (term : SearchTerm),
      (searchCall.render width ⟨2, false⟩).count term ≤ term.countIn searchCall.texts := by
  have hverbatim : searchCall.event.IsDrawnVerbatim ⟨2, false⟩ := by decide +kernel
  exact ⟨hverbatim, (count_render_le_countIn_texts searchCall ⟨2, false⟩).1 hverbatim⟩

/-- An input with an escape inside a word. -/
def brokenWord : Item where
  id := "item-1"
  depth := 0
  timestamp := none
  event := .input "er\x1bror"

/-- The escape is left out where the word is drawn, so the search finds the word on the screen but
not in the data. -/
theorem brokenWord_count_gt : ∃ term : SearchTerm, SearchTerm.ofString? "error" = some term ∧
    term.countIn brokenWord.texts = 0 ∧ (brokenWord.render 80 ⟨5, false⟩).count term = 1 :=
  ⟨⟨fold "error".toList, true, by decide +kernel⟩, dif_neg (by decide +kernel),
    by decide +kernel, by decide +kernel⟩

end Item

end TranscriptSearch
