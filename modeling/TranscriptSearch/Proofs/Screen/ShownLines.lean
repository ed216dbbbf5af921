import TranscriptSearch.Proofs.Screen.SearchRuns
import TranscriptSearch.Proofs.Text.WideRows
import TranscriptSearch.Screen.Cell

namespace TranscriptSearch

open Text

/-- A line of an item's own text that is drawn. -/
structure ShownLine where
  /-- The line as it stands in the item. -/
  source : List Char
  /-- Whether it is broken between words. -/
  prose : Bool

namespace ShownLine

/-- The line as it is drawn when nothing is broken. -/
def text (line : ShownLine) : List Char :=
  if line.prose then trim (sanitize line.source) else sanitize line.source

/-- The rows of the line. -/
def rows (line : ShownLine) (width : Nat) : List (List Char) :=
  if line.prose then wrapWords (sanitize line.source) width
  else wrapColumns (sanitize line.source) width

theorem pieces_rows (line : ShownLine) {width : Nat} (hwidth : 0 < width) :
    Pieces isBlank (line.rows width) line.text := by
  rw [rows, text]
  split
  · exact pieces_wrapWords_trim _ hwidth
  · exact pieces_wrapColumns isBlank _ width

theorem exists_rows_of_wide (line : ShownLine) :
    ∃ bound, ∀ width, bound ≤ width → line.rows width = [line.text] := by
  simp only [rows, text]
  split
  · exact exists_wrapWords_of_wide _
  · exact ⟨_, fun width hwidth => wrapColumns_of_wide hwidth⟩

end ShownLine

/-- The lines of a text, which has none if it is blank. -/
def shownLines (prose : Bool) (cs : List Char) : List ShownLine :=
  if allBlank cs then [] else (lines cs).map (⟨·, prose⟩)

/-- The first lines of a text, which has none if it is blank. -/
def previewLines (limit : Nat) (cs : List Char) : List ShownLine :=
  if allBlank cs then [] else shownLines false (unlines ((lines cs).take limit))

/-- The texts that are not empty. -/
def filledTexts (texts : List (List Char)) : List String :=
  (texts.filter (!·.isEmpty)).map String.ofList

@[simp] theorem filledTexts_append (xs ys : List (List Char)) :
    filledTexts (xs ++ ys) = filledTexts xs ++ filledTexts ys := by
  simp [filledTexts]

theorem countIn_filledTexts (term : SearchTerm) (texts : List (List Char)) :
    term.countIn (filledTexts texts) = term.countChars texts := by
  induction texts with
  | nil => rfl
  | cons text texts ih =>
      cases text with
      | nil => simpa [filledTexts] using ih
      | cons c cs => simpa [filledTexts] using ih

/-- What the search sees of rows. -/
def searchedTexts (rows : List StyledLine) : List String :=
  rows.flatMap (ownTexts ·.spans)

@[simp] theorem searchedTexts_append (xs ys : List StyledLine) :
    searchedTexts (xs ++ ys) = searchedTexts xs ++ searchedTexts ys := by
  simp [searchedTexts]

/-- Rows that are made from lines: whatever the frame, the search finds no more in the rows than
in the lines, and in a wide frame it sees the lines themselves. -/
structure MadeFrom (rows : CellFrame → List StyledLine) (shown : List ShownLine) : Prop where
  apart : ∀ frame, ∀ row ∈ rows frame, StandApart false row.spans
  count_le : ∀ (frame : CellFrame) (term : SearchTerm), 0 < frame.width →
    term.countIn (searchedTexts (rows frame)) ≤ term.countChars (shown.map ShownLine.text)
  wide : ∃ bound, ∀ frame : CellFrame, bound ≤ frame.width →
    searchedTexts (rows frame) = filledTexts (shown.map ShownLine.text)

namespace MadeFrom

variable {rows more : CellFrame → List StyledLine} {shown others : List ShownLine}

theorem nil : MadeFrom (fun _ => []) [] where
  apart := by simp
  count_le := by simp [searchedTexts]
  wide := ⟨0, by simp [searchedTexts, filledTexts]⟩

theorem append (h : MadeFrom rows shown) (h' : MadeFrom more others) :
    MadeFrom (fun frame => rows frame ++ more frame) (shown ++ others) where
  apart frame row hrow := by
    rcases List.mem_append.mp hrow with hrow | hrow
    · exact h.apart frame row hrow
    · exact h'.apart frame row hrow
  count_le frame term hwidth := by
    have hrows := h.count_le frame term hwidth
    have hmore := h'.count_le frame term hwidth
    simp only [searchedTexts_append, SearchTerm.countIn_append, List.map_append,
      SearchTerm.countChars_append]
    omega
  wide := by
    obtain ⟨bound, hbound⟩ := h.wide
    obtain ⟨bound', hbound'⟩ := h'.wide
    refine ⟨max bound bound', fun frame hframe => ?_⟩
    rw [searchedTexts_append, hbound frame (by omega), hbound' frame (by omega), List.map_append,
      filledTexts_append]

theorem flatMap {α : Type} {rows : CellFrame → α → List StyledLine} {shown : α → List ShownLine}
    (parts : List α) (h : ∀ part ∈ parts, MadeFrom (rows · part) (shown part)) :
    MadeFrom (fun frame => parts.flatMap (rows frame)) (parts.flatMap shown) := by
  induction parts with
  | nil => exact nil
  | cons part parts ih =>
      simp only [List.flatMap_cons]
      exact (h part (by simp)).append (ih fun part hpart => h part (by simp [hpart]))

theorem of_line {line : ShownLine}
    (hapart : ∀ frame, ∀ row ∈ rows frame, StandApart false row.spans)
    (hrows : ∀ frame : CellFrame,
      searchedTexts (rows frame) = filledTexts (line.rows frame.width)) :
    MadeFrom rows [line] where
  apart := hapart
  count_le frame term hwidth := by
    have hpieces := term.countChars_le_of_pieces (line.pieces_rows hwidth)
    rw [hrows, countIn_filledTexts]
    simpa using hpieces
  wide := by
    obtain ⟨bound, hbound⟩ := line.exists_rows_of_wide
    refine ⟨bound, fun frame hframe => ?_⟩
    rw [hrows, hbound _ hframe]
    rfl

end MadeFrom

namespace CellFrame

theorem standApart_row (frame : CellFrame) (lead : String) (style : Style) (text : List Char) :
    StandApart false (frame.row lead style text).spans := by
  simp [row, StandApart]

theorem ownTexts_row (frame : CellFrame) (lead : String) {style : Style}
    (hstyle : style.isSearchable = true) (text : List Char) :
    ownTexts (frame.row lead style text).spans = filledTexts [text] := by
  cases text <;> simp [row, ownTexts, filledTexts, hstyle]

theorem searchedTexts_map_row (frame : CellFrame) (lead : String) {style : Style}
    (hstyle : style.isSearchable = true) (texts : List (List Char)) :
    searchedTexts (texts.map (frame.row lead style)) = filledTexts texts := by
  induction texts with
  | nil => rfl
  | cons text texts ih =>
      have hcons : filledTexts (text :: texts) = filledTexts [text] ++ filledTexts texts :=
        filledTexts_append [text] texts
      rw [hcons, ← ih, ← ownTexts_row frame lead hstyle text]
      rfl

theorem standApart_header (frame : CellFrame) (title : String) (style : Style) :
    ∀ row ∈ frame.header title style, StandApart false row.spans := by
  intro row hrow
  rw [header] at hrow
  split at hrow
  · simp at hrow
  · rcases List.mem_cons.mp hrow with rfl | hrow
    · exact frame.standApart_row _ _ _
    · obtain ⟨text, -, rfl⟩ := List.mem_map.mp hrow
      exact frame.standApart_row _ _ _

theorem madeFrom_header (title : String) (style : Style) (hstyle : style.isSearchable = true) :
    MadeFrom (·.header title style) [⟨title.toList, true⟩] := by
  refine .of_line (fun frame => frame.standApart_header title style) fun frame => ?_
  rw [header, ShownLine.rows, if_pos rfl]
  split
  · next hrows => rw [hrows]; rfl
  · next first rest hrows =>
      have hfirst := frame.searchedTexts_map_row marker hstyle [first]
      have hrest := frame.searchedTexts_map_row noMarker hstyle rest
      have happend := filledTexts_append [first] rest
      rw [← hfirst, ← hrest, ← searchedTexts_append] at happend
      rw [hrows]
      exact happend.symm

theorem madeFrom_header_label (title : String) : MadeFrom (·.header title .label) [] := by
  have hrow : ∀ (frame : CellFrame) (lead : String) (text : List Char),
      ownTexts (frame.row lead .label text).spans = [] := by
    intro frame lead text
    simp [row, ownTexts]
  have hrows : ∀ frame : CellFrame, searchedTexts (frame.header title .label) = [] := by
    intro frame
    rw [header]
    split
    · rfl
    · simp [searchedTexts, hrow]
  refine ⟨fun frame => frame.standApart_header title .label, fun frame term _ => ?_, 0,
    fun frame _ => hrows frame⟩
  rw [hrows]
  exact Nat.le_refl _

theorem madeFrom_line (line : ShownLine) {style : Style} (hstyle : style.isSearchable = true) :
    MadeFrom (fun frame => (line.rows frame.width).map (frame.row noMarker style)) [line] := by
  refine .of_line (fun frame row hrow => ?_)
    fun frame => frame.searchedTexts_map_row noMarker hstyle _
  obtain ⟨text, -, rfl⟩ := List.mem_map.mp hrow
  exact frame.standApart_row _ _ _

theorem madeFrom_shownLines (prose : Bool) (cs : List Char) {style : Style}
    (hstyle : style.isSearchable = true) :
    MadeFrom (fun frame =>
      if allBlank cs then []
      else (lines cs).flatMap fun line =>
        ((⟨line, prose⟩ : ShownLine).rows frame.width).map (frame.row noMarker style))
      (shownLines prose cs) := by
  rw [shownLines]
  split
  · exact .nil
  · have h : MadeFrom _ ((lines cs).flatMap fun line => [⟨line, prose⟩]) :=
      .flatMap (lines cs) fun line _ => madeFrom_line ⟨line, prose⟩ hstyle
    rwa [← List.map_eq_flatMap] at h

theorem madeFrom_prose (text : String) (style : Style) (hstyle : style.isSearchable = true) :
    MadeFrom (·.prose text style) (shownLines true text.toList) :=
  madeFrom_shownLines true text.toList hstyle

theorem madeFrom_raw (cs : List Char) (style : Style) (hstyle : style.isSearchable = true) :
    MadeFrom (·.raw cs style) (shownLines false cs) :=
  madeFrom_shownLines false cs hstyle

end CellFrame

end TranscriptSearch
