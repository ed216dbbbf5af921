import TranscriptSearch.Proofs.Text.PlainColumns

namespace TranscriptSearch.Text

/-- Whether a row is not empty and has white space at neither end. -/
structure IsTight (row : List Char) : Prop where
  ne_nil : row ≠ []
  head : ∀ c ∈ row.head?, isBlank c = false
  last : ∀ c ∈ row.getLast?, isBlank c = false

theorem isTight_of_forall {row : List Char} (hne : row ≠ []) (h : ∀ c ∈ row, isBlank c = false) :
    IsTight row where
  ne_nil := hne
  head c hc := h c (List.mem_of_mem_head? hc)
  last c hc := h c (List.mem_of_mem_getLast? hc)

theorem IsTight.append {row word : List Char} (hrow : IsTight row) (hword : IsTight word)
    (gap : List Char) : IsTight (row ++ (gap ++ word)) where
  ne_nil := by simp [hrow.ne_nil]
  head c hc := by
    obtain ⟨first, rest, rfl⟩ := List.exists_cons_of_ne_nil hrow.ne_nil
    exact hrow.head c (by simpa using hc)
  last c hc := by
    obtain ⟨init, last, rfl⟩ := List.eq_nil_or_concat word |>.resolve_left hword.ne_nil
    exact hword.last c (by simpa using hc)

/-- A row of words with so many columns counted for it.  The columns of its pieces are counted one
by one, so they are sure to be those of the row only if it is printable. -/
structure IsOpenRow (width used : Nat) (row : List Char) : Prop where
  tight : IsTight row
  printable : (∀ c ∈ row, isPrintable c = true) → row.length = used ∧ used ≤ width

theorem IsOpenRow.append_word {width used : Nat} {row : List Char} (h : IsOpenRow width used row)
    {word : Word} (hword : word.IsProper)
    (hroom : used + columns word.gap + columns word.chars ≤ width) :
    IsOpenRow width (used + columns word.gap + columns word.chars)
      (row ++ (word.gap ++ word.chars)) where
  tight := h.tight.append (isTight_of_forall hword.chars_ne_nil hword.chars_filled) word.gap
  printable hprintable := by
    simp only [List.mem_append, or_imp, forall_and] at hprintable
    obtain ⟨hrow, hgap, hchars⟩ := hprintable
    have hused := (h.printable hrow).1
    rw [columns_of_isPrintable hgap, columns_of_isPrintable hchars] at hroom ⊢
    refine ⟨?_, hroom⟩
    simp only [List.length_append]
    omega

theorem isOpenRow_of_mem_wordRows {width : Nat} (hwidth : 0 < width) {word : Word}
    (hword : word.IsProper) {row : List Char} (h : row ∈ wordRows width word.chars) :
    IsOpenRow width (columns row) row := by
  rw [wordRows] at h
  split at h
  · next hfits =>
      rw [List.mem_singleton.mp h]
      exact ⟨isTight_of_forall hword.chars_ne_nil hword.chars_filled,
        fun hprintable => ⟨(columns_of_isPrintable hprintable).symm, hfits⟩⟩
  · have hfilled : ∀ c ∈ row, isBlank c = false := by
      intro c hc
      refine hword.chars_filled c ?_
      rw [← flatten_wrapColumns word.chars width]
      exact List.mem_flatten.mpr ⟨row, h, hc⟩
    refine ⟨isTight_of_forall (ne_nil_of_mem_breakColumns hword.chars_ne_nil h) hfilled, ?_⟩
    intro hprintable
    have hplain : ∀ c ∈ row, isPlain c = true :=
      fun c hc => isPlain_of_isPrintable (hprintable c hc)
    rw [columns_of_isPlain hplain]
    exact ⟨rfl, length_le_of_isWithin hwidth hplain ((isGreedy_breakColumns _).within row h)⟩

theorem isOpenRow_getLastD_wordRows {width : Nat} (hwidth : 0 < width) {word : Word}
    (hword : word.IsProper) :
    IsOpenRow width (columns ((wordRows width word.chars).getLastD []))
      ((wordRows width word.chars).getLastD []) := by
  apply isOpenRow_of_mem_wordRows hwidth hword
  obtain ⟨init, last, hrows⟩ :=
    List.eq_nil_or_concat _ |>.resolve_left (wordRows_ne_nil width word.chars)
  simp [hrows]

theorem isOpenRow_continueLast {width : Nat} (hwidth : 0 < width) {word : Word}
    (hword : word.IsProper) {next : List Char × List (List Char)}
    (hnext : ∀ row ∈ ((wordRows width word.chars).getLastD [] ++ next.1) :: next.2,
      ∃ used, IsOpenRow width used row) :
    ∀ row ∈ continueLast (wordRows width word.chars) next, ∃ used, IsOpenRow width used row := by
  refine List.forall_mem_append.mpr ⟨fun row hrow => ?_, hnext⟩
  exact ⟨_, isOpenRow_of_mem_wordRows hwidth hword (List.dropLast_subset _ hrow)⟩

theorem isOpenRow_fillRow {width : Nat} (hwidth : 0 < width) {ws : List Word}
    (hws : ∀ word ∈ ws, word.IsProper) {used : Nat} {begun : List Char}
    (h : IsOpenRow width used begun) :
    ∀ row ∈ (begun ++ (fillRow width used ws).1) :: (fillRow width used ws).2,
      ∃ used, IsOpenRow width used row := by
  induction ws generalizing used begun with
  | nil => simpa [fillRow] using ⟨used, h⟩
  | cons word ws ih =>
      obtain ⟨hword, hrest⟩ := List.forall_mem_cons.mp hws
      simp only [fillRow]
      split
      · next hroom =>
          have hgrown := ih hrest (h.append_word hword hroom)
          simpa using hgrown
      · rw [List.append_nil]
        have hlast := isOpenRow_getLastD_wordRows hwidth hword
        exact List.forall_mem_cons.mpr
          ⟨⟨used, h⟩, isOpenRow_continueLast hwidth hword (ih hrest hlast)⟩

theorem wrapWords_eq_or_isOpenRow (cs : List Char) {width : Nat} (hwidth : 0 < width) :
    wrapWords cs width = [[]] ∨ ∀ row ∈ wrapWords cs width, ∃ used, IsOpenRow width used row := by
  obtain ⟨-, -, -, hproper⟩ := exists_eq_wordsText_words cs
  rw [wrapWords, if_neg (by omega)]
  cases hwords : words cs with
  | nil => exact .inl rfl
  | cons word rest =>
      rw [hwords, List.forall_mem_cons] at hproper
      have hlast := isOpenRow_getLastD_wordRows hwidth hproper.1
      exact .inr (isOpenRow_continueLast hwidth hproper.1
        (isOpenRow_fillRow hwidth hproper.2 hlast))

theorem length_le_of_mem_wrapWords {cs : List Char} {width : Nat} (hwidth : 0 < width)
    (hprintable : ∀ c ∈ cs, isPrintable c = true) {row : List Char}
    (h : row ∈ wrapWords cs width) :
    row.length ≤ width := by
  rcases wrapWords_eq_or_isOpenRow cs hwidth with hblank | hopen
  · rw [hblank, List.mem_singleton] at h
    simp [h]
  · obtain ⟨used, hrow⟩ := hopen row h
    have hused := hrow.printable fun c hc => hprintable c ((pieces_wrapWords cs width).mem h hc)
    omega

/-- A text broken between words.  There is a row; white space is all that is lost before, between
and behind the rows; no row has white space at its ends, and none is empty but an only one; and
the rows of a printable text have no more characters than the width. -/
theorem wrapWords_rows_tight (cs : List Char) {width : Nat} (hwidth : 0 < width) :
    wrapWords cs width ≠ [] ∧ Pieces isBlank (wrapWords cs width) cs ∧
      (∀ row ∈ wrapWords cs width,
        (∀ c ∈ row.head?, isBlank c = false) ∧ ∀ c ∈ row.getLast?, isBlank c = false) ∧
      ([] ∈ wrapWords cs width → wrapWords cs width = [[]]) ∧
      ((∀ c ∈ cs, isPrintable c = true) → ∀ row ∈ wrapWords cs width, row.length ≤ width) := by
  have hends : (∀ row ∈ wrapWords cs width,
        (∀ c ∈ row.head?, isBlank c = false) ∧ ∀ c ∈ row.getLast?, isBlank c = false) ∧
      ([] ∈ wrapWords cs width → wrapWords cs width = [[]]) := by
    rcases wrapWords_eq_or_isOpenRow cs hwidth with hblank | hopen
    · simp [hblank]
    · refine ⟨fun row hrow => ?_, fun hempty => ?_⟩
      · obtain ⟨used, htight, -⟩ := hopen row hrow
        exact ⟨htight.head, htight.last⟩
      · obtain ⟨used, htight, -⟩ := hopen [] hempty
        exact absurd rfl htight.ne_nil
  exact ⟨wrapWords_ne_nil cs width, pieces_wrapWords cs width, hends.1, hends.2,
    fun hprintable row hrow => length_le_of_mem_wrapWords hwidth hprintable hrow⟩

theorem wrapWords_rows_tight_longWord :
    wrapWords " to  untangle  it ".toList 6 = ["to", "untang", "le  it"].map String.toList ∧
      Pieces isBlank (wrapWords " to  untangle  it ".toList 6) " to  untangle  it ".toList ∧
      ∀ row ∈ wrapWords " to  untangle  it ".toList 6, row.length ≤ 6 := by
  have hwidth : 0 < 6 := by decide
  obtain ⟨-, hpieces, -, -, hlength⟩ := wrapWords_rows_tight " to  untangle  it ".toList hwidth
  exact ⟨by decide +kernel, hpieces, hlength (List.all_eq_true.mp (by decide))⟩

end TranscriptSearch.Text

namespace TranscriptSearch.SearchTerm

open Text

/-- However a text is broken into rows, the rows together hold no more occurrences of a term than
the text. -/
theorem countIn_rows_le (term : SearchTerm) (text : String) (width : Nat) :
    term.countIn ((wrapWords text.toList width).map String.ofList) ≤ term.count text ∧
      term.countIn ((wrapColumns text.toList width).map String.ofList) ≤ term.count text := by
  have hwords := term.countChars_le_of_pieces (pieces_wrapWords text.toList width)
  have hcolumns := term.countChars_le_of_pieces (pieces_wrapColumns isBlank text.toList width)
  rw [String.ofList_toList] at hwords hcolumns
  exact ⟨hwords, hcolumns⟩

end TranscriptSearch.SearchTerm
