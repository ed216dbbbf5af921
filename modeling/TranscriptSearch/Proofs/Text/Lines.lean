import TranscriptSearch.Proofs.Text.Pieces
import TranscriptSearch.Text.Wrap

namespace TranscriptSearch.Text

theorem lines_eq_nil_iff {cs : List Char} : lines cs = [] ↔ cs = [] := by
  fun_cases lines cs <;> simp [*]

theorem leadingPieces_lines {cs line : List Char} {rest : List (List Char)}
    (h : lines cs = line :: rest) : LeadingPieces isBlank line rest cs := by
  -- A text is empty or has a first line, so the induction hypothesis gives the pieces of any
  -- tail.
  have pieces_of_leading : ∀ cs : List Char,
      (∀ {line rest}, lines cs = line :: rest → LeadingPieces isBlank line rest cs) →
        Pieces isBlank (lines cs) cs := by
    intro cs ih
    cases hlines : lines cs with
    | nil =>
        rw [lines_eq_nil_iff.mp hlines]
        exact .nil (by simp)
    | cons line rest => exact (ih hlines).pieces
  fun_induction lines cs generalizing line rest with
  | case1 => simp at h
  | case2 cs ih =>
      obtain ⟨rfl, rfl⟩ := List.cons.inj h
      have hbreak : ∀ c ∈ ['\n'], isBlank c = true := by
        intro c hc
        rw [List.mem_singleton.mp hc]
        rfl
      exact ⟨_, rfl, (pieces_of_leading cs ih).prepend hbreak⟩
  | case3 cs ih =>
      obtain ⟨rfl, rfl⟩ := List.cons.inj h
      have hbreak : ∀ c ∈ ['\r', '\n'], isBlank c = true := by
        intro c hc
        have hcases : c = '\r' ∨ c = '\n' := by simpa using hc
        rcases hcases with rfl | rfl
        · rfl
        · rfl
      exact ⟨_, rfl, (pieces_of_leading cs ih).prepend hbreak⟩
  | case4 c cs _ _ hlines ih =>
      obtain ⟨rfl, rfl⟩ := List.cons.inj h
      rw [lines_eq_nil_iff.mp hlines]
      exact ⟨[], rfl, .nil (by simp)⟩
  | case5 c cs _ _ line' rest' hlines ih =>
      obtain ⟨rfl, rfl⟩ := List.cons.inj h
      obtain ⟨tail, rfl, htail⟩ := ih hlines
      exact ⟨tail, rfl, htail⟩

theorem pieces_lines (cs : List Char) : Pieces isBlank (lines cs) cs := by
  cases hlines : lines cs with
  | nil =>
      rw [lines_eq_nil_iff.mp hlines]
      exact .nil (by simp)
  | cons line rest => exact (leadingPieces_lines hlines).pieces

theorem not_mem_of_mem_lines {cs line : List Char} (h : line ∈ lines cs) : '\n' ∉ line := by
  fun_induction lines cs generalizing line with
  | case1 => simp at h
  | case2 cs ih =>
      rcases List.mem_cons.mp h with rfl | h
      · simp
      · exact ih h
  | case3 cs ih =>
      rcases List.mem_cons.mp h with rfl | h
      · simp
      · exact ih h
  | case4 c cs hbreak _ hlines ih => simpa [List.mem_singleton.mp h, eq_comm] using hbreak
  | case5 c cs hbreak _ line' rest' hlines ih =>
      have htail : ∀ line ∈ line' :: rest', '\n' ∉ line := fun line hline => ih (hlines ▸ hline)
      rcases List.mem_cons.mp h with rfl | h
      · simpa [eq_comm] using ⟨hbreak, htail line' (by simp)⟩
      · exact htail line (by simp [h])

theorem lines_of_not_mem {cs : List Char} (h : '\n' ∉ cs) (hne : cs ≠ []) : lines cs = [cs] := by
  fun_induction lines cs with
  | case1 => exact absurd rfl hne
  | case2 cs ih => simp at h
  | case3 cs ih => simp at h
  | case4 c cs _ _ hlines ih => rw [lines_eq_nil_iff.mp hlines]
  | case5 c cs _ _ line rest hlines ih =>
      have hcs : cs ≠ [] := by
        rintro rfl
        simp [lines] at hlines
      have htail := ih (fun hmem => h (by simp [hmem])) hcs
      rw [hlines, List.cons.injEq] at htail
      rw [htail.1, htail.2]

theorem exists_lines_append_break {cs : List Char} (h : '\n' ∉ cs) (rest : List Char) :
    ∃ line gap, cs = line ++ gap ∧ (∀ c ∈ gap, isBlank c = true) ∧
      lines (cs ++ '\n' :: rest) = line :: lines rest := by
  induction cs with
  | nil => exact ⟨[], [], rfl, by simp, rfl⟩
  | cons c cs ih =>
      obtain ⟨hc, hcs⟩ := not_or.mp (mt List.mem_cons.mpr h)
      obtain ⟨line, gap, hsplit, hgap, hlines⟩ := ih hcs
      by_cases hreturn : c = '\r' ∧ cs = []
      · obtain ⟨rfl, rfl⟩ := hreturn
        have hgap : ∀ c ∈ ['\r'], isBlank c = true := by
          intro c hc
          rw [List.mem_singleton.mp hc]
          rfl
        exact ⟨[], ['\r'], rfl, hgap, rfl⟩
      · refine ⟨c :: line, gap, by rw [hsplit, List.cons_append], hgap, ?_⟩
        rw [List.cons_append, lines.eq_4 c _ (Ne.symm hc), hlines]
        rintro tail rfl htail
        cases cs with
        | nil => exact hreturn ⟨rfl, rfl⟩
        | cons d cs =>
            rw [List.cons_append, List.cons.injEq] at htail
            exact hcs (by simp [htail.1])

theorem pieces_lines_unlines {dropped : Char → Bool}
    (hblank : ∀ c, isBlank c = true → dropped c = true) {pieces : List (List Char)}
    {text : List Char} (hbreak : ∀ piece ∈ pieces, '\n' ∉ piece)
    (h : Pieces dropped pieces text) :
    Pieces dropped (lines (unlines pieces)) text := by
  induction h with
  | nil h => exact .nil h
  | @cons gap piece pieces rest h hrest ih =>
      have hpieces := ih fun piece hpiece => hbreak piece (by simp [hpiece])
      cases pieces with
      | nil =>
          simp only [unlines, List.intercalate_singleton]
          by_cases hne : piece = []
          · subst hne
            exact hpieces.prepend h
          · rw [lines_of_not_mem (hbreak piece (by simp)) hne]
            exact .cons gap piece h hpieces
      | cons next more =>
          obtain ⟨line, tail, rfl, htail, hlines⟩ :=
            exists_lines_append_break (hbreak piece (by simp)) (unlines (next :: more))
          have hunlines : unlines ((line ++ tail) :: next :: more) =
              line ++ tail ++ '\n' :: unlines (next :: more) := by
            simp [unlines]
          rw [hunlines, hlines, List.append_assoc]
          exact .cons gap line h (hpieces.prepend fun c hc => hblank c (htail c hc))

theorem forall_mem_takeWhile {p : Char → Bool} {cs : List Char} :
    ∀ c ∈ cs.takeWhile p, p c = true := by
  intro c hc
  exact List.all_eq_true.mp List.all_takeWhile c hc

theorem pieces_trim (cs : List Char) : Pieces isBlank [trim cs] cs := by
  let tail := cs.dropWhile isBlank
  have htail : tail = trim cs ++ (tail.reverse.takeWhile isBlank).reverse := by
    have hsplit := List.takeWhile_append_dropWhile (p := isBlank) (l := tail.reverse)
    have hreverse := congrArg List.reverse hsplit
    rw [List.reverse_append, List.reverse_reverse] at hreverse
    exact hreverse.symm
  have hback : Pieces isBlank [] (tail.reverse.takeWhile isBlank).reverse :=
    .nil fun c hc => forall_mem_takeWhile c (List.mem_reverse.mp hc)
  have hgap : ∀ c ∈ cs.takeWhile isBlank, isBlank c = true := forall_mem_takeWhile
  have hfront := (hback.leading (trim cs)).prepend hgap
  rw [← htail, List.takeWhile_append_dropWhile] at hfront
  exact hfront

theorem breakRow_append_flatten (columnsOf : Char → Nat) (width : Nat) (empty : Bool) (used : Nat)
    (cs : List Char) :
    (breakRow columnsOf width empty used cs).1 ++
      (breakRow columnsOf width empty used cs).2.flatten = cs := by
  induction cs generalizing empty used with
  | nil => rfl
  | cons c cs ih =>
      simp only [breakRow]
      split
      · simp [ih]
      · simp [ih]

theorem flatten_wrapColumns (cs : List Char) (width : Nat) :
    (wrapColumns cs width).flatten = cs := by
  simp only [wrapColumns, breakColumns, List.flatten_cons]
  exact breakRow_append_flatten charColumns width true 0 cs

theorem pieces_wrapColumns (dropped : Char → Bool) (cs : List Char) (width : Nat) :
    Pieces dropped (wrapColumns cs width) cs := by
  have h := Pieces.flatten dropped (wrapColumns cs width)
  rwa [flatten_wrapColumns] at h

theorem prefix_clip (width : Nat) (cs : List Char) : clip width cs <+: cs := by
  induction cs generalizing width with
  | nil => simp [clip]
  | cons c cs ih =>
      rw [clip]
      split
      · exact (List.prefix_cons_inj c).mpr (ih _)
      · exact List.nil_prefix

/-- The text of words, with the white space before each. -/
def wordsText (ws : List Word) : List Char :=
  ws.flatMap fun word => word.gap ++ word.chars

@[simp] theorem wordsText_nil : wordsText [] = [] := rfl

@[simp] theorem wordsText_cons (word : Word) (ws : List Word) :
    wordsText (word :: ws) = word.gap ++ word.chars ++ wordsText ws := rfl

/-- A word has white space before it and none in it, and it is not empty. -/
structure Word.IsProper (word : Word) : Prop where
  gap_blank : ∀ c ∈ word.gap, isBlank c = true
  chars_filled : ∀ c ∈ word.chars, isBlank c = false
  chars_ne_nil : word.chars ≠ []

theorem exists_eq_wordsText_words (cs : List Char) :
    ∃ tail, cs = wordsText (words cs) ++ tail ∧ (∀ c ∈ tail, isBlank c = true) ∧
      ∀ word ∈ words cs, word.IsProper := by
  fun_induction words cs with
  | case1 cs h =>
      have hsplit := List.takeWhile_append_dropWhile (p := isBlank) (l := cs)
      rw [h, List.append_nil] at hsplit
      exact ⟨cs, rfl, hsplit ▸ forall_mem_takeWhile, by simp⟩
  | case2 cs c rest h _ ih =>
      obtain ⟨tail, htail, hblank, hproper⟩ := ih
      have hsplit := List.takeWhile_append_dropWhile (p := isBlank) (l := cs)
      have hrest := List.takeWhile_append_dropWhile (p := (!isBlank ·)) (l := rest)
      refine ⟨tail, ?_, hblank, ?_⟩
      · rw [wordsText_cons, List.append_assoc, ← htail]
        simp only [List.append_assoc, List.cons_append, hrest, ← h, hsplit]
      · intro word hword
        rcases List.mem_cons.mp hword with rfl | hword
        · have hc := List.head?_dropWhile_not isBlank cs
          rw [h] at hc
          refine ⟨forall_mem_takeWhile, fun d hd => ?_, by simp⟩
          rcases List.mem_cons.mp hd with rfl | hd
          · exact hc
          · simpa using forall_mem_takeWhile d hd
        · exact hproper word hword

theorem exists_eq_append_filled {word : Word} {ws : List Word} (hword : word.IsProper)
    (h : ∀ word ∈ ws, word.IsProper) :
    ∃ init c, word.chars ++ wordsText ws = init ++ [c] ∧ isBlank c = false := by
  induction ws generalizing word with
  | nil =>
      obtain ⟨init, c, hc⟩ := List.eq_nil_or_concat word.chars |>.resolve_left hword.chars_ne_nil
      refine ⟨init, c, by simpa using hc, hword.chars_filled c (by simp [hc])⟩
  | cons next ws ih =>
      obtain ⟨init, c, hinit, hc⟩ :=
        ih (h next (by simp)) fun word hword => h word (by simp [hword])
      refine ⟨word.chars ++ (next.gap ++ init), c, ?_, hc⟩
      simp only [wordsText_cons, List.append_assoc, hinit]

theorem trim_eq_of_words {cs : List Char} {word : Word} {rest : List Word}
    (h : words cs = word :: rest) : trim cs = word.chars ++ wordsText rest := by
  obtain ⟨tail, htail, hblank, hproper⟩ := exists_eq_wordsText_words cs
  rw [h] at htail hproper
  have hword := hproper word (by simp)
  have hrest : ∀ word ∈ rest, word.IsProper := fun word hword => hproper word (by simp [hword])
  obtain ⟨init, last, hinit, hlast⟩ := exists_eq_append_filled hword hrest
  obtain ⟨first, chars, hchars⟩ := List.exists_cons_of_ne_nil hword.chars_ne_nil
  have hfirst : ¬ isBlank first = true := by
    simp [hword.chars_filled first (by simp [hchars])]
  have hfront : cs.dropWhile isBlank = init ++ [last] ++ tail := by
    rw [htail, wordsText_cons, List.append_assoc, List.append_assoc,
      List.dropWhile_append_of_pos hword.gap_blank, ← hinit, List.append_assoc, hchars,
      List.cons_append, List.dropWhile_cons_of_neg hfirst]
  have hback : ∀ c ∈ tail.reverse, isBlank c = true :=
    fun c hc => hblank c (List.mem_reverse.mp hc)
  rw [trim, hfront, List.reverse_append, List.dropWhile_append_of_pos hback, hinit]
  simp [hlast]

theorem trim_eq_nil_of_words {cs : List Char} (h : words cs = []) : trim cs = [] := by
  obtain ⟨tail, htail, hblank, -⟩ := exists_eq_wordsText_words cs
  rw [h, wordsText_nil, List.nil_append] at htail
  rw [← htail] at hblank
  have hdrop : (cs ++ []).dropWhile isBlank = [] := List.dropWhile_append_of_pos hblank
  rw [List.append_nil] at hdrop
  simp [trim, hdrop]

theorem flatten_wordRows (width : Nat) (word : List Char) :
    (wordRows width word).flatten = word := by
  rw [wordRows]
  split
  · simp
  · exact flatten_wrapColumns word width

theorem wordRows_ne_nil (width : Nat) (word : List Char) : wordRows width word ≠ [] := by
  rw [wordRows]
  split
  · simp
  · exact breakColumns_ne_nil charColumns width word

theorem wrapWords_ne_nil (cs : List Char) (width : Nat) : wrapWords cs width ≠ [] := by
  rw [wrapWords]
  split
  · simp
  · split
    · simp
    · simp [continueLast]

theorem pieces_continueLast {dropped : Char → Bool} {rows : List (List Char)} (hrows : rows ≠ [])
    {next : List Char × List (List Char)} {more : List Char}
    (h : LeadingPieces dropped next.1 next.2 more) :
    Pieces dropped (continueLast rows next) (rows.flatten ++ more) := by
  obtain ⟨rest, rfl, hrest⟩ := h
  obtain ⟨init, last, rfl⟩ := List.eq_nil_or_concat rows |>.resolve_left hrows
  have hlast := hrest.leading (last ++ next.1)
  have hall := (Pieces.flatten dropped init).append hlast
  simpa [continueLast, List.append_assoc] using hall

theorem leadingPieces_fillRow {ws : List Word} (h : ∀ word ∈ ws, word.IsProper)
    (width used : Nat) :
    LeadingPieces isBlank (fillRow width used ws).1 (fillRow width used ws).2
      (wordsText ws) := by
  induction ws generalizing used with
  | nil => exact ⟨[], rfl, .nil (by simp)⟩
  | cons word ws ih =>
      have htail : ∀ word ∈ ws, word.IsProper := fun word hword => h word (by simp [hword])
      simp only [fillRow, wordsText_cons]
      split
      · obtain ⟨rest, hrest, hpieces⟩ := ih htail (used + columns word.gap + columns word.chars)
        refine ⟨rest, ?_, hpieces⟩
        rw [hrest]
        simp only [List.append_assoc]
      · have hrows := pieces_continueLast (wordRows_ne_nil width word.chars)
          (ih htail (columns ((wordRows width word.chars).getLastD [])))
        rw [flatten_wordRows] at hrows
        exact ⟨word.gap ++ (word.chars ++ wordsText ws), by simp,
          hrows.prepend (h word (by simp)).gap_blank⟩

theorem pieces_wrapWords_trim (cs : List Char) {width : Nat} (hwidth : 0 < width) :
    Pieces isBlank (wrapWords cs width) (trim cs) := by
  obtain ⟨-, -, -, hproper⟩ := exists_eq_wordsText_words cs
  rw [wrapWords, if_neg (by omega)]
  cases hwords : words cs with
  | nil =>
      rw [trim_eq_nil_of_words hwords]
      exact .single isBlank []
  | cons word rest =>
      rw [hwords] at hproper
      have hrest : ∀ word ∈ rest, word.IsProper :=
        fun word hword => hproper word (by simp [hword])
      have hrows := pieces_continueLast (wordRows_ne_nil width word.chars)
        (leadingPieces_fillRow hrest width (columns ((wordRows width word.chars).getLastD [])))
      rw [flatten_wordRows] at hrows
      rw [trim_eq_of_words hwords]
      exact hrows

/-- Rows broken between words are pieces of the text, and only white space is lost. -/
theorem pieces_wrapWords (cs : List Char) (width : Nat) :
    Pieces isBlank (wrapWords cs width) cs := by
  rcases Nat.eq_zero_or_pos width with rfl | hwidth
  · exact .single isBlank cs
  · have hcut : ∀ piece ∈ [trim cs], Pieces isBlank (wrapWords cs width) piece := by
      intro piece hpiece
      rw [List.mem_singleton.mp hpiece]
      exact pieces_wrapWords_trim cs hwidth
    simpa using (pieces_trim cs).flatMap hcut

end TranscriptSearch.Text
