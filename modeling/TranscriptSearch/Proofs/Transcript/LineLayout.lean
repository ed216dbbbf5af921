import Mathlib.Data.List.DropRight
import TranscriptSearch.Proofs.Text.Lines
import TranscriptSearch.Transcript.Source

namespace TranscriptSearch.Text

/-- A text that may stand in a line of its own. -/
structure IsFilledLine (line : List Char) : Prop where
  ne_nil : line ≠ []
  break_not_mem : '\n' ∉ line
  trim_eq : trim line = line

/-- Texts in lines of their own, with only white space around them. -/
inductive Layout : List (List Char) → List Char → Prop
  | nil {gap : List Char} : allBlank gap = true → Layout [] gap
  | single {gap line tail : List Char} :
      allBlank gap = true → IsFilledLine line → allBlank tail = true →
        Layout [line] (gap ++ (line ++ tail))
  | cons {gap line space next rest : List Char} {lines : List (List Char)} :
      allBlank gap = true → IsFilledLine line → allBlank space = true → '\n' ∈ space →
        Layout (next :: lines) rest →
          Layout (line :: next :: lines) (gap ++ (line ++ (space ++ rest)))

theorem forall_mem_of_allBlank {cs : List Char} (h : allBlank cs = true) :
    ∀ c ∈ cs, isBlank c = true :=
  List.all_eq_true.mp h

theorem allBlank_append {cs tail : List Char} (h : allBlank cs = true)
    (htail : allBlank tail = true) :
    allBlank (cs ++ tail) = true := by
  rw [allBlank, List.all_append, Bool.and_eq_true]
  exact ⟨h, htail⟩

/-- The text without the white space at its end. -/
def trimEnd (cs : List Char) : List Char :=
  cs.rdropWhile isBlank

theorem trim_eq_trimEnd (cs : List Char) : trim cs = trimEnd (cs.dropWhile isBlank) :=
  rfl

theorem trimEnd_append_blank (cs : List Char) {tail : List Char} (h : allBlank tail = true) :
    trimEnd (cs ++ tail) = trimEnd cs := by
  rw [trimEnd, List.rdropWhile, List.reverse_append, List.dropWhile_append_of_pos]
  · rfl
  · intro c hc
    exact forall_mem_of_allBlank h c (List.mem_reverse.mp hc)

theorem trim_append_blank (cs : List Char) {tail : List Char} (h : allBlank tail = true) :
    trim (cs ++ tail) = trim cs := by
  rw [trim_eq_trimEnd, trim_eq_trimEnd, List.dropWhile_append]
  split
  · next hblank =>
      rw [List.isEmpty_iff.mp hblank, List.dropWhile_eq_nil_iff.mpr (forall_mem_of_allBlank h)]
  · exact trimEnd_append_blank _ h

theorem trimEnd_append {cs tail : List Char} (h : ∃ c ∈ tail, isBlank c = false) :
    trimEnd (cs ++ tail) = cs ++ trimEnd tail := by
  obtain ⟨c, hc, hfilled⟩ := h
  rw [trimEnd, List.rdropWhile, List.reverse_append, List.dropWhile_append, if_neg,
    List.reverse_append, List.reverse_reverse]
  · rfl
  · rw [List.isEmpty_iff, List.dropWhile_eq_nil_iff]
    intro hblank
    exact Bool.false_ne_true (hfilled.symm.trans (hblank c (List.mem_reverse.mpr hc)))

theorem trimEnd_of_allBlank {cs : List Char} (h : allBlank cs = true) : trimEnd cs = [] :=
  List.rdropWhile_eq_nil_iff.mpr (forall_mem_of_allBlank h)

theorem exists_filled_of_trimEnd {cs : List Char} (h : ∃ c ∈ cs, isBlank c = false) :
    ∃ c ∈ trimEnd cs, isBlank c = false := by
  obtain ⟨c, hc, hfilled⟩ := h
  have hsplit : c ∈ trimEnd cs ++ cs.rtakeWhile isBlank := by
    rw [trimEnd, List.rdropWhile_append_rtakeWhile]
    exact hc
  rcases List.mem_append.mp hsplit with hfront | hback
  · exact ⟨c, hfront, hfilled⟩
  · exact absurd (hfilled.symm.trans (List.mem_rtakeWhile_imp hback)) Bool.false_ne_true

theorem trim_append_of_allBlank {gap : List Char} (h : allBlank gap = true) (cs : List Char) :
    trim (gap ++ cs) = trim cs := by
  rw [trim_eq_trimEnd, List.dropWhile_append_of_pos (forall_mem_of_allBlank h)]
  rfl

theorem exists_filledLine {cs : List Char} (hbreak : '\n' ∉ cs) (h : allBlank cs = false) :
    ∃ gap line tail, cs = gap ++ (line ++ tail) ∧ allBlank gap = true ∧ IsFilledLine line ∧
      allBlank tail = true := by
  have hpieces := pieces_trim cs
  generalize htrim : trim cs = line at hpieces
  cases hpieces with
  | @cons gap _ _ tail hgap hrest =>
      cases hrest with
      | nil htail =>
          have hgapBlank : allBlank gap = true := List.all_eq_true.mpr hgap
          have htailBlank : allBlank tail = true := List.all_eq_true.mpr htail
          rw [trim_append_of_allBlank hgapBlank, trim_append_blank line htailBlank] at htrim
          refine ⟨gap, line, tail, rfl, hgapBlank, ⟨?_, ?_, htrim⟩, htailBlank⟩
          · rintro rfl
            exact Bool.false_ne_true (h.symm.trans (allBlank_append hgapBlank htailBlank))
          · intro hmem
            exact hbreak (List.mem_append_right gap (List.mem_append_left tail hmem))

namespace IsFilledLine

variable {line : List Char}

theorem head_filled (h : IsFilledLine line) : ∃ c tail, line = c :: tail ∧ isBlank c = false := by
  obtain ⟨c, tail, rfl⟩ := List.exists_cons_of_ne_nil h.ne_nil
  refine ⟨c, tail, rfl, Bool.eq_false_iff.mpr fun hblank => ?_⟩
  have hlength := congrArg List.length h.trim_eq
  rw [trim, List.dropWhile_cons_of_pos hblank, List.length_reverse, List.length_cons] at hlength
  have hback := (List.dropWhile_sublist isBlank (l := (tail.dropWhile isBlank).reverse)).length_le
  have hfront := (List.dropWhile_sublist isBlank (l := tail)).length_le
  rw [List.length_reverse] at hback
  omega

theorem dropWhile_append (h : IsFilledLine line) (rest : List Char) :
    (line ++ rest).dropWhile isBlank = line ++ rest := by
  obtain ⟨c, tail, rfl, hfilled⟩ := h.head_filled
  rw [List.cons_append, List.dropWhile_cons_of_neg (by simp [hfilled])]

theorem trimEnd_eq (h : IsFilledLine line) : trimEnd line = line := by
  have hfront := h.dropWhile_append []
  rw [List.append_nil] at hfront
  have htrim := h.trim_eq
  rw [trim_eq_trimEnd, hfront] at htrim
  exact htrim

theorem exists_filled (h : IsFilledLine line) : ∃ c ∈ line, isBlank c = false := by
  obtain ⟨c, tail, rfl, hfilled⟩ := h.head_filled
  exact ⟨c, List.mem_cons_self, hfilled⟩

end IsFilledLine

namespace Layout

variable {line next cs : List Char} {lines : List (List Char)}

theorem exists_filled (h : Layout (line :: lines) cs) : ∃ c ∈ cs, isBlank c = false := by
  cases h with
  | single _ hline _ =>
      obtain ⟨c, hc, hfilled⟩ := hline.exists_filled
      exact ⟨c, by simp [hc], hfilled⟩
  | cons _ hline _ _ _ =>
      obtain ⟨c, hc, hfilled⟩ := hline.exists_filled
      exact ⟨c, by simp [hc], hfilled⟩

theorem dropWhile (h : Layout lines cs) : Layout lines (cs.dropWhile isBlank) := by
  cases h with
  | nil hgap =>
      rw [List.dropWhile_eq_nil_iff.mpr (forall_mem_of_allBlank hgap)]
      exact .nil rfl
  | single hgap hline htail =>
      rw [List.dropWhile_append_of_pos (forall_mem_of_allBlank hgap), hline.dropWhile_append]
      exact @Layout.single [] _ _ rfl hline htail
  | cons hgap hline hspace hbreak hrest =>
      rw [List.dropWhile_append_of_pos (forall_mem_of_allBlank hgap), hline.dropWhile_append]
      exact @Layout.cons [] _ _ _ _ _ rfl hline hspace hbreak hrest

theorem prepend {gap : List Char} (hgap : allBlank gap = true) (h : Layout lines cs) :
    Layout lines (gap ++ cs) := by
  cases h with
  | nil h => exact .nil (allBlank_append hgap h)
  | single h hline htail =>
      rw [← List.append_assoc]
      exact .single (allBlank_append hgap h) hline htail
  | cons h hline hspace hbreak hrest =>
      rw [← List.append_assoc]
      exact .cons (allBlank_append hgap h) hline hspace hbreak hrest

theorem trimEnd (h : Layout lines cs) : Layout lines (trimEnd cs) := by
  induction h with
  | nil hgap =>
      rw [trimEnd_of_allBlank hgap]
      exact .nil rfl
  | @single gap line tail hgap hline htail =>
      have hbare : Layout [line] (gap ++ (line ++ [])) := .single hgap hline rfl
      rw [← List.append_assoc, trimEnd_append_blank _ htail, trimEnd_append hline.exists_filled,
        hline.trimEnd_eq]
      rwa [List.append_nil] at hbare
  | @cons gap line space next rest lines hgap hline hspace hbreak hrest ih =>
      have hsplit : gap ++ (line ++ (space ++ rest)) = gap ++ line ++ space ++ rest := by
        simp only [List.append_assoc]
      rw [hsplit, trimEnd_append hrest.exists_filled, List.append_assoc, List.append_assoc]
      exact .cons hgap hline hspace hbreak ih

theorem cons_break {gap tail rest : List Char} (hgap : allBlank gap = true)
    (hline : IsFilledLine line) (htail : allBlank tail = true) (hrest : Layout lines rest) :
    Layout (line :: lines) (gap ++ (line ++ tail) ++ '\n' :: rest) := by
  have hend : allBlank (tail ++ ['\n']) = true := allBlank_append htail rfl
  have htext :
      gap ++ (line ++ tail) ++ '\n' :: rest = gap ++ (line ++ (tail ++ ['\n'] ++ rest)) := by
    simp only [List.append_assoc, List.cons_append, List.nil_append]
  rw [htext]
  cases lines with
  | nil =>
      cases hrest with
      | nil hblank => exact .single hgap hline (allBlank_append hend hblank)
  | cons next lines => exact .cons hgap hline hend (by simp) hrest

/-- Every text has a layout. -/
theorem exists_layout (cs : List Char) : ∃ lines, Layout lines cs := by
  induction hlength : cs.length using Nat.strongRecOn generalizing cs with
  | _ length ih =>
      by_cases hbreak : '\n' ∈ cs
      · obtain ⟨front, rest, rfl, hfront⟩ := List.eq_append_cons_of_mem hbreak
        have hshorter : rest.length < length := by
          rw [← hlength, List.length_append, List.length_cons]
          omega
        obtain ⟨lines, hrest⟩ := ih _ hshorter rest rfl
        cases hblank : allBlank front with
        | true =>
            have hend : Layout lines (['\n'] ++ rest) := hrest.prepend rfl
            exact ⟨lines, hend.prepend hblank⟩
        | false =>
            obtain ⟨gap, line, tail, rfl, hgap, hline, htail⟩ := exists_filledLine hfront hblank
            exact ⟨line :: lines, .cons_break hgap hline htail hrest⟩
      · cases hblank : allBlank cs with
        | true => exact ⟨[], .nil hblank⟩
        | false =>
            obtain ⟨gap, line, tail, rfl, hgap, hline, htail⟩ := exists_filledLine hbreak hblank
            exact ⟨[line], .single hgap hline htail⟩

theorem trim (h : Layout lines cs) : Layout lines (trim cs) :=
  h.dropWhile.trimEnd

theorem trim_eq_nil (h : Layout [] cs) : Text.trim cs = [] := by
  cases h with
  | nil hgap =>
      rw [trim_eq_trimEnd, List.dropWhile_eq_nil_iff.mpr (forall_mem_of_allBlank hgap)]
      rfl

theorem trim_eq (h : Layout [line] cs) : Text.trim cs = line := by
  cases h with
  | single hgap hline htail =>
      rw [trim_append_of_allBlank hgap, trim_append_blank line htail, hline.trim_eq]

theorem exists_trim_eq (h : Layout (line :: next :: lines) cs) :
    ∃ more, Text.trim cs = line ++ more ∧ ∃ c ∈ more, isBlank c = false := by
  cases h with
  | @cons gap _ space _ rest _ hgap hline hspace hbreak hrest =>
      have hfilled : ∃ c ∈ space ++ rest, isBlank c = false := by
        obtain ⟨c, hc, hfilled⟩ := hrest.exists_filled
        exact ⟨c, List.mem_append_right space hc, hfilled⟩
      refine ⟨Text.trimEnd (space ++ rest), ?_, exists_filled_of_trimEnd hfilled⟩
      rw [trim_append_of_allBlank hgap, trim_eq_trimEnd, hline.dropWhile_append,
        trimEnd_append hfilled]

end Layout

end TranscriptSearch.Text

namespace TranscriptSearch.SourceEvent

open Text

theorem filledLines_cons_blank {c : Char} (h : isBlank c = true) (cs : List Char) :
    filledLines (c :: cs) = filledLines cs := by
  have htrim : ∀ line, trim (c :: line) = trim line := by
    intro line
    rw [trim, List.dropWhile_cons_of_pos h]
    rfl
  generalize htext : c :: cs = text
  fun_cases lines text with
  | case1 => exact absurd htext (List.cons_ne_nil c cs)
  | case2 tail | case3 tail =>
      obtain ⟨rfl, rfl⟩ := List.cons.inj htext
      rfl
  | case4 first tail hbreak hreturn hlines =>
      obtain ⟨rfl, rfl⟩ := List.cons.inj htext
      rw [filledLines, filledLines, lines.eq_4 c cs hbreak hreturn, hlines,
        List.map_singleton, htrim]
      rfl
  | case5 first tail hbreak hreturn line rest hlines =>
      obtain ⟨rfl, rfl⟩ := List.cons.inj htext
      rw [filledLines, filledLines, lines.eq_4 c cs hbreak hreturn, hlines, List.map_cons, htrim]
      rfl

theorem filledLines_append_of_allBlank {gap : List Char} (h : allBlank gap = true)
    (cs : List Char) : filledLines (gap ++ cs) = filledLines cs := by
  induction gap with
  | nil => rfl
  | cons c gap ih =>
      rw [allBlank, List.all_cons, Bool.and_eq_true] at h
      rw [List.cons_append, filledLines_cons_blank h.1]
      exact ih h.2

theorem filledLines_append_break {line space : List Char} (hline : IsFilledLine line)
    (hspace : allBlank space = true) (hbreak : '\n' ∈ space) (rest : List Char) :
    filledLines (line ++ (space ++ rest)) = line :: filledLines rest := by
  obtain ⟨front, back, rfl, hfront⟩ := List.eq_append_cons_of_mem hbreak
  rw [allBlank, List.all_append, List.all_cons, Bool.and_eq_true, Bool.and_eq_true] at hspace
  obtain ⟨hfrontBlank, -, hbackBlank⟩ := hspace
  have hnot : '\n' ∉ line ++ front :=
    fun hmem => (List.mem_append.mp hmem).elim hline.break_not_mem hfront
  obtain ⟨first, gap, hsplit, hgap, hlines⟩ := exists_lines_append_break hnot (back ++ rest)
  have hfirst : trim first = line := by
    rw [← trim_append_blank first (List.all_eq_true.mpr hgap), ← hsplit,
      trim_append_blank line hfrontBlank, hline.trim_eq]
  have htext :
      line ++ (front ++ '\n' :: back ++ rest) = line ++ front ++ '\n' :: (back ++ rest) := by
    simp only [List.append_assoc, List.cons_append]
  rw [htext, filledLines, hlines, List.map_cons, hfirst, List.filter_cons_of_pos,
    ← filledLines_append_of_allBlank hbackBlank rest]
  · rfl
  · simp [hline.ne_nil]

theorem filledLines_append_blank {line tail : List Char} (hline : IsFilledLine line)
    (htail : allBlank tail = true) : filledLines (line ++ tail) = [line] := by
  by_cases hbreak : '\n' ∈ tail
  · have hrest := filledLines_append_break hline htail hbreak []
    rw [List.append_nil] at hrest
    exact hrest
  · have hnot : '\n' ∉ line ++ tail :=
      fun hmem => (List.mem_append.mp hmem).elim hline.break_not_mem hbreak
    rw [filledLines, lines_of_not_mem hnot (by simp [hline.ne_nil]), List.map_singleton,
      trim_append_blank line htail, hline.trim_eq]
    simp [hline.ne_nil]

theorem filledLines_of_layout {lines : List (List Char)} {cs : List Char} (h : Layout lines cs) :
    filledLines cs = lines := by
  induction h with
  | @nil gap hgap =>
      rw [← List.append_nil gap, filledLines_append_of_allBlank hgap]
      rfl
  | single hgap hline htail =>
      rw [filledLines_append_of_allBlank hgap, filledLines_append_blank hline htail]
  | cons hgap hline hspace hbreak _ ih =>
      rw [filledLines_append_of_allBlank hgap, filledLines_append_break hline hspace hbreak, ih]

theorem filledLines_eq_iff {lines : List (List Char)} {cs : List Char} :
    filledLines cs = lines ↔ Layout lines cs := by
  refine ⟨?_, filledLines_of_layout⟩
  rintro rfl
  obtain ⟨lines, h⟩ := Layout.exists_layout cs
  rwa [filledLines_of_layout h]

end TranscriptSearch.SourceEvent
