import TranscriptSearch.Proofs.Match.MatchedTexts
import TranscriptSearch.Proofs.Text.BlankCase
import TranscriptSearch.Proofs.Text.Lines

namespace TranscriptSearch.SearchTerm

open Text

/-- Whether a term has no white space. -/
def IsWord (term : SearchTerm) : Prop :=
  ∀ c ∈ term.key, isBlank c = false

/-- The texts that are matched in a list of texts, each given by its characters. -/
def matchedChars (term : SearchTerm) (texts : List (List Char)) : List String :=
  texts.flatMap fun cs => term.matchedIn (.ofList cs)

variable (term : SearchTerm)

@[simp] theorem matchedChars_nil : term.matchedChars [] = [] := rfl

@[simp] theorem matchedChars_cons (cs : List Char) (texts : List (List Char)) :
    term.matchedChars (cs :: texts) = term.matchedIn (.ofList cs) ++ term.matchedChars texts :=
      rfl

theorem exists_isWord {word : String} (hfilled : word ≠ "")
    (h : ∀ c ∈ word.toList, isBlank c = false) :
    ∃ term, ofString? word = some term ∧ term.IsWord := by
  have hfold : fold word.toList ≠ [] := by
    intro hnil
    obtain ⟨c, cs, hcs⟩ := List.exists_cons_of_ne_nil (mt String.toList_eq_nil_iff.mp hfilled)
    rw [hcs, fold, List.flatMap_cons, List.append_eq_nil_iff] at hnil
    exact lower_ne_nil c hnil.1
  refine ⟨⟨fold word.toList, _, hfold⟩, dif_neg hfold, ?_⟩
  intro d hd
  obtain ⟨c, hc, hlower⟩ := List.mem_flatMap.mp hd
  by_cases hblank : isBlank d = true
  · have hfirst := isBlank_of_mem_lower hlower hblank
    rw [h c hc] at hfirst
    exact absurd hfirst (by decide)
  · exact Bool.eq_false_iff.mpr hblank

namespace IsWord

variable {term : SearchTerm} (hterm : term.IsWord)

include hterm

theorem matchedIn_append_cons {c : Char} (hc : isBlank c = true) (before after : List Char) :
    term.matchedIn (.ofList (before ++ c :: after)) =
      term.matchedIn (.ofList before) ++ term.matchedIn (.ofList after) := by
  apply term.matchedIn_append_cons (lower_of_isBlank hc)
  intro hmem
  rw [hterm c hmem] at hc
  exact absurd hc (by decide)

theorem matchedIn_append_right {gap : List Char} (hgap : ∀ c ∈ gap, isBlank c = true)
    (cs : List Char) : term.matchedIn (.ofList (gap ++ cs)) = term.matchedIn (.ofList cs) := by
  induction gap with
  | nil => rfl
  | cons c gap ih =>
      have hfirst := hterm.matchedIn_append_cons (hgap c (by simp)) [] (gap ++ cs)
      rw [ih fun d hd => hgap d (by simp [hd])] at hfirst
      simpa using hfirst

theorem matchedIn_of_blank {gap : List Char} (hgap : ∀ c ∈ gap, isBlank c = true) :
    term.matchedIn (.ofList gap) = [] := by
  have hall := hterm.matchedIn_append_right hgap []
  simpa using hall

theorem matchedIn_append_left {gap : List Char} (hgap : ∀ c ∈ gap, isBlank c = true)
    (cs : List Char) : term.matchedIn (.ofList (cs ++ gap)) = term.matchedIn (.ofList cs) := by
  cases gap with
  | nil => rw [List.append_nil]
  | cons c gap =>
      have hrest := hterm.matchedIn_of_blank fun d hd => hgap d (List.mem_cons_of_mem c hd)
      rw [hterm.matchedIn_append_cons (hgap c (by simp)), hrest, List.append_nil]

theorem matchedIn_trim (cs : List Char) :
    term.matchedIn (.ofList (trim cs)) = term.matchedIn (.ofList cs) := by
  have hpieces := pieces_trim cs
  generalize trim cs = piece at hpieces
  cases hpieces with
  | cons gap piece hgap hrest =>
      cases hrest with
      | nil hback => rw [hterm.matchedIn_append_right hgap, hterm.matchedIn_append_left hback]

theorem matchedChars_lines (cs : List Char) :
    term.matchedChars (lines cs) = term.matchedIn (.ofList cs) := by
  by_cases hbreak : '\n' ∈ cs
  · -- Between a line and its break there is a carriage return at most, which is white space.
    obtain ⟨before, after, hsplit, hbefore⟩ := List.eq_append_cons_of_mem hbreak
    obtain ⟨line, gap, rfl, hgap, hlines⟩ := exists_lines_append_break hbefore after
    have hshorter : after.length < cs.length := by
      rw [hsplit, List.length_append, List.length_cons]
      omega
    have hrest := matchedChars_lines after
    rw [hsplit, hlines, matchedChars_cons, hrest, hterm.matchedIn_append_cons rfl,
      hterm.matchedIn_append_left hgap]
  · by_cases hempty : cs = []
    · subst hempty
      simp [lines]
    · rw [lines_of_not_mem hbreak hempty]
      simp
termination_by cs.length

theorem matchedIn_unlines (texts : List (List Char)) :
    term.matchedIn (.ofList (unlines texts)) = term.matchedChars texts := by
  induction texts with
  | nil => simp [unlines]
  | cons cs texts ih =>
      cases texts with
      | nil => simp [unlines]
      | cons next texts =>
          have hunlines :
              unlines (cs :: next :: texts) = cs ++ '\n' :: unlines (next :: texts) := by
            simp [unlines]
          rw [hunlines, hterm.matchedIn_append_cons rfl, ih]
          rfl

end IsWord

end TranscriptSearch.SearchTerm
