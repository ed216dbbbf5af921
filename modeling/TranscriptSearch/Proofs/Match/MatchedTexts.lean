import TranscriptSearch.Proofs.Match.FoldedScan

namespace TranscriptSearch

open Text

namespace SearchTerm

/-- The texts that are matched in a text, in order. -/
def matchedIn (term : SearchTerm) (text : String) : List String :=
  (term.spans text).map (·.textOf text)

end SearchTerm

/-- The text that is matched by an occurrence in a list of texts. -/
def SegmentMatch.textIn (found : SegmentMatch) (segments : List String) : String :=
  found.span.textOf (segments.getD found.segment "")

namespace SearchTerm

/-- The texts that are matched in a list of texts, in order. -/
def matchedTexts (term : SearchTerm) (segments : List String) : List String :=
  (term.occurrences segments).map (·.textIn segments)

end SearchTerm

/-- A folded character that comes from some text further back. -/
def FoldedChar.shift (offset : Nat) (c : FoldedChar) : FoldedChar :=
  ⟨c.char, offset + c.start, offset + c.stop⟩

theorem foldedChars_add (offset first : Nat) (cs : List Char) :
    foldedChars (offset + first) cs = (foldedChars first cs).map (FoldedChar.shift offset) := by
  induction cs generalizing first with
  | nil => rfl
  | cons c cs ih =>
      simp only [foldedChars, Nat.add_assoc, ih, List.map_append, List.map_map]
      rfl

theorem foldedChars_append (offset : Nat) (a b : List Char) :
    foldedChars offset (a ++ b) =
      foldedChars offset a ++ foldedChars (offset + byteSize a) b := by
  induction a generalizing offset with
  | nil => rfl
  | cons c a ih =>
      simp only [List.cons_append, foldedChars, ih, byteSize_cons, Nat.add_assoc,
        List.append_assoc]

theorem exists_of_mem_foldedChars {offset : Nat} {cs : List Char} {c : FoldedChar}
    (h : c ∈ foldedChars offset cs) :
    ∃ before d after, cs = before ++ d :: after ∧ c.start = offset + byteSize before ∧
      c.stop = offset + byteSize (before ++ [d]) := by
  induction cs generalizing offset with
  | nil => simp [foldedChars] at h
  | cons d cs ih =>
      rcases List.mem_append.mp h with hfirst | hrest
      · obtain ⟨lowered, -, rfl⟩ := List.mem_map.mp hfirst
        exact ⟨[], d, cs, rfl, rfl, rfl⟩
      · obtain ⟨before, e, after, rfl, hstart, hstop⟩ := ih hrest
        refine ⟨d :: before, e, after, rfl, ?_, ?_⟩
        · rw [hstart, byteSize_cons, Nat.add_assoc]
        · rw [hstop, List.cons_append, byteSize_cons, Nat.add_assoc]

namespace SearchTerm

theorem scanFolded_nil (key : List Char) : scanFolded key [] = [] := by
  rw [scanFolded]

theorem beginsWith_map_shift (offset : Nat) (key : List Char) (chars : List FoldedChar) :
    beginsWith key (chars.map (FoldedChar.shift offset)) = beginsWith key chars := by
  induction key generalizing chars with
  | nil => cases chars <;> rfl
  | cons k key ih =>
      cases chars with
      | nil => rfl
      | cons c chars =>
          simp only [List.map_cons, beginsWith, ih]
          rfl

theorem scanFolded_map_shift (offset : Nat) (key : List Char) (chars : List FoldedChar) :
    scanFolded key (chars.map (FoldedChar.shift offset)) =
      (scanFolded key chars).map (·.shift offset) := by
  induction chars using scanFolded.induct key with
  | case1 => simp [scanFolded_nil]
  | case2 c rest hmatch ih =>
      have hshifted := hmatch
      rw [← beginsWith_map_shift offset, List.map_cons] at hshifted
      rw [List.map_cons, scanFolded, if_pos hshifted, scanFolded, if_pos hmatch,
        List.map_cons, ← ih, ← List.map_drop, ← List.map_cons, List.getElem?_map, Option.getD_map]
      rfl
  | case3 c rest hmatch ih =>
      have hshifted := hmatch
      rw [← beginsWith_map_shift offset, List.map_cons] at hshifted
      rw [List.map_cons, scanFolded, if_neg hshifted, scanFolded, if_neg hmatch, ih]

theorem exists_of_mem_scanFolded {key : List Char} {chars : List FoldedChar} {span : Span}
    (h : span ∈ scanFolded key chars) :
    ∃ first ∈ chars, ∃ last ∈ chars, span = ⟨first.start, last.stop⟩ := by
  induction chars using scanFolded.induct key with
  | case1 => simp [scanFolded_nil] at h
  | case2 c rest hmatch ih =>
      rw [scanFolded, if_pos hmatch] at h
      rcases List.mem_cons.mp h with rfl | h
      · refine ⟨c, by simp, _, ?_, rfl⟩
        cases hlast : (c :: rest)[key.length - 1]? with
        | none => simp
        | some last => exact List.mem_of_getElem? hlast
      · obtain ⟨first, hfirst, last, hlast, hspan⟩ := ih h
        exact ⟨first, List.mem_cons_of_mem c (List.mem_of_mem_drop hfirst), last,
          List.mem_cons_of_mem c (List.mem_of_mem_drop hlast), hspan⟩
  | case3 c rest hmatch ih =>
      rw [scanFolded, if_neg hmatch] at h
      obtain ⟨first, hfirst, last, hlast, hspan⟩ := ih h
      exact ⟨first, List.mem_cons_of_mem c hfirst, last, List.mem_cons_of_mem c hlast, hspan⟩

theorem beginsWith_append_cons {key : List Char} {c : FoldedChar} (hc : c.char ∉ key)
    (before after : List FoldedChar) :
    beginsWith key (before ++ c :: after) = beginsWith key before := by
  rw [Bool.eq_iff_iff, beginsWith_iff, beginsWith_iff, List.map_append, List.map_cons]
  constructor
  · intro hkey
    have hfront : before.map FoldedChar.char ++ [c.char] <+:
        before.map FoldedChar.char ++ c.char :: after.map FoldedChar.char := by simp
    rcases List.prefix_or_prefix_of_prefix hkey hfront with hprefix | hprefix
    · rcases List.prefix_concat_iff.mp hprefix with rfl | hbefore
      · exact absurd (by simp) hc
      · exact hbefore
    · exact absurd (List.IsPrefix.subset hprefix (by simp)) hc
  · intro hkey
    exact hkey.trans (List.prefix_append _ _)

theorem scanFolded_append_cons {key : List Char} (hkey : key ≠ []) {c : FoldedChar}
    (hc : c.char ∉ key) (before after : List FoldedChar) :
    scanFolded key (before ++ c :: after) = scanFolded key before ++ scanFolded key after := by
  induction before using scanFolded.induct key with
  | case1 =>
      have hmatch : ¬ beginsWith key (c :: after) = true := by
        have hnil := beginsWith_append_cons hc [] after
        rw [List.nil_append] at hnil
        obtain ⟨k, key, rfl⟩ := List.exists_cons_of_ne_nil hkey
        rw [hnil]
        simp [beginsWith]
      rw [scanFolded_nil, List.nil_append, List.nil_append, scanFolded, if_neg hmatch]
  | case2 d rest hmatch ih =>
      have hwhole := hmatch
      rw [← beginsWith_append_cons hc (d :: rest) after, List.cons_append] at hwhole
      -- What is found before the character ends before it, so the scan goes on before it too.
      have hlength := (beginsWith_iff.mp hmatch).length_le
      rw [List.length_map, List.length_cons] at hlength
      have hlast :
          (d :: (rest ++ c :: after))[key.length - 1]? = (d :: rest)[key.length - 1]? := by
        have hpos := List.length_pos_iff.mpr hkey
        rw [← List.cons_append, List.getElem?_append_left (by rw [List.length_cons]; omega)]
      rw [List.cons_append, scanFolded, if_pos hwhole, scanFolded, if_pos hmatch, hlast,
        List.drop_append_of_le_length (by omega), ih, List.cons_append]
  | case3 d rest hmatch ih =>
      have hwhole := hmatch
      rw [← beginsWith_append_cons hc (d :: rest) after, List.cons_append] at hwhole
      rw [List.cons_append, scanFolded, if_neg hwhole, scanFolded, if_neg hmatch, ih]

end SearchTerm

namespace Text

theorem dropBytes_append (before : List Char) (n : Nat) (cs : List Char) :
    dropBytes (byteSize before + n) (before ++ cs) = dropBytes n cs := by
  induction before with
  | nil => rw [byteSize_nil, Nat.zero_add, List.nil_append]
  | cons c before ih =>
      obtain ⟨size, hsize⟩ := Nat.exists_eq_succ_of_ne_zero (Nat.ne_of_gt (Char.utf8Size_pos c))
      have hfirst : byteSize (c :: before) + n = (size + byteSize before + n) + 1 := by
        rw [byteSize_cons, hsize]
        omega
      have hrest : size + byteSize before + n + 1 - c.utf8Size = byteSize before + n := by omega
      rw [hfirst, List.cons_append, dropBytes, hrest, ih]
      exact Nat.succ_ne_zero _

theorem takeBytes_append {n : Nat} {cs : List Char} (h : n ≤ byteSize cs) (after : List Char) :
    takeBytes n (cs ++ after) = takeBytes n cs := by
  induction cs generalizing n with
  | nil =>
      obtain rfl := Nat.le_zero.mp h
      cases after with
      | nil => rfl
      | cons c after =>
          have hsize : ¬ c.utf8Size ≤ 0 := Nat.not_le.mpr (Char.utf8Size_pos c)
          rw [List.nil_append, takeBytes, takeBytes, if_neg hsize]
  | cons c cs ih =>
      rw [byteSize_cons] at h
      rw [List.cons_append, takeBytes, takeBytes, ih (by omega)]

theorem sliceBytes_append {cs first rest : List Char} {stop : Nat} (h : cs = first ++ rest)
    (hstop : stop ≤ byteSize cs) (before after : List Char) :
    sliceBytes (before ++ (cs ++ after)) (byteSize before + byteSize first)
      (byteSize before + stop) =
      sliceBytes cs (byteSize first) stop := by
  subst h
  have hrest := dropBytes_append first 0 rest
  have hwhole := dropBytes_append first 0 (rest ++ after)
  rw [Nat.add_zero, dropBytes] at hrest hwhole
  rw [byteSize_append] at hstop
  have hsize : byteSize before + stop - (byteSize before + byteSize first) =
      stop - byteSize first := by
    omega
  rw [sliceBytes, sliceBytes, dropBytes_append, hsize, List.append_assoc, hrest, hwhole]
  exact takeBytes_append (by omega) after

end Text

namespace SearchTerm

variable (term : SearchTerm)

theorem textOf_shift {text : String} {span : Span} (h : span ∈ term.spans text)
    (before after : String) :
    (span.shift (byteSize before.toList)).textOf (before ++ (text ++ after)) =
      span.textOf text := by
  rw [spans_eq_scanFolded] at h
  obtain ⟨c, hc, d, hd, rfl⟩ := exists_of_mem_scanFolded h
  obtain ⟨first, e, rest, hsplit, hstart, -⟩ := exists_of_mem_foldedChars hc
  obtain ⟨upTo, f, behind, hupTo, -, hstop⟩ := exists_of_mem_foldedChars hd
  have hle : d.stop ≤ byteSize text.toList := by
    rw [hupTo, hstop, Nat.zero_add, List.append_cons upTo f behind, byteSize_append (upTo ++ [f])]
    exact Nat.le_add_right _ _
  rw [Nat.zero_add] at hstart
  simp only [Span.textOf, Span.shift, String.toList_append, hstart]
  rw [sliceBytes_append hsplit hle]

theorem textOf_append {text : String} {span : Span} (h : span ∈ term.spans text)
    (after : String) :
    span.textOf (text ++ after) = span.textOf text := by
  have hshift := term.textOf_shift h "" after
  simpa [Span.shift] using hshift

@[simp] theorem matchedIn_empty : term.matchedIn "" = [] := by
  simp [matchedIn, spans_eq_scanFolded, foldedChars, scanFolded_nil]

/-- At a character that is its own folded form and not in the key, a text falls in two for the
search. -/
theorem matchedIn_append_cons {c : Char} (hlower : lower c = [c]) (hc : c ∉ term.key)
    (before after : List Char) :
    term.matchedIn (.ofList (before ++ c :: after)) =
      term.matchedIn (.ofList before) ++ term.matchedIn (.ofList after) := by
  have hspans : term.spans (.ofList (before ++ c :: after)) = term.spans (.ofList before) ++
      (term.spans (.ofList after)).map (·.shift (byteSize (before ++ [c]))) := by
    have hafter := foldedChars_add (byteSize (before ++ [c])) 0 after
    have hfolded : foldedChars 0 (before ++ c :: after) = foldedChars 0 before ++
        ⟨c, byteSize before, byteSize (before ++ [c])⟩ ::
          (foldedChars 0 after).map (FoldedChar.shift (byteSize (before ++ [c]))) := by
      rw [← hafter]
      simp [foldedChars_append, foldedChars, hlower]
    simp only [spans_eq_scanFolded, String.toList_ofList, hfolded]
    rw [scanFolded_append_cons term.key_ne_nil hc, scanFolded_map_shift]
  rw [matchedIn, hspans, List.map_append, List.map_map]
  congr 1
  · apply List.map_congr_left
    intro span hspan
    rw [String.ofList_append]
    exact term.textOf_append hspan _
  · apply List.map_congr_left
    intro span hspan
    have hshift := term.textOf_shift hspan (.ofList (before ++ [c])) ""
    rw [String.toList_ofList, String.append_empty, ← String.ofList_append, List.append_assoc,
      List.singleton_append] at hshift
    exact hshift

theorem matchedTexts_eq_flatMap (segments : List String) :
    term.matchedTexts segments = segments.flatMap term.matchedIn := by
  -- An occurrence names its text by the number from the beginning, so the texts gone through are
  -- kept.
  have hfrom : ∀ before rest : List String,
      (term.occurrencesFrom before.length rest).map (·.textIn (before ++ rest)) =
        rest.flatMap term.matchedIn := by
    intro before rest
    induction rest generalizing before with
    | nil => rfl
    | cons text rest ih =>
        have hrest := ih (before ++ [text])
        rw [List.length_append, List.length_singleton, List.append_assoc,
          List.singleton_append] at hrest
        rw [occurrencesFrom, List.map_append, hrest, List.flatMap_cons, List.map_map, matchedIn]
        simp [SegmentMatch.textIn, Function.comp_def]
  exact hfrom [] segments

theorem length_matchedTexts (segments : List String) :
    (term.matchedTexts segments).length = term.countIn segments := by
  rw [matchedTexts, List.length_map]
  exact term.length_occurrencesFrom 0 segments

theorem map_locate? (segments : List String) (n : Nat) :
    (term.locate? segments n).map (·.textIn segments) =
      if n = 0 then none else (term.matchedTexts segments)[n - 1]? := by
  rw [locate?, matchedTexts, List.getElem?_map]
  split <;> rfl

end SearchTerm

end TranscriptSearch
