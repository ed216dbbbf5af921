import TranscriptSearch.Match.Segments

namespace TranscriptSearch

open Text

theorem foldedChars_map_char (offset : Nat) (cs : List Char) :
    (foldedChars offset cs).map FoldedChar.char = fold cs := by
  induction cs generalizing offset with
  | nil => rfl
  | cons c cs ih =>
      simp only [foldedChars, List.map_append, List.map_map, ih]
      simp [fold, Function.comp_def]

theorem utf8Size_of_isAscii {c : Char} (h : isAscii c = true) : c.utf8Size = 1 := by
  have hc : c.toNat < 128 := by simpa [isAscii] using h
  apply Char.utf8Size_eq_one_iff.mpr
  rw [UInt32.le_iff_toNat_le]
  change c.toNat ≤ 127
  omega

theorem foldedChars_cons_of_isAscii {c : Char} (h : isAscii c = true) (offset : Nat)
    (cs : List Char) :
    foldedChars offset (c :: cs) =
      ⟨asciiLower c, offset, offset + 1⟩ :: foldedChars (offset + 1) cs := by
  simp [foldedChars, lower_of_isAscii h, utf8Size_of_isAscii h]

theorem foldedChars_getElem?_of_isAscii {cs : List Char} (h : ∀ c ∈ cs, isAscii c = true)
    (offset i : Nat) :
    (foldedChars offset cs)[i]? =
      cs[i]?.map fun c => ⟨asciiLower c, offset + i, offset + i + 1⟩ := by
  induction cs generalizing offset i with
  | nil => simp [foldedChars]
  | cons c cs ih =>
      rw [foldedChars_cons_of_isAscii (h c (by simp))]
      cases i with
      | zero => simp
      | succ i =>
          have htail : ∀ c ∈ cs, isAscii c = true := fun c hc => h c (by simp [hc])
          simp only [List.getElem?_cons_succ, ih htail]
          rw [Nat.add_assoc offset 1 i, Nat.add_comm 1 i]

theorem foldedChars_drop_of_isAscii {cs : List Char} (h : ∀ c ∈ cs, isAscii c = true)
    (offset n : Nat) :
    (foldedChars offset cs).drop n = foldedChars (offset + n) (cs.drop n) := by
  induction cs generalizing offset n with
  | nil => simp [foldedChars]
  | cons c cs ih =>
      cases n with
      | zero => simp
      | succ n =>
          have htail : ∀ c ∈ cs, isAscii c = true := fun c hc => h c (by simp [hc])
          rw [foldedChars_cons_of_isAscii (h c (by simp))]
          simp only [List.drop_succ_cons, ih htail]
          rw [Nat.add_assoc offset 1 n, Nat.add_comm 1 n]

namespace SearchTerm

theorem beginsWith_iff {key : List Char} {chars : List FoldedChar} :
    beginsWith key chars = true ↔ key <+: chars.map FoldedChar.char := by
  induction key generalizing chars with
  | nil => simp [beginsWith]
  | cons k key ih =>
      cases chars with
      | nil => simp [beginsWith]
      | cons c chars =>
          simp only [beginsWith, Bool.and_eq_true, beq_iff_eq, ih, List.map_cons,
            List.cons_prefix_cons]
          exact and_congr_left fun _ => eq_comm

theorem beginsWithAscii_eq_beginsWith {cs : List Char} (h : ∀ c ∈ cs, isAscii c = true)
    (key : List Char) (offset : Nat) :
    beginsWithAscii key cs = beginsWith key (foldedChars offset cs) := by
  induction key generalizing cs offset with
  | nil => simp [beginsWithAscii, beginsWith]
  | cons k key ih =>
      cases cs with
      | nil => rfl
      | cons c cs =>
          have htail : ∀ c ∈ cs, isAscii c = true := fun c hc => h c (by simp [hc])
          rw [foldedChars_cons_of_isAscii (h c (by simp))]
          simp only [beginsWithAscii, beginsWith, ih htail (offset + 1)]

theorem length_le_of_beginsWithAscii {key cs : List Char} (h : beginsWithAscii key cs = true) :
    key.length ≤ cs.length := by
  induction key generalizing cs with
  | nil => simp
  | cons k key ih =>
      cases cs with
      | nil => simp [beginsWithAscii] at h
      | cons c cs =>
          simp only [beginsWithAscii, Bool.and_eq_true] at h
          simpa using ih h.2

theorem scanAscii_eq_scanFolded {key : List Char} (hkey : key ≠ []) {cs : List Char}
    (h : ∀ c ∈ cs, isAscii c = true) (offset : Nat) :
    scanAscii key offset cs = scanFolded key (foldedChars offset cs) := by
  fun_induction scanAscii key offset cs with
  | case1 offset => simp [foldedChars, scanFolded]
  | case2 offset c rest hmatch ih =>
      have hrest : ∀ c ∈ rest, isAscii c = true := fun c hc => h c (by simp [hc])
      have hlength := length_le_of_beginsWithAscii hmatch
      have hpos : 0 < key.length := List.length_pos_iff.mpr hkey
      have hlast := foldedChars_getElem?_of_isAscii h offset (key.length - 1)
      rw [beginsWithAscii_eq_beginsWith h key offset] at hmatch
      rw [ih fun c hc => hrest c (List.mem_of_mem_drop hc)]
      rw [foldedChars_cons_of_isAscii (h c (by simp))] at hlast hmatch ⊢
      rw [scanFolded, if_pos hmatch, hlast, List.getElem?_eq_getElem (by omega),
        foldedChars_drop_of_isAscii hrest]
      have hstop : offset + (key.length - 1) + 1 = offset + key.length := by omega
      have hnext : offset + 1 + (key.length - 1) = offset + key.length := by omega
      simp only [Option.map_some, Option.getD_some, hstop, hnext]
  | case3 offset c rest hmatch ih =>
      have hrest : ∀ c ∈ rest, isAscii c = true := fun c hc => h c (by simp [hc])
      rw [beginsWithAscii_eq_beginsWith h key offset] at hmatch
      rw [foldedChars_cons_of_isAscii (h c (by simp))] at hmatch ⊢
      rw [scanFolded, if_neg hmatch, ih hrest]

/-- The spans of a term are those of the folded scan, whichever scan finds them. -/
theorem spans_eq_scanFolded (term : SearchTerm) (text : String) :
    term.spans text = scanFolded term.key (foldedChars 0 text.toList) := by
  simp only [spans]
  split
  · next h =>
      simp only [Bool.and_eq_true, List.all_eq_true] at h
      exact scanAscii_eq_scanFolded term.key_ne_nil h.2 0
  · rfl

theorem spans_eq_of_key_eq {a b : SearchTerm} (h : a.key = b.key) (text : String) :
    a.spans text = b.spans text := by
  rw [spans_eq_scanFolded, spans_eq_scanFolded, h]

theorem countIn_eq_of_key_eq {a b : SearchTerm} (h : a.key = b.key) (segments : List String) :
    a.countIn segments = b.countIn segments := by
  have hcount : a.count = b.count := by
    funext text
    simp only [count, spans_eq_of_key_eq h]
  simp only [countIn, hcount]

end SearchTerm

end TranscriptSearch
