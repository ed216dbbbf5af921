import TranscriptSearch.Proofs.Match.FoldedScan

namespace TranscriptSearch

open Text

/-- A choice of disjoint occurrences of a key in a folded text, made from the front to the back: a
character is passed over, or an occurrence is taken. -/
inductive Packing (key : List Char) : List Char → Nat → Prop
  | done : Packing key [] 0
  | skip (c : Char) {text : List Char} {n : Nat} :
      Packing key text n → Packing key (c :: text) n
  | take {text : List Char} {n : Nat} :
      Packing key text n → Packing key (key ++ text) (n + 1)

namespace Packing

variable {key text other : List Char} {m n : Nat}

theorem zero (key text : List Char) : Packing key text 0 := by
  induction text with
  | nil => exact .done
  | cons c text ih => exact .skip c ih

theorem skips (h : Packing key text n) (before : List Char) :
    Packing key (before ++ text) n := by
  induction before with
  | nil => exact h
  | cons c before ih => exact .skip c ih

theorem append (h : Packing key text m) (h' : Packing key other n) :
    Packing key (text ++ other) (m + n) := by
  induction h with
  | done => simpa using h'
  | skip c _ ih => exact .skip c ih
  | take _ ih =>
      rw [List.append_assoc, Nat.add_right_comm]
      exact .take ih

theorem mono (h : Packing key text n) (hm : m ≤ n) : Packing key text m := by
  induction h generalizing m with
  | done =>
      have : m = 0 := Nat.le_zero.mp hm
      subst m
      exact .done
  | skip c _ ih => exact .skip c (ih hm)
  | take h ih =>
      cases m with
      | zero => exact zero key _
      | succ m => exact .take (ih (Nat.le_of_succ_le_succ hm))

theorem drop (h : Packing key text n) {k : Nat} (hk : k ≤ key.length) :
    Packing key (text.drop k) (n - 1) := by
  induction h generalizing k with
  | done => simpa using Packing.done
  | @skip c text n h ih =>
      cases k with
      | zero => exact (Packing.skip c h).mono (Nat.sub_le n 1)
      | succ k => exact ih (Nat.le_of_succ_le hk)
  | @take text n h _ =>
      have hrest : (key ++ text).drop k = key.drop k ++ text := by
        simp [List.drop_append, Nat.sub_eq_zero_of_le hk]
      rw [hrest]
      exact h.skips (key.drop k)

theorem tail {c : Char} (h : Packing key (c :: text) n) (hn : ¬ key <+: c :: text) :
    Packing key text n := by
  generalize hwhole : c :: text = whole at h
  cases h with
  | done => simp at hwhole
  | skip _ h =>
      rw [List.cons.injEq] at hwhole
      exact hwhole.2 ▸ h
  | take h => exact absurd ⟨_, hwhole.symm⟩ hn

theorem eq_zero_of_nil (hkey : key ≠ []) (h : Packing key [] n) : n = 0 := by
  generalize hwhole : ([] : List Char) = whole at h
  cases h with
  | done => rfl
  | skip _ h => simp at hwhole
  | take h => exact absurd (List.append_eq_nil_iff.mp hwhole.symm).1 hkey

end Packing

namespace SearchTerm

theorem map_char_eq_of_beginsWith {key : List Char} (hkey : key ≠ []) {c : FoldedChar}
    {rest : List FoldedChar} (h : beginsWith key (c :: rest) = true) :
    (c :: rest).map FoldedChar.char =
      key ++ (rest.drop (key.length - 1)).map FoldedChar.char := by
  obtain ⟨after, hafter⟩ := beginsWith_iff.mp h
  obtain ⟨k, hk⟩ : ∃ k, key.length = k + 1 :=
    Nat.exists_eq_succ_of_ne_zero (mt List.length_eq_zero_iff.mp hkey)
  have hdrop := congrArg (List.drop key.length) hafter
  rw [List.drop_left, ← List.map_drop, hk, List.drop_succ_cons] at hdrop
  rw [← hafter, hk, Nat.add_sub_cancel, hdrop]

theorem packing_scanFolded {key : List Char} (hkey : key ≠ []) (chars : List FoldedChar) :
    Packing key (chars.map FoldedChar.char) (scanFolded key chars).length := by
  fun_induction scanFolded key chars with
  | case1 => exact .done
  | case2 c rest hmatch last ih =>
      rw [map_char_eq_of_beginsWith hkey hmatch]
      exact .take ih
  | case3 c rest hmatch ih => exact .skip c.char ih

theorem le_length_scanFolded {key : List Char} (hkey : key ≠ []) {chars : List FoldedChar}
    {n : Nat} (h : Packing key (chars.map FoldedChar.char) n) :
    n ≤ (scanFolded key chars).length := by
  induction chars using scanFolded.induct key generalizing n with
  | case1 =>
      rw [h.eq_zero_of_nil hkey]
      exact Nat.zero_le _
  | case2 c rest hmatch ih =>
      rw [scanFolded, if_pos hmatch]
      have hdrop := h.drop (Nat.le_refl key.length)
      rw [map_char_eq_of_beginsWith hkey hmatch, List.drop_left] at hdrop
      exact Nat.le_add_of_sub_le (ih hdrop)
  | case3 c rest hmatch ih =>
      rw [scanFolded, if_neg hmatch]
      exact ih (h.tail fun hprefix => hmatch (beginsWith_iff.mpr hprefix))

/-- The number of occurrences of a term is the largest number of disjoint ones. -/
theorem packing_iff_le_count (term : SearchTerm) (text : String) (n : Nat) :
    Packing term.key (fold text.toList) n ↔ n ≤ term.count text := by
  have hscan := packing_scanFolded term.key_ne_nil (foldedChars 0 text.toList)
  rw [← foldedChars_map_char 0 text.toList, count, spans_eq_scanFolded]
  exact ⟨le_length_scanFolded term.key_ne_nil, hscan.mono⟩

theorem count_append_le (term : SearchTerm) (a b : String) :
    term.count a + term.count b ≤ term.count (a ++ b) := by
  have ha := (term.packing_iff_le_count a _).mpr (Nat.le_refl _)
  have hb := (term.packing_iff_le_count b _).mpr (Nat.le_refl _)
  rw [← packing_iff_le_count, String.toList_append, fold_append]
  exact ha.append hb

end SearchTerm

end TranscriptSearch
