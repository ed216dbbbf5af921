import TranscriptSearch.Proofs.Transcript.KeptCounts

namespace TranscriptSearch.Transcript

theorem firstPositive?_eq_some_iff {start index : Nat} {counts : List Nat} :
    firstPositive? start counts = some index ↔
      start ≤ index ∧ 0 < counts[index]?.getD 0 ∧
        ∀ k, start ≤ k → k < index → counts[k]?.getD 0 = 0 := by
  rw [firstPositive?, Option.map_eq_some_iff]
  constructor
  · rintro ⟨offset, hoffset, rfl⟩
    obtain ⟨hlength, hpositive, hbefore⟩ := List.findIdx?_eq_some_iff_getElem.mp hoffset
    rw [List.getElem_drop, decide_eq_true_eq] at hpositive
    refine ⟨Nat.le_add_right start offset, ?_, ?_⟩
    · rw [List.getElem?_eq_getElem]
      exact hpositive
    · intro k hstart hk
      have hskipped := hbefore (k - start) (by omega)
      rw [List.length_drop] at hlength
      have hkey : start + (k - start) = k := by omega
      simp only [List.getElem_drop, hkey, decide_eq_true_eq, Nat.not_lt,
        Nat.le_zero_eq] at hskipped
      rw [List.getElem?_eq_getElem (by omega)]
      exact hskipped
  · rintro ⟨hstart, hpositive, hbefore⟩
    have hlength : index < counts.length := by
      rcases Nat.lt_or_ge index counts.length with hlt | hge
      · exact hlt
      · rw [List.getElem?_eq_none hge] at hpositive
        exact absurd hpositive (Nat.lt_irrefl 0)
    refine ⟨index - start, List.findIdx?_eq_some_iff_getElem.mpr ⟨?_, ?_, ?_⟩, by omega⟩
    · rw [List.length_drop]
      omega
    · rw [List.getElem?_eq_getElem hlength] at hpositive
      have hkey : start + (index - start) = index := by omega
      simp only [List.getElem_drop, hkey, decide_eq_true_eq]
      exact hpositive
    · intro offset hoffset
      have hskipped := hbefore (start + offset) (by omega) (by omega)
      rw [List.getElem?_eq_getElem (by omega)] at hskipped
      simp only [List.getElem_drop, decide_eq_true_eq]
      exact Nat.not_lt.mpr (Nat.le_of_eq hskipped)

theorem firstPositive?_eq_none_iff {start : Nat} {counts : List Nat} :
    firstPositive? start counts = none ↔ ∀ k, start ≤ k → counts[k]?.getD 0 = 0 := by
  rw [firstPositive?, Option.map_eq_none_iff, List.findIdx?_eq_none_iff]
  constructor
  · intro hzero k hstart
    rcases Nat.lt_or_ge k counts.length with hk | hk
    · have hmem : counts[k] ∈ counts.drop start := by
        have hkey : start + (k - start) = k := by omega
        have hdropped : (counts.drop start)[k - start]? = some counts[k] := by
          rw [List.getElem?_drop, hkey, List.getElem?_eq_getElem hk]
        exact List.mem_of_getElem? hdropped
      rw [List.getElem?_eq_getElem hk]
      simpa using hzero _ hmem
    · rw [List.getElem?_eq_none hk]
      rfl
  · intro hzero count hmem
    obtain ⟨offset, hoffset⟩ := List.mem_iff_getElem?.mp hmem
    rw [List.getElem?_drop] at hoffset
    have hskipped := hzero (start + offset) (Nat.le_add_right start offset)
    rw [hoffset] at hskipped
    simpa using hskipped

variable {t : Transcript} {kept : Option KeptCounts} {text : String} {start index : Nat}

theorem countsFrom_keptPrefix_none (t : Transcript) (term : SearchTerm) :
    t.countsFrom term (t.keptPrefix term none) = t.itemCounts term :=
  countsFrom_of_isPrefix List.nil_prefix

theorem itemCount_of_isRightOf (h : ∀ counts ∈ kept, counts.IsRightOf t) (text : String) :
    t.itemCount kept text = t.itemCount none text := by
  funext index
  rw [itemCount, itemCount]
  cases SearchTerm.ofString? text with
  | none => rfl
  | some term => simp only [countsFrom_keptPrefix h, countsFrom_keptPrefix_none]

theorem locate?_of_isRightOf (h : ∀ counts ∈ kept, counts.IsRightOf t) (text : String) :
    t.locate? kept text = t.locate? none text := by
  funext number
  rw [locate?, locate?]
  cases SearchTerm.ofString? text with
  | none => rfl
  | some term => simp only [countsFrom_keptPrefix h, countsFrom_keptPrefix_none]

theorem itemFrom?_eq_some_iff (h : ∀ counts ∈ kept, counts.IsRightOf t) :
    t.itemFrom? kept text start = some index ↔
      start ≤ index ∧ 0 < t.itemCount none text index ∧
        ∀ k, start ≤ k → k < index → t.itemCount none text k = 0 := by
  rw [← itemCount_of_isRightOf h]
  cases hterm : SearchTerm.ofString? text with
  | none => simp [itemFrom?, itemCount, hterm]
  | some term =>
      simp only [itemFrom?, itemCount, hterm]
      exact firstPositive?_eq_some_iff

theorem itemFrom?_eq_none_iff (h : ∀ counts ∈ kept, counts.IsRightOf t) :
    t.itemFrom? kept text start = none ↔ ∀ k, start ≤ k → t.itemCount none text k = 0 := by
  rw [← itemCount_of_isRightOf h]
  cases hterm : SearchTerm.ofString? text with
  | none => simp [itemFrom?, itemCount, hterm]
  | some term =>
      simp only [itemFrom?, itemCount, hterm]
      exact firstPositive?_eq_none_iff

theorem nextItem?_of_lt {after : UInt64} (hafter : after.toNat + 1 < UInt64.size) :
    t.nextItem? kept text after = some (t.itemFrom? kept text (after.toNat + 1)) := by
  rw [nextItem?, addWords?_of_lt hafter]
  cases hterm : SearchTerm.ofString? text with
  | none => simp [itemFrom?, hterm]
  | some _ => rfl

/-- Only behind the last word is there no answer, and only where a successor is needed. -/
theorem nextItem?_eq_none_iff {after : UInt64} :
    t.nextItem? kept text after = none ↔
      SearchTerm.ofString? text ≠ none ∧ after.toNat + 1 = UInt64.size := by
  have hle : after.toNat + 1 ≤ UInt64.size := after.toNat_lt_size
  rw [nextItem?]
  cases SearchTerm.ofString? text with
  | none => simp
  | some _ =>
      rw [Option.map_eq_none_iff, addWords?_eq_none_iff, and_iff_right (Option.some_ne_none _)]
      omega

theorem itemCount_none_eq {term : SearchTerm} (hterm : SearchTerm.ofString? text = some term) :
    t.itemCount none text index = (t.itemCounts term)[index]?.getD 0 := by
  simp only [itemCount, hterm, countsFrom_keptPrefix_none]

theorem length_countsFrom_keptPrefix (t : Transcript) (term : SearchTerm)
    (kept : Option KeptCounts) :
    (t.countsFrom term (t.keptPrefix term kept)).length = t.size := by
  have hprefix : (t.keptPrefix term kept).length ≤ t.size := by
    cases kept with
    | none => exact Nat.zero_le _
    | some kept =>
        rw [keptPrefix]
        split
        · next happlies =>
            simp only [KeptCounts.appliesTo, Bool.and_eq_true, decide_eq_true_eq] at happlies
            exact happlies.2
        · exact Nat.zero_le _
  rw [countsFrom, List.length_append, List.length_map, List.length_drop]
  exact Nat.add_sub_cancel' hprefix

theorem lt_size_of_itemFrom? (h : t.itemFrom? kept text start = some index) : index < t.size := by
  obtain ⟨term, -, hfirst⟩ := Option.bind_eq_some_iff.mp h
  obtain ⟨-, hpositive, -⟩ := firstPositive?_eq_some_iff.mp hfirst
  rw [← t.length_countsFrom_keptPrefix term kept]
  refine Nat.lt_of_not_le fun hge => ?_
  rw [List.getElem?_eq_none hge] at hpositive
  exact Nat.lt_irrefl 0 hpositive

theorem lt_size_of_itemCount_pos (h : 0 < t.itemCount none text index) : index < t.size := by
  refine Nat.lt_of_not_le fun hge => ?_
  cases hterm : SearchTerm.ofString? text with
  | none =>
      simp only [itemCount, hterm] at h
      exact Nat.lt_irrefl 0 h
  | some term =>
      have hlength : (t.itemCounts term).length = t.size := List.length_map _
      rw [itemCount_none_eq hterm, List.getElem?_eq_none (hlength ▸ hge)] at h
      exact Nat.lt_irrefl 0 h

theorem indexOf?_eq {t : Transcript} (hids : (t.items.map (·.id)).Nodup) {index : Nat}
    {item : Item} (hitem : t.item? index = some item) : t.indexOf? item.id = some index := by
  obtain ⟨hindex, heq⟩ := List.getElem?_eq_some_iff.mp hitem
  refine List.findIdx?_eq_some_iff_getElem.mpr ⟨hindex, ?_, ?_⟩
  · rw [heq]
    exact beq_self_eq_true item.id
  · intro earlier hearlier
    rw [beq_iff_eq]
    intro hid
    have hdistinct := List.pairwise_iff_getElem.mp hids earlier index
      (by rw [List.length_map]; omega) (by rw [List.length_map]; exact hindex) hearlier
    rw [List.getElem_map, List.getElem_map, heq] at hdistinct
    exact hdistinct hid

end TranscriptSearch.Transcript
