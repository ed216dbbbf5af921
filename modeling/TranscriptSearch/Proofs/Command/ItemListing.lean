import TranscriptSearch.Command.Report
import TranscriptSearch.Proofs.Number.Blocks
import TranscriptSearch.Proofs.Transcript.Lookup

namespace TranscriptSearch

theorem sumOf_map_filter_pos (count : Nat → Nat) (indices : List Nat) :
    sumOf ((indices.filter fun index => 0 < count index).map count) =
      sumOf (indices.map count) := by
  induction indices with
  | nil => rfl
  | cons index indices ih =>
      rcases Nat.eq_zero_or_pos (count index) with hzero | hpos
      · rw [List.filter_cons_of_neg (by simp [hzero]), ih, List.map_cons, sumOf_cons, hzero,
          Nat.zero_add]
      · rw [List.filter_cons_of_pos (by simp [hpos]), List.map_cons, sumOf_cons, ih,
          List.map_cons, sumOf_cons]

namespace Transcript

/-- Going through indices, from each one on to that of the next item that holds a term, until
there is none. -/
inductive Visits (t : Transcript) (kept : Option KeptCounts) (text : String) :
    Option Nat → List Nat → Prop where
  | done : Visits t kept text none []
  | item {index : Nat} {next : Option Nat} {rest : List Nat} :
      t.nextItem? kept text (.ofNat index) = some next →
        Visits t kept text next rest → Visits t kept text (some index) (index :: rest)

/-- Whether rows are the items that hold a term, each one once and in order, with counts that add
up to the total. -/
structure ListsAll (t : Transcript) (text : String) (rows : List (Nat × Nat)) : Prop where
  mem_iff : ∀ index count,
    (index, count) ∈ rows ↔ 0 < count ∧ t.itemCount none text index = count
  pairwise : rows.Pairwise fun above below => above.1 < below.1
  sum_eq : sumOf (rows.map Prod.snd) = t.total text

/-- The items from an index on that hold a term. -/
def holdersFrom (t : Transcript) (text : String) (start : Nat) : List Nat :=
  (List.range' start (t.size - start)).filter fun index => 0 < t.itemCount none text index

variable {t : Transcript} {kept : Option KeptCounts} {text : String} {start index : Nat}

theorem Visits.eq {first : Option Nat} {visited others : List Nat}
    (h : t.Visits kept text first visited) (hothers : t.Visits kept text first others) :
    visited = others := by
  induction h generalizing others with
  | done =>
      cases hothers
      rfl
  | item hnext _ ih =>
      cases hothers with
      | item hother hrest =>
          obtain rfl := Option.some.inj (hnext.symm.trans hother)
          rw [ih hrest]

theorem mem_holdersFrom :
    index ∈ t.holdersFrom text start ↔ start ≤ index ∧ 0 < t.itemCount none text index := by
  simp only [holdersFrom, List.mem_filter, List.mem_range'_1, decide_eq_true_eq]
  constructor
  · rintro ⟨⟨hstart, -⟩, hpos⟩
    exact ⟨hstart, hpos⟩
  · rintro ⟨hstart, hpos⟩
    have hindex := lt_size_of_itemCount_pos hpos
    exact ⟨⟨hstart, by omega⟩, hpos⟩

theorem holdersFrom_of_itemFrom?_eq_none (h : ∀ counts ∈ kept, counts.IsRightOf t)
    (hnone : t.itemFrom? kept text start = none) : t.holdersFrom text start = [] := by
  apply List.eq_nil_iff_forall_not_mem.mpr
  intro index hindex
  obtain ⟨hstart, hpos⟩ := mem_holdersFrom.mp hindex
  exact Nat.ne_of_gt hpos ((itemFrom?_eq_none_iff h).mp hnone index hstart)

theorem holdersFrom_of_itemFrom?_eq_some (h : ∀ counts ∈ kept, counts.IsRightOf t)
    (hsome : t.itemFrom? kept text start = some index) :
    t.holdersFrom text start = index :: t.holdersFrom text (index + 1) := by
  obtain ⟨hstart, hpos, hbetween⟩ := (itemFrom?_eq_some_iff h).mp hsome
  have hindex := lt_size_of_itemCount_pos hpos
  have hlength : t.size - start = (index - start) + (1 + (t.size - (index + 1))) := by omega
  have hplace : start + (index - start) = index := by omega
  -- The items in front of the next holder hold nothing.
  have hskipped : (List.range' start (index - start)).filter
      (fun index => 0 < t.itemCount none text index) = [] := by
    apply List.filter_eq_nil_iff.mpr
    intro skipped hmem
    rw [List.mem_range'_1] at hmem
    simp [hbetween skipped hmem.1 (by omega)]
  rw [holdersFrom, hlength, ← List.range'_append_1, List.filter_append, hskipped, List.nil_append,
    hplace, Nat.add_comm 1, List.range'_succ, List.filter_cons_of_pos (by simpa using hpos)]
  rfl

theorem nextItem?_ofNat (hsize : t.size < UInt64.size) (hindex : index < t.size) :
    t.nextItem? kept text (.ofNat index) = some (t.itemFrom? kept text (index + 1)) := by
  have hnext : index + 1 < UInt64.size := Nat.lt_of_le_of_lt hindex hsize
  have hword : (UInt64.ofNat index).toNat = index :=
    UInt64.toNat_ofNat_of_lt' (Nat.lt_of_succ_lt hnext)
  rw [nextItem?_of_lt (hword.symm ▸ hnext), hword]

/-- From any index on the listing comes to an end, and it has then been at every holder. -/
theorem visits_holdersFrom (h : ∀ counts ∈ kept, counts.IsRightOf t)
    (hsize : t.size < UInt64.size) (start : Nat) :
    t.Visits kept text (t.itemFrom? kept text start) (t.holdersFrom text start) := by
  induction hrest : t.size - start using Nat.strongRecOn generalizing start with
  | ind rest ih =>
      cases hfirst : t.itemFrom? kept text start with
      | none =>
          rw [holdersFrom_of_itemFrom?_eq_none h hfirst]
          exact .done
      | some index =>
          have hindex := lt_size_of_itemFrom? hfirst
          have hstart := ((itemFrom?_eq_some_iff h).mp hfirst).1
          rw [holdersFrom_of_itemFrom?_eq_some h hfirst]
          refine .item (nextItem?_ofNat hsize hindex) ?_
          exact ih (t.size - (index + 1)) (by omega) (index + 1) rfl

theorem itemFrom?_zero_of_pos (h : ∀ counts ∈ kept, counts.IsRightOf t)
    (hpos : 0 < t.itemCount none text 0) : t.itemFrom? kept text 0 = some 0 :=
  (itemFrom?_eq_some_iff h).mpr ⟨Nat.le_refl 0, hpos, fun k _ hk => absurd hk (Nat.not_lt_zero k)⟩

theorem total_eq_sumOf (t : Transcript) (text : String) :
    t.total text = sumOf ((List.range t.size).map (t.itemCount none text)) := by
  cases hterm : SearchTerm.ofString? text with
  | none =>
      have hzero : t.itemCount none text = fun index => ([] : List Nat)[index]?.getD 0 := by
        funext index
        simp only [itemCount, hterm, List.getElem?_nil, Option.getD_none]
      rw [hzero, sumOf_map_range, List.take_nil]
      simp only [total, hterm, sumOf_nil]
  | some term =>
      have hcounts : t.itemCount none text = fun index => (t.itemCounts term)[index]?.getD 0 := by
        funext index
        exact itemCount_none_eq hterm
      have hlength : (t.itemCounts term).length = t.size := List.length_map _
      rw [hcounts, sumOf_map_range, ← hlength, List.take_length]
      simp only [total, hterm]

theorem countsByItem_eq (t : Transcript) (text : String) :
    t.countsByItem text = if 0 < t.itemCount none text 0 then
      (t.holdersFrom text 0).map fun index => (index, t.itemCount none text index) else [] := by
  have hkept := (@countAll_of_isRightOf t none (by simp) text).2
  have hrows : ((List.range t.size).map fun index => (index, t.itemCount none text index)).filter
      (0 < ·.2) = (t.holdersFrom text 0).map fun index =>
        (index, t.itemCount none text index) := by
    rw [List.filter_map, holdersFrom, Nat.sub_zero, List.range_eq_range']
    rfl
  rw [countsByItem]
  cases hpair : t.countAll none text with
  | mk total kept =>
      rw [hpair] at hkept
      simp only [itemCount_of_isRightOf hkept, hrows]
      cases hsize : t.size with
      | zero =>
          have hnone : ¬ 0 < t.itemCount none text 0 := fun hpos => by
            have hlt := lt_size_of_itemCount_pos hpos
            omega
          rw [if_neg hnone]
          rfl
      | succ n =>
          rw [List.range_succ_eq_map, List.map_cons]
          rcases Nat.eq_zero_or_pos (t.itemCount none text 0) with hzero | hpos
          · simp only [hzero, if_true, Nat.lt_irrefl, if_false]
          · simp only [if_neg (Nat.ne_of_gt hpos), if_pos hpos]

theorem listsAll_holdersFrom (t : Transcript) (text : String) :
    t.ListsAll text
      ((t.holdersFrom text 0).map fun index => (index, t.itemCount none text index)) where
  mem_iff index count := by
    rw [List.mem_map]
    constructor
    · rintro ⟨holder, hholder, heq⟩
      obtain ⟨rfl, rfl⟩ := Prod.mk.inj heq
      exact ⟨(mem_holdersFrom.mp hholder).2, rfl⟩
    · rintro ⟨hpos, rfl⟩
      exact ⟨index, mem_holdersFrom.mpr ⟨Nat.zero_le index, hpos⟩, rfl⟩
  pairwise := by
    rw [List.pairwise_map]
    exact List.Pairwise.sublist List.filter_sublist List.pairwise_lt_range'
  sum_eq := by
    rw [List.map_map, total_eq_sumOf, List.range_eq_range']
    exact sumOf_map_filter_pos (t.itemCount none text) (List.range' 0 t.size)

theorem listsAll_nil_iff : t.ListsAll text [] ↔ t.total text = 0 := by
  constructor
  · intro h
    exact h.sum_eq.symm
  · intro htotal
    have hall := t.listsAll_holdersFrom text
    cases hholders : t.holdersFrom text 0 with
    | nil => rwa [hholders] at hall
    | cons index rest =>
        have hpos : 0 < t.itemCount none text index :=
          (mem_holdersFrom.mp (hholders ▸ List.mem_cons_self)).2
        have hsum := hall.sum_eq
        rw [hholders, List.map_cons, List.map_cons, sumOf_cons, htotal] at hsum
        omega

theorem visits_countsByItem (h : ∀ counts ∈ kept, counts.IsRightOf t)
    (hsize : t.size < UInt64.size) :
    t.Visits kept text (if 0 < t.itemCount kept text 0 then some 0 else none)
      ((t.countsByItem text).map Prod.fst) := by
  rw [itemCount_of_isRightOf h, countsByItem_eq]
  split
  · next hpos =>
      have hvisits : t.Visits kept text _ _ := visits_holdersFrom h hsize 0
      rw [itemFrom?_zero_of_pos h hpos] at hvisits
      rw [List.map_map]
      change t.Visits kept text (some 0) ((t.holdersFrom text 0).map id)
      rwa [List.map_id]
  · exact .done

theorem itemLine_of_mem {row : Nat × Nat} (hrow : row ∈ t.countsByItem text) :
    0 < row.2 ∧ row.2 = t.itemCount none text row.1 ∧ ∃ item, t.item? row.1 = some item ∧
      itemLine t row = [toString row.1 ++ "\t" ++ item.id ++ "\t" ++ toString row.2 ++ "\t" ++
        item.event.title] := by
  rw [countsByItem_eq] at hrow
  split at hrow
  · obtain ⟨hpos, hcount⟩ := ((t.listsAll_holdersFrom text).mem_iff row.1 row.2).mp hrow
    have hindex : row.1 < t.size := lt_size_of_itemCount_pos (hcount ▸ hpos)
    have hitem : t.item? row.1 = some t.items[row.1] := List.getElem?_eq_getElem hindex
    exact ⟨hpos, hcount.symm, t.items[row.1], hitem, by simp only [itemLine, hitem]⟩
  · exact absurd hrow List.not_mem_nil

/-- The listing comes to an end.  Its rows are all items that hold the term, each one once and in
order, and their counts add up to the total, just if the first item holds the term or no item
does; if only the first item does not, nothing is listed. -/
theorem listsAll_countsByItem_iff (t : Transcript) (text : String)
    (hsize : t.size < UInt64.size) :
    let kept := (t.countAll none text).2
    let first := if 0 < t.itemCount kept text 0 then some 0 else none
    (∀ visited, t.Visits kept text first visited ↔
      visited = (t.countsByItem text).map Prod.fst) ∧
    (t.ListsAll text (t.countsByItem text) ↔
      0 < t.itemCount none text 0 ∨ t.total text = 0) ∧
    (t.itemCount none text 0 = 0 → t.countsByItem text = []) ∧
    (∀ row ∈ t.countsByItem text, 0 < row.2 ∧ row.2 = t.itemCount none text row.1 ∧
      ∃ item, t.item? row.1 = some item ∧ itemLine t row =
        [toString row.1 ++ "\t" ++ item.id ++ "\t" ++ toString row.2 ++ "\t" ++
          item.event.title]) ∧
    countReport t text true =
      (t.countsByItem text).flatMap (itemLine t) ++ ["total\t" ++ toString (t.total text)] := by
  intro kept first
  obtain ⟨htotal, hkept⟩ := @countAll_of_isRightOf t none (by simp) text
  refine ⟨fun visited => ⟨fun h => h.eq (visits_countsByItem hkept hsize), ?_⟩, ?_, ?_,
    fun row hrow => itemLine_of_mem hrow, ?_⟩
  · rintro rfl
    exact visits_countsByItem hkept hsize
  · rw [countsByItem_eq]
    split
    · next hpos => exact ⟨fun _ => .inl hpos, fun _ => t.listsAll_holdersFrom text⟩
    · next hzero => rw [listsAll_nil_iff, or_iff_right hzero]
  · intro hzero
    rw [countsByItem_eq, hzero, if_neg (Nat.lt_irrefl 0)]
  · rw [← htotal]
    rfl

theorem listsAll_countsByItem_three :
    let t : Transcript := .ofEvents [⟨none, none, .input "a match"⟩, ⟨none, none, .input "other"⟩,
      ⟨none, none, .input "match match"⟩]
    t.size < UInt64.size ∧ t.ListsAll "match" (t.countsByItem "match") ∧
      t.countsByItem "match" = [(0, 1), (2, 2)] ∧ t.total "match" = 3 := by
  intro t
  have hsize : t.size < UInt64.size := by decide
  obtain ⟨-, hall, -⟩ := listsAll_countsByItem_iff t "match" hsize
  have hfirst : 0 < t.itemCount none "match" 0 := by decide +kernel
  exact ⟨hsize, hall.mpr (.inl hfirst), by decide +kernel, by decide +kernel⟩

/-- The second of two inputs holds the term, and it is not listed. -/
theorem not_listsAll_countsByItem :
    let t : Transcript := .ofEvents [⟨none, none, .input "other"⟩, ⟨none, none, .input "match"⟩]
    t.countsByItem "match" = [] ∧ t.total "match" = 1 ∧
      ¬ t.ListsAll "match" (t.countsByItem "match") := by
  intro t
  have hnil : t.countsByItem "match" = [] := by decide +kernel
  have htotal : t.total "match" = 1 := by decide +kernel
  refine ⟨hnil, htotal, fun hall => ?_⟩
  rw [hnil, listsAll_nil_iff, htotal] at hall
  exact Nat.one_ne_zero hall

end Transcript

end TranscriptSearch
