import TranscriptSearch.Proofs.Match.SpanOrder

namespace TranscriptSearch

namespace Text

theorem byteSize_eq_zero_iff {cs : List Char} : byteSize cs = 0 ↔ cs = [] := by
  cases cs with
  | nil => simp
  | cons c cs =>
      have hpos := Char.utf8Size_pos c
      simp only [byteSize_cons, reduceCtorEq, iff_false]
      omega

theorem isBoundary_iff {cs : List Char} {n : Nat} :
    isBoundary cs n = true ↔ ∃ before after, cs = before ++ after ∧ byteSize before = n := by
  constructor
  · intro h
    fun_induction isBoundary cs n with
    | case1 cs => exact ⟨[], cs, rfl, rfl⟩
    | case2 n hn => simp at h
    | case3 c cs n hn ih =>
        simp only [Bool.and_eq_true, decide_eq_true_eq] at h
        obtain ⟨before, after, rfl, hsize⟩ := ih h.2
        refine ⟨c :: before, after, rfl, ?_⟩
        rw [byteSize_cons, hsize]
        omega
  · rintro ⟨before, after, rfl, rfl⟩
    exact isBoundary_append before after

theorem isBoundary_append_append (before cs after : List Char) :
    isBoundary (before ++ (cs ++ after)) (byteSize before + byteSize cs) = true := by
  rw [← List.append_assoc, ← byteSize_append]
  exact isBoundary_append _ after

theorem exists_append_of_byteSize_le {before after front back : List Char}
    (h : before ++ after = front ++ back)
    (hle : byteSize before ≤ byteSize front) : ∃ between, front = before ++ between ∧
    after = between ++ back := by
  rcases List.append_eq_append_iff.mp h with ⟨between, hfront, hafter⟩ | ⟨between, hbefore, hback⟩
  · exact ⟨between, hfront, hafter⟩
  · have hempty : between = [] := by
      rw [hbefore, byteSize_append] at hle
      exact byteSize_eq_zero_iff.mp (by omega)
    subst hempty
    exact ⟨[], by simpa using hbefore.symm, by simpa using hback.symm⟩

theorem le_or_le_of_isBoundary {front back : List Char} {c : Char} {n : Nat}
    (h : isBoundary (front ++ c :: back) n = true) :
    n ≤ byteSize front ∨ byteSize front + c.utf8Size ≤ n := by
  obtain ⟨before, after, heq, rfl⟩ := isBoundary_iff.mp h
  rcases Nat.le_total (byteSize before) (byteSize front) with hle | hle
  · exact .inl hle
  · obtain ⟨between, rfl, hrest⟩ := exists_append_of_byteSize_le heq hle
    cases between with
    | nil => exact .inl (by rw [List.append_nil])
    | cons d between =>
        obtain ⟨rfl, -⟩ := List.cons.inj hrest
        rw [byteSize_append, byteSize_cons]
        exact .inr (by omega)

theorem takeBytes_byteSize (cs : List Char) : takeBytes (byteSize cs) cs = cs := by
  induction cs with
  | nil => rfl
  | cons c cs ih =>
      rw [takeBytes, byteSize_cons, if_pos (Nat.le_add_right _ _), Nat.add_sub_cancel_left, ih]

theorem sliceBytes_append_append (before cs after : List Char) :
    sliceBytes (before ++ (cs ++ after)) (byteSize before) (byteSize before + byteSize cs) =
      cs := by
  have hslice :=
    sliceBytes_append (List.nil_append cs).symm (Nat.le_refl (byteSize cs)) before after
  rw [byteSize_nil, Nat.add_zero] at hslice
  rw [hslice, sliceBytes, dropBytes, Nat.sub_zero, takeBytes_byteSize]

end Text

namespace Span

open Text

theorem isRangeOf_append {before cs after : List Char} (hcs : cs ≠ []) :
    (⟨byteSize before, byteSize before + byteSize cs⟩ : Span).IsRangeOf
      (before ++ (cs ++ after)) where
  start_lt_stop := by
    have hsize : byteSize cs ≠ 0 := mt byteSize_eq_zero_iff.mp hcs
    change byteSize before < byteSize before + byteSize cs
    omega
  stop_le := by
    rw [byteSize_append, byteSize_append]
    exact Nat.add_le_add_left (Nat.le_add_right _ _) _
  isBoundary_start := isBoundary_append before _
  isBoundary_stop := isBoundary_append_append before cs after

theorem textOf_append_append (before cs after : List Char) :
    (⟨byteSize before, byteSize before + byteSize cs⟩ : Span).textOf
      (.ofList (before ++ (cs ++ after))) =
      .ofList cs := by
  rw [textOf, String.toList_ofList, sliceBytes_append_append]

theorem IsRangeOf.exists_eq {span : Span} {text : List Char} (h : span.IsRangeOf text) :
    ∃ before cs after, text = before ++ (cs ++ after) ∧ cs ≠ [] ∧
      span = ⟨byteSize before, byteSize before + byteSize cs⟩ := by
  obtain ⟨before, rest, hrest, hstart⟩ := isBoundary_iff.mp h.isBoundary_start
  obtain ⟨front, after, hafter, hstop⟩ := isBoundary_iff.mp h.isBoundary_stop
  have hlt := h.start_lt_stop
  obtain ⟨cs, rfl, rfl⟩ := exists_append_of_byteSize_le (hrest.symm.trans hafter) (by omega)
  rw [byteSize_append] at hstop
  refine ⟨before, cs, after, hrest, ?_, ?_⟩
  · rintro rfl
    rw [byteSize_nil] at hstop
    omega
  · rw [hstop, hstart]

end Span

end TranscriptSearch
