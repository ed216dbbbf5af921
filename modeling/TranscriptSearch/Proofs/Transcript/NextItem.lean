import Mathlib.Order.Bounds.Basic
import TranscriptSearch.Proofs.Transcript.Lookup
import TranscriptSearch.Proofs.Transcript.Resolver

namespace TranscriptSearch

/-- Whether an answer is the least one of some indices, or says that there are none. -/
structure IsFirstOf (indices : Set Nat) (answer : Option Nat) : Prop where
  eq_some_iff : ∀ index, answer = some index ↔ IsLeast indices index
  eq_none_iff : answer = none ↔ indices = ∅

theorem isFirstOf_none_iff {indices : Set Nat} : IsFirstOf indices none ↔ indices = ∅ := by
  constructor
  · intro h
    exact h.eq_none_iff.mp rfl
  · rintro rfl
    exact ⟨fun index => iff_of_false (Option.some_ne_none index).symm fun hleast => hleast.1,
      iff_of_true rfl rfl⟩

namespace Transcript

/-- Whether the item with an index holds a term. -/
def HoldsAt (t : Transcript) (text : String) (index : Nat) : Prop :=
  ∃ term item, SearchTerm.ofString? text = some term ∧ t.item? index = some item ∧
    0 < term.countIn item.texts

/-- The items behind an index that hold a term. -/
def holdersBehind (t : Transcript) (text : String) (after : Nat) : Set Nat :=
  {index | after < index ∧ t.HoldsAt text index}

variable {t : Transcript} {kept : Option KeptCounts} {text : String} {after : UInt64}

theorem holdsAt_iff {index : Nat} : t.HoldsAt text index ↔ 0 < t.itemCount none text index := by
  cases hterm : SearchTerm.ofString? text with
  | none => simp [HoldsAt, itemCount, hterm]
  | some term =>
      rw [itemCount_none_eq hterm, itemCounts, List.getElem?_map]
      cases hitem : t.items[index]? with
      | none => simp [HoldsAt, item?, hitem]
      | some item => simp [HoldsAt, item?, hterm, hitem]

theorem not_holdsAt_iff {index : Nat} : ¬ t.HoldsAt text index ↔
    t.itemCount none text index = 0 := by
  rw [holdsAt_iff, Nat.not_lt, Nat.le_zero]

theorem isFirstOf_itemFrom? (h : ∀ counts ∈ kept, counts.IsRightOf t) (start : Nat) :
    IsFirstOf {index | start ≤ index ∧ t.HoldsAt text index} (t.itemFrom? kept text start) where
  eq_some_iff index := by
    rw [itemFrom?_eq_some_iff h, ← holdsAt_iff, ← and_assoc]
    refine and_congr_right fun _ => ⟨?_, ?_⟩
    · rintro hbefore other ⟨hstart, hholds⟩
      exact Nat.le_of_not_lt fun hlt => not_holdsAt_iff.mpr (hbefore other hstart hlt) hholds
    · intro hleast other hstart hlt
      exact not_holdsAt_iff.mp fun hholds => Nat.not_le.mpr hlt (hleast ⟨hstart, hholds⟩)
  eq_none_iff := by
    rw [itemFrom?_eq_none_iff h, Set.eq_empty_iff_forall_notMem]
    refine forall_congr' fun index => ?_
    rw [← not_holdsAt_iff]
    exact not_and.symm

theorem nextItem?_of_blank (h : SearchTerm.ofString? text = none) :
    t.nextItem? kept text after = some none := by
  rw [nextItem?, h]

theorem holdersBehind_of_blank (h : SearchTerm.ofString? text = none) (bound : Nat) :
    t.holdersBehind text bound = ∅ := by
  refine Set.eq_empty_iff_forall_notMem.mpr ?_
  rintro index ⟨-, term, -, hterm, -⟩
  exact Option.some_ne_none term (hterm.symm.trans h)

end Transcript

namespace Resolver

variable {r : Resolver} {text : String} {after : UInt64}

theorem answer_nextItem_of_eq_some {value : Option Nat}
    (h : r.transcript.nextItem? r.kept text after = some value) :
    r.answer (.nextItem text after) = .item value := by
  simp only [answer, h]

theorem answer_nextItem_eq_overflow_iff : r.answer (.nextItem text after) = .overflow ↔
    r.transcript.nextItem? r.kept text after = none := by
  cases h : r.transcript.nextItem? r.kept text after with
  | none => exact iff_of_true (by simp only [answer, h]) rfl
  | some value =>
      rw [answer_nextItem_of_eq_some h]
      exact iff_of_false (fun heq => ResolverAnswer.noConfusion heq) (Option.some_ne_none value)

/-- Whatever was counted and kept before, the answer is the first item behind the index that holds
the term, or that there is none, as long as the index has a successor among the words.  Behind the
last word only a blank term is answered: it occurs nowhere, and no successor is computed for
it. -/
theorem isFirstOf_nextItem_iff (t : Transcript) (steps : List ResolverStep) (text : String)
    (after : UInt64) :
    let r := (new t).run steps
    ((∃ answer, r.answer (.nextItem text after) = .item answer ∧
        IsFirstOf (r.transcript.holdersBehind text after.toNat) answer) ↔
      SearchTerm.ofString? text = none ∨ after.toNat + 1 < UInt64.size) ∧
    (r.answer (.nextItem text after) = .overflow ↔
      SearchTerm.ofString? text ≠ none ∧ after.toNat + 1 = UInt64.size) := by
  intro r
  have hright : r.IsRight := (isRight_new t).run steps
  have hle : after.toNat + 1 ≤ UInt64.size := after.toNat_lt_size
  have hoverflow : r.answer (.nextItem text after) = .overflow ↔
      SearchTerm.ofString? text ≠ none ∧ after.toNat + 1 = UInt64.size := by
    rw [answer_nextItem_eq_overflow_iff, Transcript.nextItem?_eq_none_iff]
  refine ⟨⟨?_, ?_⟩, hoverflow⟩
  · rintro ⟨answer, hanswer, -⟩
    by_contra hnot
    obtain ⟨hterm, hlast⟩ := not_or.mp hnot
    rw [hoverflow.mpr ⟨hterm, by omega⟩] at hanswer
    exact ResolverAnswer.noConfusion hanswer
  · intro hanswered
    rcases Nat.lt_or_eq_of_le hle with hlt | hlast
    · refine ⟨_, answer_nextItem_of_eq_some (Transcript.nextItem?_of_lt hlt), ?_⟩
      exact Transcript.isFirstOf_itemFrom? hright (after.toNat + 1)
    · have hterm := hanswered.resolve_right (Nat.not_lt_of_le (Nat.le_of_eq hlast.symm))
      refine ⟨none, answer_nextItem_of_eq_some (Transcript.nextItem?_of_blank hterm), ?_⟩
      exact isFirstOf_none_iff.mpr (Transcript.holdersBehind_of_blank hterm after.toNat)

/-- No item is behind the last word, but the question for the first one that holds the term is not
answered with that. -/
theorem nextItem_lastWord_overflow :
    let r := new (.ofEvents [⟨none, none, .input "a match"⟩, ⟨none, none, .input "other"⟩])
    let last : UInt64 := 18446744073709551615
    r.answer (.nextItem "match" last) = .overflow ∧
      IsFirstOf (r.transcript.holdersBehind "match" last.toNat) none := by
  intro r last
  refine ⟨by decide +kernel, isFirstOf_none_iff.mpr (Set.eq_empty_iff_forall_notMem.mpr ?_)⟩
  rintro index ⟨hbehind, _, item, -, hitem, -⟩
  have hindex : index < 2 := (List.getElem?_eq_some_iff.mp hitem).1
  have hlast : 2 < last.toNat := by decide
  exact Nat.lt_asymm hindex (Nat.lt_trans hlast hbehind)

end Resolver

end TranscriptSearch
