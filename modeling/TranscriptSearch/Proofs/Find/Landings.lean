import Mathlib.Algebra.BigOperators.Intervals
import Mathlib.Algebra.Order.BigOperators.Group.Finset
import TranscriptSearch.Proofs.Find.FixedCounts
import TranscriptSearch.Proofs.Transcript.Numbering

namespace TranscriptSearch

open Finset RenderSurface

variable {σ : Type} [RenderSurface σ]

section Sums

variable {shown : Nat → Nat} {first size wanted index : Nat}

theorem sum_Ico_le_sum_Ico {last : Nat} (h : index ≤ last) :
    ∑ k ∈ Ico first index, shown k ≤ ∑ k ∈ Ico first last, shown k :=
  sum_le_sum_of_subset (Ico_subset_Ico_right h)

theorem isLeast_of_sum_lt (hfirst : first ≤ index) (hsize : index < size)
    (hlt : ∑ k ∈ Ico first index, shown k < wanted)
    (hle : wanted ≤ ∑ k ∈ Ico first (index + 1), shown k) :
    IsLeast {j | first ≤ j ∧ j < size ∧ wanted ≤ ∑ k ∈ Ico first (j + 1), shown k} index := by
  refine ⟨⟨hfirst, hsize, hle⟩, ?_⟩
  rintro earlier ⟨-, -, hearlier⟩
  refine Nat.le_of_not_lt fun hbefore => ?_
  have hsum : ∑ k ∈ Ico first (earlier + 1), shown k ≤ ∑ k ∈ Ico first index, shown k :=
    sum_Ico_le_sum_Ico hbefore
  omega

theorem sum_Ico_eq_add {next last : Nat} (hnext : first < next) (hlast : next ≤ last)
    (hzero : ∀ k, first < k → k < next → shown k = 0) :
    ∑ k ∈ Ico first last, shown k = shown first + ∑ k ∈ Ico next last, shown k := by
  have hskipped : ∑ k ∈ Ico (first + 1) next, shown k = 0 := by
    refine sum_eq_zero fun k hk => ?_
    obtain ⟨hlower, hupper⟩ := mem_Ico.mp hk
    exact hzero k hlower hupper
  rw [sum_eq_sum_Ico_succ_bot (Nat.lt_of_lt_of_le hnext hlast),
    ← sum_Ico_consecutive shown hnext hlast, hskipped, Nat.zero_add]

end Sums

/-- How looking for an occurrence from an item on ends, in terms of the numbers that are shown. -/
def EndsBySum (t : Transcript) (shown : Nat → Nat) (index occurrence : Nat)
    (outcome : NavOutcome) :
    Prop :=
  ∑ k ∈ Ico index t.size, shown k < occurrence ∧
      outcome = .notFound .reconciliationExhausted ∨
    ∃ landed item span, index ≤ landed ∧ t.item? landed = some item ∧
      ∑ k ∈ Ico index landed, shown k < occurrence ∧
      occurrence ≤ ∑ k ∈ Ico index (landed + 1), shown k ∧
      outcome = .found ⟨landed, item.id, occurrence - ∑ k ∈ Ico index landed, shown k, span⟩

namespace EndsBySum

variable {t : Transcript} {shown : Nat → Nat} {index occurrence : Nat} {outcome : NavOutcome}

theorem of_next {next : Nat} (hindex : index < next) (hnext : next ≤ t.size)
    (hzero : ∀ k, index < k → k < next → shown k = 0) (hgt : shown index < occurrence)
    (h : EndsBySum t shown next (occurrence - shown index) outcome) :
    EndsBySum t shown index occurrence outcome := by
  rcases h with ⟨hsum, hexhausted⟩ | ⟨landed, item, span, hlanded, hitem, hlt, hle, hfound⟩
  · refine .inl ⟨?_, hexhausted⟩
    rw [sum_Ico_eq_add hindex hnext hzero]
    omega
  · have hbefore : ∑ k ∈ Ico index landed, shown k =
        shown index + ∑ k ∈ Ico next landed, shown k := sum_Ico_eq_add hindex hlanded hzero
    have hthrough : ∑ k ∈ Ico index (landed + 1), shown k =
        shown index + ∑ k ∈ Ico next (landed + 1), shown k :=
      sum_Ico_eq_add hindex (Nat.le_succ_of_le hlanded) hzero
    refine .inr ⟨landed, item, span, by omega, hitem, by omega, by omega, ?_⟩
    rw [hfound, hbefore, Nat.sub_sub]

theorem exhausted_iff (h : EndsBySum t shown index occurrence outcome) :
    outcome = .notFound .reconciliationExhausted ↔ ∑ k ∈ Ico index t.size, shown k <
      occurrence := by
  rcases h with ⟨hsum, rfl⟩ | ⟨landed, item, span, -, hitem, -, hle, rfl⟩
  · exact ⟨fun _ => hsum, fun _ => rfl⟩
  · have hsize : landed < t.size := (List.getElem?_eq_some_iff.mp hitem).1
    have hthrough : ∑ k ∈ Ico index (landed + 1), shown k ≤ ∑ k ∈ Ico index t.size, shown k :=
      sum_Ico_le_sum_Ico hsize
    refine ⟨fun hexhausted => NavOutcome.noConfusion hexhausted, fun hsum => ?_⟩
    omega

/-- What is found is in the first item that the sums reach, as far from its start as they leave
over. -/
theorem found_iff (h : EndsBySum t shown index occurrence outcome) (j m : Nat) :
    (∃ target, outcome = .found target ∧ target.itemIndex = j ∧ target.occurrence = m) ↔
      IsLeast {j | index ≤ j ∧ j < t.size ∧ occurrence ≤ ∑ k ∈ Ico index (j + 1), shown k} j ∧
        m = occurrence - ∑ k ∈ Ico index j, shown k := by
  rcases h with ⟨hsum, rfl⟩ | ⟨landed, item, span, hlanded, hitem, hlt, hle, rfl⟩
  · constructor
    · rintro ⟨target, htarget, -⟩
      exact NavOutcome.noConfusion htarget
    · rintro ⟨⟨⟨-, hj, hreached⟩, -⟩, -⟩
      have hthrough : ∑ k ∈ Ico index (j + 1), shown k ≤ ∑ k ∈ Ico index t.size, shown k :=
        sum_Ico_le_sum_Ico hj
      omega
  · have hleast := isLeast_of_sum_lt hlanded (List.getElem?_eq_some_iff.mp hitem).1 hlt hle
    constructor
    · rintro ⟨target, htarget, rfl, rfl⟩
      obtain rfl := NavOutcome.found.inj htarget
      exact ⟨hleast, rfl⟩
    · rintro ⟨hj, rfl⟩
      obtain rfl := hj.unique hleast
      exact ⟨_, rfl, rfl, rfl⟩

theorem item_of_found {target : MatchTarget}
    (h : EndsBySum t shown index occurrence (.found target)) :
    ∃ item, t.item? target.itemIndex = some item ∧ target.itemId = item.id := by
  rcases h with ⟨-, hexhausted⟩ | ⟨landed, item, span, -, hitem, -, -, hfound⟩
  · exact NavOutcome.noConfusion hexhausted
  · obtain rfl := NavOutcome.found.inj hfound
    exact ⟨item, hitem, rfl⟩

theorem found_of_le_shown (h : EndsBySum t shown index occurrence outcome)
    (hindex : index < t.size) (hle : occurrence ≤ shown index) :
    ∃ target, outcome = .found target ∧ target.itemIndex = index ∧
      target.occurrence = occurrence := by
  refine (h.found_iff index occurrence).mpr ⟨⟨⟨Nat.le_refl _, hindex, ?_⟩, fun j hj => hj.1⟩, ?_⟩
  · rw [Nat.Ico_succ_singleton, sum_singleton]
    exact hle
  · rw [Ico_self, sum_empty, Nat.sub_zero]

end EndsBySum

section Skipped

variable {t : Transcript} {kept : Option KeptCounts} {term : String} {shown : Nat → Nat}
  {index next : Nat}

theorem shown_eq_zero_of_itemFrom?_eq_none (hkept : ∀ counts ∈ kept, counts.IsRightOf t)
    (hshown : ∀ j < t.size, shown j ≤ t.itemCount none term j)
    (hnext : t.itemFrom? kept term (index + 1) = none) :
    ∀ k, index < k → k < t.size → shown k = 0 := by
  intro k hk hsize
  have hle := hshown k hsize
  rw [(Transcript.itemFrom?_eq_none_iff hkept).mp hnext k hk] at hle
  exact Nat.le_zero.mp hle

theorem shown_eq_zero_of_itemFrom?_eq_some (hkept : ∀ counts ∈ kept, counts.IsRightOf t)
    (hshown : ∀ j < t.size, shown j ≤ t.itemCount none term j)
    (hnext : t.itemFrom? kept term (index + 1) = some next) :
    index < next ∧ next < t.size ∧ ∀ k, index < k → k < next → shown k = 0 := by
  obtain ⟨hlater, -, hnone⟩ := (Transcript.itemFrom?_eq_some_iff hkept).mp hnext
  have hsize := Transcript.lt_size_of_itemFrom? hnext
  refine ⟨hlater, hsize, fun k hk hk' => ?_⟩
  have hle := hshown k (hk'.trans hsize)
  rw [hnone k hk hk'] at hle
  exact Nat.le_zero.mp hle

end Skipped

theorem ShowsFixedCounts.endsBySum {t : Transcript} {kept : Option KeptCounts} {term : String}
    {shown : Nat → Nat} {settle : Nat → σ → σ} {ready : σ → Prop} {visible : σ → Nat → Prop}
    (laws : ShowsFixedCounts t term shown settle ready visible)
    (hkept : ∀ counts ∈ kept, counts.IsRightOf t)
    (hshown : ∀ j < t.size, shown j ≤ t.itemCount none term j) {s : σ} {index occurrence : Nat}
    (hready : ready s) (hvisible : index < t.size → visible s index) (hpos : 1 ≤ occurrence) :
    EndsBySum t shown index occurrence
      (landToEnd t kept term settle s index occurrence).1 := by
  -- The way from an item on is shorter than that from any item before it.
  induction hrest : t.size - index using Nat.strong_induction_on
    generalizing s index occurrence with
  | _ rest ih =>
      rw [landToEnd_eq]
      cases hitem : t.item? index with
      | none =>
          have hsize : t.size ≤ index := List.getElem?_eq_none_iff.mp hitem
          refine .inl ⟨?_, rfl⟩
          rw [Ico_eq_empty (by omega), sum_empty]
          exact hpos
      | some item =>
          have hindex : index < t.size := (List.getElem?_eq_some_iff.mp hitem).1
          have hseen := hvisible hindex
          have hcount := laws.count_eq s index item hready hseen hitem
          have hready' := laws.ready_occurrenceCount s item.id hready
          have hseen' := laws.visible_occurrenceCount s item.id index hready hseen
          simp only [hcount]
          split
          · next hle =>
              have hlocate := (laws.isSome_locate_iff _ index item occurrence hready' hseen'
                hitem).mpr ⟨hpos, hle⟩
              obtain ⟨span, hspan⟩ := Option.isSome_iff_exists.mp hlocate
              rcases hlocated :
                locate (occurrenceCount s t item.id term).2 t item.id term occurrence
                with ⟨found, located⟩
              rw [hlocated] at hspan
              obtain rfl : found = some span := hspan
              refine .inr ⟨index, item, span, Nat.le_refl index, hitem, ?_, ?_, ?_⟩
              · rw [Ico_self, sum_empty]
                exact hpos
              · rw [Nat.Ico_succ_singleton, sum_singleton]
                exact hle
              · rw [Ico_self, sum_empty, Nat.sub_zero]
          · next hgt =>
              have hlt : shown index < occurrence := Nat.lt_of_not_le hgt
              cases hnext : t.itemFrom? kept term (index + 1) with
              | none =>
                  have hzero := shown_eq_zero_of_itemFrom?_eq_none hkept hshown hnext
                  refine .inl ⟨?_, rfl⟩
                  rw [sum_Ico_eq_add hindex (Nat.le_refl _) hzero, Ico_self, sum_empty]
                  exact hlt
              | some next =>
                  obtain ⟨hlater, hsize, hzero⟩ :=
                    shown_eq_zero_of_itemFrom?_eq_some hkept hshown hnext
                  obtain ⟨hrevealed, hseen''⟩ := laws.reveals hready' hsize
                  refine .of_next hlater hsize.le hzero hlt ?_
                  exact ih (t.size - next) (by omega) hrevealed (fun _ => hseen'') (by omega) rfl

theorem Transcript.exists_locate?_eq {t : Transcript} {kept : Option KeptCounts}
    (hkept : ∀ counts ∈ kept, counts.IsRightOf t) {text : String} {index occurrence : Nat}
    (hpos : 1 ≤ occurrence) (hle : occurrence ≤ t.itemCount none text index) :
    ∃ number, t.locate? kept text number = some ⟨index, occurrence⟩ := by
  have hright : (Resolver.mk t kept).IsRight := hkept
  cases hterm : SearchTerm.ofString? text with
  | none =>
      simp only [itemCount, hterm] at hle
      omega
  | some term =>
      rw [itemCount_none_eq hterm] at hle
      rcases hsize : (t.itemCounts term)[index]? with _ | size
      · rw [hsize, Option.getD_none] at hle
        omega
      · rw [hsize, Option.getD_some] at hle
        have hoffset : occurrence - 1 < size := by omega
        have hblock := locateIn_of_block hsize hoffset 0
        rw [Nat.zero_add, Nat.sub_add_cancel hpos] at hblock
        refine ⟨sumOf ((t.itemCounts term).take index) + (occurrence - 1) + 1, ?_⟩
        rw [← hblock, hright.locate?_eq hterm, if_neg (Nat.succ_ne_zero _)]

/-- On a surface that shows a fixed number of occurrences of each item, no more than the item
holds, looking for an occurrence from a visible item on ends at the first item with which the
numbers that are shown add up to it; if there is none, the search is exhausted.  Each wait on the
way is for a later item.  So every occurrence that is shown is where some number leads. -/
theorem ShowsFixedCounts.lands_by_sum {t : Transcript} {kept : Option KeptCounts} {term : String}
    {shown : Nat → Nat} {settle : Nat → σ → σ} {ready : σ → Prop} {visible : σ → Nat → Prop}
    (laws : ShowsFixedCounts t term shown settle ready visible)
    (hkept : ∀ counts ∈ kept, counts.IsRightOf t)
    (hshown : ∀ j < t.size, shown j ≤ t.itemCount none term j) :
    (∀ (s : σ) index occurrence, ready s → (index < t.size → visible s index) → 1 ≤ occurrence →
      let outcome := (landToEnd t kept term settle s index occurrence).1
      (∀ j m, (∃ target, outcome = .found target ∧ target.itemIndex = j ∧ target.occurrence = m) ↔
        IsLeast {j | index ≤ j ∧ j < t.size ∧ occurrence ≤ ∑ k ∈ Ico index (j + 1), shown k} j ∧
          m = occurrence - ∑ k ∈ Ico index j, shown k) ∧
      (outcome = .notFound .reconciliationExhausted ↔
        ∑ k ∈ Ico index t.size, shown k < occurrence) ∧
      ∀ target, outcome = .found target →
        ∃ item, t.item? target.itemIndex = some item ∧ target.itemId = item.id) ∧
    (∀ (s waiting : σ) index occurrence next wanted,
      land t kept term true s index occurrence = (.waiting next wanted, waiting) →
        index < next ∧ next < t.size) ∧
    ∀ (s : σ) j m, ready s → j < t.size → 1 ≤ m → m ≤ shown j →
      ∃ number target, t.locate? kept term number = some ⟨j, m⟩ ∧
        (landToEnd t kept term settle (reveal t settle s j) j m).1 = .found target ∧
        target.itemIndex = j ∧ target.occurrence = m := by
  refine ⟨?_, ?_, ?_⟩
  · intro s index occurrence hready hvisible hpos outcome
    have hends : EndsBySum t shown index occurrence outcome :=
      laws.endsBySum hkept hshown hready hvisible hpos
    refine ⟨hends.found_iff, hends.exhausted_iff, fun target hfound => ?_⟩
    rw [hfound] at hends
    exact hends.item_of_found
  · intro s waiting index occurrence next wanted hwaiting
    exact lt_of_land_waiting hwaiting
  · intro s j m hready hj hpos hle
    obtain ⟨number, hnumber⟩ := Transcript.exists_locate?_eq hkept hpos (hle.trans (hshown j hj))
    obtain ⟨hrevealed, hvisible⟩ := laws.reveals hready hj
    have hends := laws.endsBySum hkept hshown hrevealed (fun _ => hvisible) hpos
    obtain ⟨target, hfound, hitem, hoccurrence⟩ := hends.found_of_le_shown hj hle
    exact ⟨number, target, hnumber, hfound, hitem, hoccurrence⟩

/-- Six items, of which the second has three occurrences of a term and the fifth has one. -/
def collapsedMatches : Transcript :=
  .ofEvents (["one", "error error error", "two", "three", "one error", "four"].map fun text =>
    ⟨none, none, .input text⟩)

/-- A surface with the second item in its window, which shows only one of its occurrences.
Scrolls wait until they are settled. -/
def collapsedSurface : PagedSurface :=
  { (PagedSurface.new collapsedMatches 1).replaceRows "event-1"
    ["Input", "error (2 hidden)"] true with
    window := ⟨1, 2⟩
    holdsScrolls := true }

def errorTerm : SearchTerm :=
  ⟨"error".toList, true, by decide⟩

theorem ShowsFixedCounts.lands_by_sum_collapsed :
    let settle : Nat → PagedSurface → PagedSurface := fun _ s => s.settle collapsedMatches
    let shown := collapsedSurface.shownCount collapsedMatches errorTerm
    ShowsFixedCounts collapsedMatches "error" shown settle collapsedSurface.ShowsLike
        (fun s index => s.window.contains index = true) ∧
      (∀ j < collapsedMatches.size, shown j ≤ collapsedMatches.itemCount none "error" j) ∧
      (∃ target, (landToEnd collapsedMatches none "error" settle collapsedSurface 1 2).1 =
        .found target ∧ target.itemIndex = 4 ∧ target.occurrence = 1) ∧
      (landToEnd collapsedMatches none "error" settle collapsedSurface 1 3).1 =
        .notFound .reconciliationExhausted ∧
      ∃ number target, collapsedMatches.locate? none "error" number = some ⟨4, 1⟩ ∧
        (landToEnd collapsedMatches none "error" settle
          (reveal collapsedMatches settle collapsedSurface 4) 4 1).1 = .found target ∧
        target.itemIndex = 4 ∧ target.occurrence = 1 := by
  intro settle shown
  have hterm : SearchTerm.ofString? "error" = some errorTerm := rfl
  have hids : (collapsedMatches.items.map (·.id)).Nodup := by decide +kernel
  have laws : ShowsFixedCounts collapsedMatches "error" shown settle collapsedSurface.ShowsLike
      fun s index => s.window.contains index = true :=
    PagedSurface.showsFixedCounts hids hterm rfl (by decide)
  have hshown : ∀ j < collapsedMatches.size,
      shown j ≤ collapsedMatches.itemCount none "error" j := by decide +kernel
  have hready : collapsedSurface.ShowsLike collapsedSurface := ⟨rfl, rfl, rfl⟩
  have hkept : ∀ counts ∈ (none : Option KeptCounts), counts.IsRightOf collapsedMatches := by simp
  obtain ⟨hends, -, hnumbered⟩ := laws.lands_by_sum hkept hshown
  have hvisible : 1 < collapsedMatches.size → collapsedSurface.window.contains 1 = true :=
    fun _ => rfl
  obtain ⟨hfound, -⟩ := hends collapsedSurface 1 2 hready hvisible (by decide)
  obtain ⟨-, hexhausted, -⟩ := hends collapsedSurface 1 3 hready hvisible (by decide)
  refine ⟨laws, hshown, (hfound 4 1).mpr ⟨⟨⟨by decide, by decide +kernel, by decide +kernel⟩, ?_⟩,
    by decide +kernel⟩, hexhausted.mpr (by decide +kernel),
    hnumbered collapsedSurface 4 1 hready (by decide +kernel) (by decide) (by decide +kernel)⟩
  rintro j ⟨hlower, -, hreached⟩
  refine Nat.le_of_not_lt fun hupper => ?_
  obtain rfl | rfl | rfl : j = 1 ∨ j = 2 ∨ j = 3 := by omega
  · exact absurd hreached (by decide +kernel)
  · exact absurd hreached (by decide +kernel)
  · exact absurd hreached (by decide +kernel)

end TranscriptSearch
