import TranscriptSearch.Proofs.Number.Blocks
import TranscriptSearch.Proofs.Text.Pieces
import TranscriptSearch.Proofs.Transcript.Resolver

namespace TranscriptSearch

/-- The place of an occurrence: the item, the text of the item, and how many occurrences of the
text come before it. -/
structure OccurrencePlace where
  item : Nat
  segment : Nat
  rank : Nat
deriving DecidableEq

namespace OccurrencePlace

/-- The order of the places: by item, then by text, then by rank. -/
def Before (a b : OccurrencePlace) : Prop :=
  a.item < b.item ∨ a.item = b.item ∧
    (a.segment < b.segment ∨ a.segment = b.segment ∧ a.rank < b.rank)

theorem before_or_eq_or_before (a b : OccurrencePlace) : a.Before b ∨ a = b ∨ b.Before a := by
  obtain ⟨item, segment, rank⟩ := a
  obtain ⟨item', segment', rank'⟩ := b
  simp only [Before, OccurrencePlace.mk.injEq]
  omega

end OccurrencePlace

namespace SearchTerm

theorem countIn_take (term : SearchTerm) (segments : List String) (n : Nat) :
    term.countIn (segments.take n) = sumOf ((segments.map term.count).take n) := by
  rw [countIn, List.map_take]

theorem occurrencesFrom_getElem? (term : SearchTerm) {segments : List String} {segment : Nat}
    {text : String} (htext : segments[segment]? = some text) {rank : Nat}
    (hrank : rank < term.count text) (first : Nat) :
    (term.occurrencesFrom first segments)[term.countIn (segments.take segment) + rank]? =
      (term.spans text)[rank]?.map (⟨first + segment, ·⟩) := by
  induction segments generalizing segment first with
  | nil => simp at htext
  | cons other segments ih =>
      have hlength : ((term.spans other).map fun span => (⟨first, span⟩ : SegmentMatch)).length =
          term.count other := List.length_map _
      cases segment with
      | zero =>
          rw [List.getElem?_cons_zero, Option.some.injEq] at htext
          subst htext
          rw [occurrencesFrom, List.take_zero, countIn_nil, Nat.zero_add,
            List.getElem?_append_left (by omega), List.getElem?_map, Nat.add_zero]
      | succ segment =>
          rw [List.getElem?_cons_succ] at htext
          have hrest := ih htext (first + 1)
          have hindex : term.countIn ((other :: segments).take (segment + 1)) + rank =
              term.count other + (term.countIn (segments.take segment) + rank) := by
            rw [List.take_succ_cons, countIn_cons, Nat.add_assoc]
          have hfirst : first + 1 + segment = first + (segment + 1) := by omega
          rw [occurrencesFrom, hindex, List.getElem?_append_right (by omega), hlength,
            Nat.add_sub_cancel_left, hrest, hfirst]

end SearchTerm

namespace Transcript

theorem locateIn_of_block {counts : List Nat} {index size offset : Nat}
    (h : counts[index]? = some size) (hoffset : offset < size) (first : Nat) :
    locateIn first counts (sumOf (counts.take index) + offset + 1) =
      some ⟨first + index, offset + 1⟩ := by
  induction counts generalizing index first with
  | nil => simp at h
  | cons count counts ih =>
      cases index with
      | zero =>
          rw [List.getElem?_cons_zero, Option.some.injEq] at h
          rw [locateIn, List.take_zero, sumOf_nil, if_pos (by omega)]
          simp
      | succ index =>
          rw [List.getElem?_cons_succ] at h
          have hrest := ih h (first + 1)
          have hnumber : count + sumOf (counts.take index) + offset + 1 - count =
              sumOf (counts.take index) + offset + 1 := by omega
          rw [locateIn, List.take_succ_cons, sumOf_cons, if_neg (by omega), hnumber, hrest]
          have hfirst : first + 1 + index = first + (index + 1) := by omega
          rw [hfirst]

theorem locateIn_of_lt {counts : List Nat} {number : Nat} (h : sumOf counts < number)
    (first : Nat) : locateIn first counts number = none := by
  induction counts generalizing number first with
  | nil => rfl
  | cons count counts ih =>
      rw [sumOf_cons] at h
      rw [locateIn, if_neg (by omega), ih (by omega)]

/-- Whether a number is that of the occurrence at a place. -/
def IsNumberOf (t : Transcript) (term : SearchTerm) (number : Nat) (place : OccurrencePlace) :
    Prop :=
  ∃ item text, t.items[place.item]? = some item ∧ item.texts[place.segment]? = some text ∧
    place.rank < term.count text ∧
    number = sumOf ((t.itemCounts term).take place.item) +
      (term.countIn (item.texts.take place.segment) + place.rank) + 1

variable {t : Transcript} {term : SearchTerm} {number number' : Nat}
  {place place' : OccurrencePlace}

theorem itemCounts_getElem? (term : SearchTerm) {index : Nat} {item : Item}
    (h : t.items[index]? = some item) :
    (t.itemCounts term)[index]? = some (term.countIn item.texts) := by
  rw [itemCounts, List.getElem?_map, h]
  rfl

theorem countIn_take_add_lt {texts : List String} {segment : Nat} {text : String}
    (htext : texts[segment]? = some text) {rank : Nat} (hrank : rank < term.count text) :
    term.countIn (texts.take segment) + rank < term.countIn texts := by
  have hsize : (texts.map term.count)[segment]? = some (term.count text) := by
    rw [List.getElem?_map, htext]
    rfl
  have hle := sumOf_take_add_le hsize
  rw [← term.countIn_take] at hle
  change _ < sumOf (texts.map term.count)
  omega

theorem exists_isNumberOf (hpos : 1 ≤ number) (hle : number ≤ sumOf (t.itemCounts term)) :
    ∃ place, t.IsNumberOf term number place := by
  have hlt : number - 1 < sumOf (t.itemCounts term) := by omega
  obtain ⟨index, size, offset, hsize, hoffset, hnumber⟩ := exists_block_of_lt hlt
  rw [itemCounts, List.getElem?_map, Option.map_eq_some_iff] at hsize
  obtain ⟨item, hitem, rfl⟩ := hsize
  obtain ⟨segment, count, rank, hcount, hrank, hrest⟩ := exists_block_of_lt hoffset
  rw [List.getElem?_map, Option.map_eq_some_iff] at hcount
  obtain ⟨text, htext, rfl⟩ := hcount
  rw [← term.countIn_take] at hrest
  refine ⟨⟨index, segment, rank⟩, item, text, hitem, htext, hrank, ?_⟩
  change number = sumOf ((t.itemCounts term).take index) +
    (term.countIn (item.texts.take segment) + rank) + 1
  omega

theorem IsNumberOf.le (h : t.IsNumberOf term number place) :
    1 ≤ number ∧ number ≤ sumOf (t.itemCounts term) := by
  obtain ⟨item, text, hitem, htext, hrank, rfl⟩ := h
  have hinner := countIn_take_add_lt htext hrank
  have houter := sumOf_take_add_le (itemCounts_getElem? term hitem)
  omega

theorem IsNumberOf.eq (h : t.IsNumberOf term number place)
    (h' : t.IsNumberOf term number' place) : number = number' := by
  obtain ⟨item, text, hitem, -, -, rfl⟩ := h
  obtain ⟨item', text', hitem', -, -, rfl⟩ := h'
  rw [hitem, Option.some.injEq] at hitem'
  rw [hitem']

theorem IsNumberOf.lt_of_before (h : t.IsNumberOf term number place)
    (h' : t.IsNumberOf term number' place') (hbefore : place.Before place') :
    number < number' := by
  obtain ⟨item, text, hitem, htext, hrank, rfl⟩ := h
  obtain ⟨item', text', hitem', htext', hrank', rfl⟩ := h'
  have hinner := countIn_take_add_lt htext hrank
  rcases hbefore with hlt | ⟨heq, hlt | ⟨hsegment, hlt⟩⟩
  · have houter := sumOf_take_add_le_take (itemCounts_getElem? term hitem) hlt
    omega
  · rw [heq, hitem', Option.some.injEq] at hitem
    subst hitem
    have hsize : (item'.texts.map term.count)[place.segment]? = some (term.count text) := by
      rw [List.getElem?_map, htext]
      rfl
    have hsegments := sumOf_take_add_le_take hsize hlt
    rw [← term.countIn_take, ← term.countIn_take] at hsegments
    rw [heq]
    omega
  · rw [heq, hitem', Option.some.injEq] at hitem
    subst hitem
    rw [heq, hsegment]
    omega

theorem IsNumberOf.before_of_lt (h : t.IsNumberOf term number place)
    (h' : t.IsNumberOf term number' place') (hlt : number < number') : place.Before place' := by
  rcases place.before_or_eq_or_before place' with hbefore | rfl | hbefore
  · exact hbefore
  · have heq := h.eq h'
    omega
  · have hgt := h'.lt_of_before h hbefore
    omega

/-- The two lookups of a number: the item and the occurrence in it, then the text and the span. -/
theorem IsNumberOf.lookups (h : t.IsNumberOf term number place) :
    ∃ item text span occurrence, t.items[place.item]? = some item ∧
      item.texts[place.segment]? = some text ∧ (term.spans text)[place.rank]? = some span ∧
      occurrence = term.countIn (item.texts.take place.segment) + place.rank + 1 ∧
      number = sumOf ((t.itemCounts term).take place.item) + occurrence ∧
      1 ≤ occurrence ∧ occurrence ≤ term.countIn item.texts ∧
      locateIn 0 (t.itemCounts term) number = some ⟨place.item, occurrence⟩ ∧
      term.locate? item.texts occurrence = some ⟨place.segment, span⟩ := by
  obtain ⟨item, text, hitem, htext, hrank, rfl⟩ := h
  have hinner := countIn_take_add_lt htext hrank
  have hspan := List.getElem?_eq_getElem (l := term.spans text) hrank
  have hoccurrence := term.occurrencesFrom_getElem? htext hrank 0
  have hlocate := locateIn_of_block (itemCounts_getElem? term hitem) hinner 0
  rw [hspan, Option.map_some, Nat.zero_add] at hoccurrence
  rw [Nat.zero_add] at hlocate
  refine ⟨item, text, _, _, hitem, htext, hspan, rfl, by omega, by omega, by omega, hlocate, ?_⟩
  rw [SearchTerm.locate?, if_neg (by omega)]
  exact hoccurrence

end Transcript

namespace Resolver

/-- The place of the occurrence with a number: first the item is looked up, then the text in the
item. -/
def place? (r : Resolver) (text : String) (number : Nat) : Option OccurrencePlace := do
  let term ← SearchTerm.ofString? text
  let location ← r.transcript.locate? r.kept text number
  let item ← r.transcript.item? location.item
  let found ← term.locate? item.texts location.occurrence
  let before := term.countIn (item.texts.take found.segment)
  some ⟨location.item, found.segment, location.occurrence - before - 1⟩

/-- The numbers of the occurrences of a term run through the places of the occurrences in their
order. -/
structure Enumerates (r : Resolver) (text : String) : Prop where
  /-- The numbers run from one to the number of all occurrences. -/
  isSome_iff : ∀ number, (r.transcript.locate? r.kept text number).isSome = true ↔
    1 ≤ number ∧ number ≤ (r.transcript.countAll r.kept text).1
  /-- An item's occurrences are numbered behind those of the items before it. -/
  number_eq : ∀ number index occurrence,
    r.transcript.locate? r.kept text number = some ⟨index, occurrence⟩ →
      number = sumOf ((List.range index).map (r.transcript.itemCount r.kept text)) + occurrence ∧
        1 ≤ occurrence ∧ occurrence ≤ r.transcript.itemCount r.kept text index
  /-- An occurrence of an item is an occurrence of one of its texts, behind those of the texts
  before. -/
  located : ∀ number index occurrence term,
    r.transcript.locate? r.kept text number = some ⟨index, occurrence⟩ →
    SearchTerm.ofString? text = some term →
      ∃ item segment line span rank, r.transcript.item? index = some item ∧
        term.locate? item.texts occurrence = some ⟨segment, span⟩ ∧
        item.texts[segment]? = some line ∧ (term.spans line)[rank]? = some span ∧
        occurrence = term.countIn (item.texts.take segment) + (rank + 1) ∧
        r.place? text number = some ⟨index, segment, rank⟩
  /-- A greater number belongs to a later place. -/
  before_of_lt : ∀ number number' place place', r.place? text number = some place →
    r.place? text number' = some place' → number < number' → place.Before place'
  /-- Every occurrence has one number. -/
  exists_number : ∀ (place : OccurrencePlace) item line term,
    SearchTerm.ofString? text = some term → r.transcript.item? place.item = some item →
    item.texts[place.segment]? = some line → place.rank < (term.spans line).length →
      ∃ number, r.place? text number = some place ∧
        ∀ number', r.place? text number' = some place → number' = number

namespace IsRight

variable {r : Resolver} {text : String} {term : SearchTerm} {number : Nat}
  {place : OccurrencePlace}

theorem locate?_eq (h : r.IsRight) (hterm : SearchTerm.ofString? text = some term)
    (number : Nat) :
    r.transcript.locate? r.kept text number =
      if number = 0 then none
      else Transcript.locateIn 0 (r.transcript.itemCounts term) number := by
  rw [Transcript.locate?, hterm, Option.bind_eq_bind, Option.bind_some,
    Transcript.countsFrom_keptPrefix h]

theorem itemCount_eq (h : r.IsRight) (hterm : SearchTerm.ofString? text = some term) :
    r.transcript.itemCount r.kept text = fun index =>
      ((r.transcript.itemCounts term)[index]?).getD 0 := by
  funext index
  simp only [Transcript.itemCount, hterm, Transcript.countsFrom_keptPrefix h]

theorem countAll_eq (h : r.IsRight) (hterm : SearchTerm.ofString? text = some term) :
    (r.transcript.countAll r.kept text).1 = sumOf (r.transcript.itemCounts term) := by
  rw [(Transcript.countAll_of_isRightOf h text).1, Transcript.total, hterm]

theorem place?_of_isNumberOf (h : r.IsRight) (hterm : SearchTerm.ofString? text = some term)
    (hplace : r.transcript.IsNumberOf term number place) : r.place? text number = some place := by
  have hpos := hplace.le.1
  obtain ⟨item, line, span, occurrence, hitem, -, -, hoccurrence, -, -, -, hlocate, hfound⟩ :=
    hplace.lookups
  have hrank : occurrence - term.countIn (item.texts.take place.segment) - 1 = place.rank := by
    omega
  simp only [place?, hterm, h.locate?_eq hterm, if_neg (Nat.ne_of_gt hpos), hlocate,
    Transcript.item?, hitem, hfound, Option.bind_eq_bind, Option.bind_some, hrank]

theorem isSome_locate?_iff (h : r.IsRight) (hterm : SearchTerm.ofString? text = some term)
    (number : Nat) : (r.transcript.locate? r.kept text number).isSome = true ↔
      1 ≤ number ∧ number ≤ sumOf (r.transcript.itemCounts term) := by
  rw [h.locate?_eq hterm]
  constructor
  · intro hsome
    split at hsome
    · simp at hsome
    · refine ⟨by omega, Nat.le_of_not_lt fun hlt => ?_⟩
      rw [Transcript.locateIn_of_lt hlt] at hsome
      simp at hsome
  · rintro ⟨hpos, hle⟩
    obtain ⟨place, hplace⟩ := Transcript.exists_isNumberOf hpos hle
    obtain ⟨_, _, _, _, _, _, _, _, _, _, _, hlocate, -⟩ := hplace.lookups
    rw [if_neg (by omega), hlocate]
    rfl

theorem exists_isNumberOf_of_locate? (h : r.IsRight)
    (hterm : SearchTerm.ofString? text = some term)
    (hsome : (r.transcript.locate? r.kept text number).isSome = true) :
    ∃ place, r.transcript.IsNumberOf term number place := by
  obtain ⟨hpos, hle⟩ := (h.isSome_locate?_iff hterm number).mp hsome
  exact Transcript.exists_isNumberOf hpos hle

theorem lookups_of_locate? (h : r.IsRight) (hterm : SearchTerm.ofString? text = some term)
    {index occurrence : Nat}
    (hlocate : r.transcript.locate? r.kept text number = some ⟨index, occurrence⟩) :
    ∃ segment rank item line span, r.transcript.IsNumberOf term number ⟨index, segment, rank⟩ ∧
      r.transcript.items[index]? = some item ∧ item.texts[segment]? = some line ∧
      (term.spans line)[rank]? = some span ∧
      occurrence = term.countIn (item.texts.take segment) + rank + 1 ∧
      number = sumOf ((r.transcript.itemCounts term).take index) + occurrence ∧
      1 ≤ occurrence ∧ occurrence ≤ term.countIn item.texts ∧
      term.locate? item.texts occurrence = some ⟨segment, span⟩ := by
  obtain ⟨place, hplace⟩ := h.exists_isNumberOf_of_locate? hterm (by rw [hlocate]; rfl)
  obtain ⟨item, line, span, occurrence', hitem, hline, hspan, hoccurrence, hnumber, hpos, hle,
    hlocateIn, hfound⟩ := hplace.lookups
  have hnonzero : number ≠ 0 := by omega
  rw [h.locate?_eq hterm, if_neg hnonzero, hlocateIn, Option.some.injEq, Location.mk.injEq]
    at hlocate
  obtain ⟨rfl, rfl⟩ := hlocate
  exact ⟨place.segment, place.rank, item, line, span, hplace, hitem, hline, hspan, hoccurrence,
    hnumber, hpos, hle, hfound⟩

theorem isNumberOf_of_place? (h : r.IsRight) (hterm : SearchTerm.ofString? text = some term)
    (hplace : r.place? text number = some place) :
    r.transcript.IsNumberOf term number place := by
  have hsome : (r.transcript.locate? r.kept text number).isSome = true := by
    cases hlocate : r.transcript.locate? r.kept text number with
    | none => simp [Resolver.place?, hterm, hlocate] at hplace
    | some location => rfl
  obtain ⟨place', hplace'⟩ := h.exists_isNumberOf_of_locate? hterm hsome
  have heq := h.place?_of_isNumberOf hterm hplace'
  rw [hplace, Option.some.injEq] at heq
  rwa [heq]

theorem enumerates (h : r.IsRight) (text : String) : r.Enumerates text := by
  cases hterm : SearchTerm.ofString? text with
  | none =>
      have hlocate : ∀ number, r.transcript.locate? r.kept text number = none := by
        intro number
        rw [Transcript.locate?, hterm]
        rfl
      have hplace : ∀ number, r.place? text number = none := by
        intro number
        rw [place?, hterm]
        rfl
      have htotal : (r.transcript.countAll r.kept text).1 = 0 := by
        rw [Transcript.countAll, hterm]
      constructor
      · intro number
        rw [hlocate, htotal]
        simp
        omega
      · simp [hlocate]
      · simp [hlocate]
      · simp [hplace]
      · simp [hterm]
  | some term =>
      constructor
      · intro number
        rw [h.countAll_eq hterm]
        exact h.isSome_locate?_iff hterm number
      · intro number index occurrence hlocate
        obtain ⟨_, _, item, _, _, -, hitem, -, -, -, hnumber, hpos, hle, -⟩ :=
          h.lookups_of_locate? hterm hlocate
        rw [h.itemCount_eq hterm, sumOf_map_range]
        simp only [Transcript.itemCounts_getElem? term hitem, Option.getD_some]
        exact ⟨hnumber, hpos, hle⟩
      · intro number index occurrence other hlocate hother
        obtain rfl : term = other := Option.some.inj (hterm.symm.trans hother)
        obtain ⟨segment, rank, item, line, span, hplace, hitem, hline, hspan,
          hoccurrence, -, -, -, hfound⟩ := h.lookups_of_locate? hterm hlocate
        exact ⟨item, segment, line, span, rank, hitem, hfound, hline, hspan, hoccurrence,
          h.place?_of_isNumberOf hterm hplace⟩
      · intro number number' place place' hplace hplace' hlt
        have hnumber := h.isNumberOf_of_place? hterm hplace
        exact hnumber.before_of_lt (h.isNumberOf_of_place? hterm hplace') hlt
      · intro place item line other hother hitem hline hrank
        obtain rfl : term = other := Option.some.inj (hterm.symm.trans hother)
        have hnumber : r.transcript.IsNumberOf term _ place :=
          ⟨item, line, hitem, hline, hrank, rfl⟩
        refine ⟨_, h.place?_of_isNumberOf hterm hnumber, ?_⟩
        intro number' hplace'
        exact (h.isNumberOf_of_place? hterm hplace').eq hnumber

end IsRight

/-- Whatever was counted and kept before, the numbers of a term enumerate its occurrences. -/
theorem enumerates_run (t : Transcript) (steps : List ResolverStep) (text : String) :
    ((new t).run steps).Enumerates text :=
  ((isRight_new t).run steps).enumerates text

end Resolver

theorem Transcript.isSome_locate?_iff {t : Transcript} {term : String} {number : Nat} :
    (t.locate? none term number).isSome = true ↔ 1 ≤ number ∧ number ≤ t.total term := by
  have hright := Resolver.isRight_new t
  have henumerates := (hright.enumerates term).isSome_iff number
  rw [(countAll_of_isRightOf hright term).1] at henumerates
  exact henumerates

end TranscriptSearch
