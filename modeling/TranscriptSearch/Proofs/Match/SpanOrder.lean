import TranscriptSearch.Proofs.Match.LeftmostScan
import TranscriptSearch.Proofs.Match.MatchedTexts

/-!
The order of the spans of a term.  Each is a range of whole characters that begins and ends behind
the one before.  An occurrence is widened to the characters that it comes from, though, and `İ`
gives two folded characters: where an occurrence ends in the first of them and the next one begins
with the second, both spans hold this `İ`.
-/

namespace TranscriptSearch

open Text

theorem Text.lower_eq_singleton_or (c : Char) :
    (∃ d, lower c = [d]) ∨ c = 'İ' ∧ lower c = ['i', '\u0307'] := by
  unfold lower
  split
  · exact .inl ⟨_, rfl⟩
  · split
    · next hc => exact .inr ⟨hc, rfl⟩
    · split
      · exact .inl ⟨_, rfl⟩
      · exact .inl ⟨_, rfl⟩

theorem Text.isBoundary_append (before after : List Char) :
    isBoundary (before ++ after) (byteSize before) = true := by
  induction before with
  | nil => cases after <;> rfl
  | cons c before ih =>
      obtain ⟨size, hsize⟩ := Nat.exists_eq_succ_of_ne_zero (Nat.ne_of_gt (Char.utf8Size_pos c))
      have hfirst : byteSize (c :: before) = size + byteSize before + 1 := by
        rw [byteSize_cons, hsize]
        omega
      have hrest : size + byteSize before + 1 - c.utf8Size = byteSize before := by omega
      rw [hfirst, List.cons_append, isBoundary, hrest, ih]
      · simp
        omega
      · omega

namespace FoldedChar

/-- Whether of two folded characters of a text the first comes from an earlier character, or both
come from one `İ`. -/
def Precedes (text : List Char) (a b : FoldedChar) : Prop :=
  a.stop ≤ b.start ∨ ∃ before after, text = before ++ 'İ' :: after ∧
    a = ⟨'i', byteSize before, byteSize before + 2⟩ ∧
    b = ⟨'\u0307', byteSize before, byteSize before + 2⟩

end FoldedChar

theorem pairwise_foldedChars (before cs : List Char) :
    (foldedChars (byteSize before) cs).Pairwise (FoldedChar.Precedes (before ++ cs)) := by
  induction cs generalizing before with
  | nil => exact .nil
  | cons c cs ih =>
      have hrest := ih (before ++ [c])
      rw [byteSize_append, byteSize_cons, byteSize_nil, Nat.add_zero, List.append_assoc,
        List.singleton_append] at hrest
      rw [foldedChars, List.pairwise_append]
      refine ⟨?_, hrest, ?_⟩
      · rcases lower_eq_singleton_or c with ⟨d, hlower⟩ | ⟨rfl, hlower⟩
        · rw [hlower]
          exact List.pairwise_singleton _ _
        · rw [hlower]
          exact List.pairwise_pair.mpr (.inr ⟨before, cs, rfl, rfl, rfl⟩)
      · intro a ha b hb
        obtain ⟨d, -, rfl⟩ := List.mem_map.mp ha
        obtain ⟨between, -, -, -, hstart, -⟩ := exists_of_mem_foldedChars hb
        refine .inl ?_
        rw [hstart]
        exact Nat.le_add_right _ _

namespace Span

/-- Whether a span is made of characters of a text, of one at least. -/
structure IsRangeOf (span : Span) (text : List Char) : Prop where
  start_lt_stop : span.start < span.stop
  stop_le : span.stop ≤ byteSize text
  isBoundary_start : isBoundary text span.start = true
  isBoundary_stop : isBoundary text span.stop = true

/-- Whether a span ends with the `İ` that another one begins with. -/
def SharesDottedI (text : List Char) (a b : Span) : Prop :=
  ∃ before after, text = before ++ 'İ' :: after ∧ a.stop = byteSize before + 2 ∧
    b.start = byteSize before

/-- Whether a span begins and ends before another one, and shares no more than an `İ` with it. -/
structure IsBefore (text : List Char) (a b : Span) : Prop where
  start_lt : a.start < b.start
  stop_lt : a.stop < b.stop
  apart_or : a.stop ≤ b.start ∨ SharesDottedI text a b

end Span

section Places

variable {key cs : List Char} {places : List Nat} {place later : Nat} {span next : Span}

theorem exists_of_spanAt? (hkey : key ≠ []) (hplace : OccursAt key (fold cs) place)
    (hspan : spanAt? (foldedChars 0 cs) key.length place = some span) :
    ∃ first last, (foldedChars 0 cs)[place]? = some first ∧
      (foldedChars 0 cs)[place + key.length - 1]? = some last ∧
      key.head? = some first.char ∧ key.getLast? = some last.char ∧
      span = ⟨first.start, last.stop⟩ := by
  have hpos := List.length_pos_iff.mpr hkey
  obtain ⟨first, hfirst, hrest⟩ := Option.bind_eq_some_iff.mp hspan
  obtain ⟨last, hlast, heq⟩ := Option.bind_eq_some_iff.mp hrest
  have hhead := hplace.getElem?_eq hpos
  have hend := hplace.getElem?_eq (Nat.sub_one_lt_of_lt hpos)
  have hindex : place + (key.length - 1) = place + key.length - 1 := by omega
  rw [← foldedChars_map_char 0, List.getElem?_map, Nat.add_zero, hfirst] at hhead
  rw [← foldedChars_map_char 0, List.getElem?_map, hindex, hlast] at hend
  refine ⟨first, last, hfirst, hlast, ?_, ?_, (Option.some.inj heq).symm⟩
  · rw [List.head?_eq_getElem?, ← hhead]
    rfl
  · rw [List.getLast?_eq_getElem?, ← hend]
    rfl

theorem precedes_of_lt {i j : Nat} {a b : FoldedChar} (ha : (foldedChars 0 cs)[i]? = some a)
    (hb : (foldedChars 0 cs)[j]? = some b) (hlt : i < j) : a.Precedes cs b := by
  obtain ⟨hi, rfl⟩ := List.getElem?_eq_some_iff.mp ha
  obtain ⟨hj, rfl⟩ := List.getElem?_eq_some_iff.mp hb
  exact List.pairwise_iff_getElem.mp (pairwise_foldedChars [] cs) i j hi hj hlt

theorem start_lt_stop_of_getElem? {i : Nat} {a : FoldedChar}
    (ha : (foldedChars 0 cs)[i]? = some a) :
    a.start < a.stop := by
  obtain ⟨before, d, after, -, hstart, hstop⟩ :=
    exists_of_mem_foldedChars (List.mem_of_getElem? ha)
  have hsize := Char.utf8Size_pos d
  rw [hstart, hstop, byteSize_append, byteSize_cons]
  omega

theorem isRangeOf_of_spanAt? (hkey : key ≠ []) (hplace : OccursAt key (fold cs) place)
    (hspan : spanAt? (foldedChars 0 cs) key.length place = some span) : span.IsRangeOf cs := by
  obtain ⟨first, last, hfirst, hlast, -, -, rfl⟩ := exists_of_spanAt? hkey hplace hspan
  have hpos := List.length_pos_iff.mpr hkey
  have hsize := start_lt_stop_of_getElem? hlast
  obtain ⟨before, d, after, rfl, hstart, -⟩ :=
    exists_of_mem_foldedChars (List.mem_of_getElem? hfirst)
  obtain ⟨upTo, e, behind, hsplit, -, hstop⟩ :=
    exists_of_mem_foldedChars (List.mem_of_getElem? hlast)
  rw [Nat.zero_add] at hstart hstop
  rw [List.append_cons upTo e behind] at hsplit
  refine ⟨?_, ?_, ?_, ?_⟩
  · rcases Nat.lt_or_eq_of_le (show place ≤ place + key.length - 1 by omega) with hlt | heq
    · rcases precedes_of_lt hfirst hlast hlt with hle | ⟨between, rest, -, rfl, rfl⟩
      · have hbegin := start_lt_stop_of_getElem? hfirst
        exact Nat.lt_of_lt_of_le hbegin (Nat.le_of_lt (Nat.lt_of_le_of_lt hle hsize))
      · exact hsize
    · rw [← heq, hfirst, Option.some.injEq] at hlast
      exact hlast ▸ hsize
  · change last.stop ≤ _
    rw [hsplit, hstop, byteSize_append (upTo ++ [e])]
    exact Nat.le_add_right _ _
  · change isBoundary _ first.start = true
    rw [hstart]
    exact isBoundary_append before _
  · change isBoundary _ last.stop = true
    rw [hstop, hsplit]
    exact isBoundary_append _ behind

/-- Where the spans of two occurrences share a character, the key ends with the first part of an
`İ` and begins with the second one. -/
theorem isBefore_of_spanAt? (hkey : key ≠ []) (hplace : OccursAt key (fold cs) place)
    (hlater : OccursAt key (fold cs) later) (hle : place + key.length ≤ later)
    (hspan : spanAt? (foldedChars 0 cs) key.length place = some span)
    (hnext : spanAt? (foldedChars 0 cs) key.length later = some next) :
    span.IsBefore cs next ∧
      (span.stop ≤ next.start ∨ key.head? = some '\u0307' ∧ key.getLast? = some 'i') := by
  have hrange := isRangeOf_of_spanAt? hkey hplace hspan
  have hrange' := isRangeOf_of_spanAt? hkey hlater hnext
  obtain ⟨first, last, hfirst, hlast, hhead, hend, rfl⟩ := exists_of_spanAt? hkey hplace hspan
  obtain ⟨first', last', hfirst', hlast', hhead', hend', rfl⟩ :=
    exists_of_spanAt? hkey hlater hnext
  have hpos := List.length_pos_iff.mpr hkey
  rcases precedes_of_lt hlast hfirst' (by omega) with hapart | ⟨before, after, rfl, rfl, rfl⟩
  · exact ⟨⟨Nat.lt_of_lt_of_le hrange.start_lt_stop hapart,
      Nat.lt_of_le_of_lt hapart hrange'.start_lt_stop, .inl hapart⟩, .inl hapart⟩
  · -- The key begins and ends with different characters, so both occurrences go on beyond the
    -- shared one.
    have hlong : key.length ≠ 1 := by
      intro hsingle
      obtain ⟨k, rfl⟩ := List.length_eq_one_iff.mp hsingle
      have hsame : '\u0307' = 'i' := (Option.some.inj hhead').symm.trans (Option.some.inj hend)
      exact absurd hsame (by decide)
    refine ⟨⟨?_, ?_, .inr ⟨before, after, rfl, rfl, rfl⟩⟩, .inr ⟨hhead', hend⟩⟩
    · rcases precedes_of_lt hfirst hlast (by omega) with hle | ⟨between, rest, -, rfl, -⟩
      · exact Nat.lt_of_lt_of_le (start_lt_stop_of_getElem? hfirst) hle
      · have hsame : 'i' = '\u0307' := Option.some.inj (hhead.symm.trans hhead')
        exact absurd hsame (by decide)
    · rcases precedes_of_lt hfirst' hlast' (by omega) with hle | ⟨between, rest, -, heq, -⟩
      · exact Nat.lt_of_le_of_lt hle (start_lt_stop_of_getElem? hlast')
      · have hsame : '\u0307' = 'i' := (FoldedChar.mk.inj heq).1
        exact absurd hsame (by decide)

end Places

namespace SearchTerm

/-- The dot of `İ` and the letter `i` are the parts of its folded form.  A term that begins with
the one and ends with the other may be found twice at an `İ`. -/
def JoinsAtDottedI (term : SearchTerm) : Prop :=
  term.key.head? = some '\u0307' ∧ term.key.getLast? = some 'i'

variable {term : SearchTerm}

theorem isRangeOf_of_mem_spans {text : String} {span : Span} (h : span ∈ term.spans text) :
    span.IsRangeOf text.toList := by
  obtain ⟨places, hplaces, hspans⟩ := term.exists_places text
  have hmem := List.mem_map_of_mem (f := some) h
  rw [hspans] at hmem
  obtain ⟨place, hplace, hspan⟩ := List.mem_map.mp hmem
  exact isRangeOf_of_spanAt? term.key_ne_nil (hplaces.occursAt place hplace) hspan

theorem pairwise_spans (term : SearchTerm) (text : String) :
    (term.spans text).Pairwise fun span next => span.IsBefore text.toList next ∧
      (span.stop ≤ next.start ∨ term.JoinsAtDottedI) := by
  obtain ⟨places, hplaces, hspans⟩ := term.exists_places text
  have hpairs : ((term.spans text).map some).Pairwise fun a b => ∀ span ∈ a, ∀ next ∈ b,
      span.IsBefore text.toList next ∧ (span.stop ≤ next.start ∨ term.JoinsAtDottedI) := by
    rw [hspans, List.pairwise_map]
    refine hplaces.disjoint.imp_of_mem fun hplace hlater hle => ?_
    intro span hspan next hnext
    exact isBefore_of_spanAt? term.key_ne_nil (hplaces.occursAt _ hplace)
      (hplaces.occursAt _ hlater) hle hspan hnext
  rw [List.pairwise_map] at hpairs
  exact hpairs.imp fun hpair => hpair _ rfl _ rfl

theorem lower_eq_of_head? {c d : Char} {cs : List Char} (h : (fold (c :: cs)).head? = some d)
    (hd : d ≠ 'i') :
    lower c = [d] := by
  rw [fold, List.flatMap_cons] at h
  rcases lower_eq_singleton_or c with ⟨e, hlower⟩ | ⟨-, hlower⟩
  · rw [hlower] at h ⊢
    rw [Option.some.inj h]
  · rw [hlower] at h
    exact absurd (Option.some.inj h).symm hd

theorem lower_eq_of_getLast? {c d : Char} {cs : List Char}
    (h : (fold (cs ++ [c])).getLast? = some d) (hd : d ≠ '\u0307') : lower c = [d] := by
  rw [fold_append] at h
  rcases lower_eq_singleton_or c with ⟨e, hlower⟩ | ⟨-, hlower⟩
  · simp only [fold, List.flatMap_cons, hlower] at h ⊢
    simpa using h
  · simp only [fold, List.flatMap_cons, hlower] at h
    simp at h
    exact absurd h.symm hd

theorem JoinsAtDottedI.exists_key_eq {word : String} (hterm : ofString? word = some term)
    (h : term.JoinsAtDottedI) :
    ∃ front back, term.key = fold front ++ ['i'] ∧ term.key = '\u0307' :: fold back := by
  obtain ⟨hhead, hlast⟩ := h
  have hkey := (ofString?_eq_some_iff.mp hterm).1
  have hword : word.toList ≠ [] := by
    intro hnil
    rw [hnil] at hkey
    exact term.key_ne_nil hkey
  obtain ⟨c, back, hback⟩ := List.exists_cons_of_ne_nil hword
  have hfront := List.dropLast_concat_getLast hword
  rw [hkey] at hhead hlast ⊢
  refine ⟨word.toList.dropLast, back, ?_, ?_⟩
  · rw [← hfront] at hlast
    nth_rewrite 1 [← hfront]
    rw [fold_append, fold, fold, List.flatMap_singleton, lower_eq_of_getLast? hlast (by decide)]
  · rw [hback] at hhead ⊢
    rw [fold, List.flatMap_cons, lower_eq_of_head? hhead (by decide)]
    rfl

theorem getElem?_foldedChars_dottedI (front back : List Char) :
    (foldedChars 0 (front ++ 'İ' :: back))[(fold front).length]? =
        some ⟨'i', byteSize front, byteSize front + 2⟩ ∧
      (foldedChars 0 (front ++ 'İ' :: back))[(fold front).length + 1]? =
        some ⟨'\u0307', byteSize front, byteSize front + 2⟩ := by
  have hchars : foldedChars 0 (front ++ 'İ' :: back) = foldedChars 0 front ++
      ⟨'i', byteSize front, byteSize front + 2⟩ ::
      ⟨'\u0307', byteSize front, byteSize front + 2⟩ ::
        foldedChars (byteSize front + 2) back := by
    rw [foldedChars_append, Nat.zero_add]
    rfl
  have hlength : (fold front).length = (foldedChars 0 front).length := by
    rw [← foldedChars_map_char 0 front, List.length_map]
  rw [hchars, hlength]
  constructor
  · rw [List.getElem?_append_right (Nat.le_refl _), Nat.sub_self]
    rfl
  · rw [List.getElem?_append_right (Nat.le_add_right _ _), Nat.add_sub_cancel_left]
    rfl

/-- A term that joins at an `İ` is found twice at one: in the text that it makes with its two
halves around the `İ`. -/
theorem JoinsAtDottedI.exists_not_pairwise {word : String} (hterm : ofString? word = some term)
    (h : term.JoinsAtDottedI) :
    ∃ text, ¬ (term.spans text).Pairwise fun span next => span.stop ≤ next.start := by
  obtain ⟨front, back, hfront, hback⟩ := h.exists_key_eq hterm
  obtain ⟨hletter, hdot⟩ := getElem?_foldedChars_dottedI front back
  have hlength : term.key.length = (fold front).length + 1 := by
    rw [hfront, List.length_append, List.length_singleton]
  have hfold : fold (front ++ 'İ' :: back) = term.key ++ (term.key ++ []) := by
    have hdotted : lower 'İ' = ['i', '\u0307'] := by decide
    rw [fold_append]
    nth_rewrite 1 [hfront]
    rw [hback]
    simp [fold, hdotted]
  -- The folded text is the key written twice, so the scan takes the first half and then the
  -- second one.
  obtain ⟨places, hplaces, hspans⟩ := term.exists_places (String.ofList (front ++ 'İ' :: back))
  rw [String.toList_ofList] at hplaces hspans
  have hhalves := (IsLeftmost.nil term.key_ne_nil).take.take
  rw [← hfold] at hhalves
  obtain rfl := hplaces.eq term.key_ne_nil hhalves
  refine ⟨String.ofList (front ++ 'İ' :: back), fun hpairs => ?_⟩
  rcases hlist :
    term.spans (String.ofList (front ++ 'İ' :: back)) with _ | ⟨span, _ | ⟨next, more⟩⟩
  · rw [hlist] at hspans
    simp at hspans
  · rw [hlist] at hspans
    simp at hspans
  · rw [hlist] at hpairs hspans
    simp only [List.map_cons, List.map_nil, List.cons.injEq, Nat.add_zero] at hspans hplaces
    obtain ⟨hspan, hnext, -⟩ := hspans
    obtain ⟨opening, last, -, hlast, -, -, rfl⟩ :=
      exists_of_spanAt? term.key_ne_nil (hplaces.occursAt 0 (by simp)) hspan.symm
    obtain ⟨first, closing, hfirst, -, -, -, rfl⟩ :=
      exists_of_spanAt? term.key_ne_nil (hplaces.occursAt term.key.length (by simp)) hnext.symm
    rw [hlength, Nat.zero_add, Nat.add_sub_cancel, hletter] at hlast
    rw [hlength, hdot] at hfirst
    obtain rfl := Option.some.inj hlast
    obtain rfl := Option.some.inj hfirst
    have hshared : byteSize front + 2 ≤ byteSize front :=
      List.rel_of_pairwise_cons hpairs List.mem_cons_self
    omega

/-- The spans of a term are ranges of characters of the text, each begins and ends before the next
one, and two of them share at most one character, which is an `İ`.  They share none in any text
just if the term does not join at one. -/
theorem spans_in_order {word : String} (hterm : ofString? word = some term) :
    (∀ text, (∀ span ∈ term.spans text, span.IsRangeOf text.toList) ∧
      (term.spans text).Pairwise (Span.IsBefore text.toList)) ∧
      ((∀ text, (term.spans text).Pairwise fun span next => span.stop ≤ next.start) ↔
        ¬ term.JoinsAtDottedI) := by
  refine ⟨fun text => ⟨fun span => isRangeOf_of_mem_spans, ?_⟩, ?_, ?_⟩
  · exact (term.pairwise_spans text).imp And.left
  · intro hapart hjoins
    obtain ⟨text, hshared⟩ := hjoins.exists_not_pairwise hterm
    exact hshared (hapart text)
  · intro hjoins text
    exact (term.pairwise_spans text).imp fun hpair => hpair.2.resolve_right hjoins

theorem ofString?_joined : ofString? "\u0307i" = some ⟨['\u0307', 'i'], false, by decide⟩ :=
  ofString?_eq_some_iff.mpr ⟨by decide +kernel, by decide⟩

/-- The dot of the first `İ` with the letter of the second one, and the dot of the second one with
the letter of the third one. -/
theorem spans_in_order_joined : ∃ term, ofString? "\u0307i" = some term ∧ term.JoinsAtDottedI ∧
    term.spans "İİİ" = [⟨0, 4⟩, ⟨2, 6⟩] ∧ (⟨2, 6⟩ : Span).IsRangeOf "İİİ".toList ∧
      (⟨0, 4⟩ : Span).IsBefore "İİİ".toList ⟨2, 6⟩ ∧
      ¬ ∀ text, (term.spans text).Pairwise fun span next => span.stop ≤ next.start := by
  have hspans : (⟨['\u0307', 'i'], false, by decide⟩ : SearchTerm).spans "İİİ" =
      [⟨0, 4⟩, ⟨2, 6⟩] := by
    decide +kernel
  obtain ⟨hordered, hiff⟩ := spans_in_order ofString?_joined
  obtain ⟨hrange, hpairs⟩ := hordered "İİİ"
  rw [hspans] at hrange hpairs
  refine ⟨_, ofString?_joined, ⟨rfl, rfl⟩, hspans, hrange _ (by simp), ?_, fun hapart => ?_⟩
  · exact List.rel_of_pairwise_cons hpairs (by simp)
  · exact hiff.mp hapart ⟨rfl, rfl⟩

/-- Two spans of a term may have a character in common. -/
theorem spans_share_dottedI : ∃ term, ofString? "\u0307i" = some term ∧
    term.spans "İİİ" = [⟨0, 4⟩, ⟨2, 6⟩] ∧
      ¬ (term.spans "İİİ").Pairwise fun span next => span.stop ≤ next.start :=
  ⟨_, ofString?_joined, by decide +kernel, by decide +kernel⟩

end SearchTerm

end TranscriptSearch
