import Mathlib.Data.Finset.Card
import Mathlib.Data.List.Pairwise
import Mathlib.Data.List.Sort
import Mathlib.Order.Bounds.Defs
import TranscriptSearch.Proofs.Match.Packing

/-!
The occurrences that the scan takes.  It takes the first one, then the first one behind that, and
so on, so that every occurrence begins inside one that is taken.  Only one choice of disjoint
occurrences is such that this holds, and none has more of them.
-/

namespace TranscriptSearch

open Text

/-- Whether a key occurs in a folded text from a place on. -/
def OccursAt (key text : List Char) (place : Nat) : Prop :=
  key <+: text.drop place

/-- Disjoint occurrences of a key, in order, such that every occurrence begins inside one of
them. -/
structure IsLeftmost (key text : List Char) (places : List Nat) : Prop where
  occursAt : ∀ place ∈ places, OccursAt key text place
  disjoint : places.Pairwise fun place later => place + key.length ≤ later
  covers : ∀ place, OccursAt key text place →
    ∃ taken ∈ places, taken ≤ place ∧ place < taken + key.length

/-- Occurrences of a key of which no two have a character in common. -/
structure IsDisjoint (key text : List Char) (chosen : Finset Nat) : Prop where
  occursAt : ∀ place ∈ chosen, OccursAt key text place
  disjoint : ∀ place ∈ chosen, ∀ later ∈ chosen, place < later → place + key.length ≤ later

variable {key text : List Char} {places others : List Nat} {place : Nat}

theorem occursAt_zero_iff : OccursAt key text 0 ↔ key <+: text := by
  rw [OccursAt, List.drop_zero]

theorem occursAt_append_iff (before : List Char) :
    OccursAt key (before ++ text) (before.length + place) ↔ OccursAt key text place := by
  rw [OccursAt, OccursAt, List.drop_append, List.drop_eq_nil_of_le (Nat.le_add_right _ _),
    List.nil_append, Nat.add_sub_cancel_left]

namespace OccursAt

theorem isInfix (h : OccursAt key text place) : key <:+: text :=
  (List.IsPrefix.isInfix h).trans (List.drop_suffix place text).isInfix

theorem add_length_le (hkey : key ≠ []) (h : OccursAt key text place) :
    place + key.length ≤ text.length := by
  have hle := h.length_le
  have hpos := List.length_pos_iff.mpr hkey
  rw [List.length_drop] at hle
  omega

theorem getElem?_eq (h : OccursAt key text place) {i : Nat} (hi : i < key.length) :
    text[place + i]? = key[i]? := by
  obtain ⟨after, hafter⟩ := h
  rw [← List.getElem?_drop, ← hafter, List.getElem?_append_left hi]

end OccursAt

theorem exists_occursAt_of_isInfix (h : key <:+: text) : ∃ place, OccursAt key text place := by
  obtain ⟨before, after, rfl⟩ := h
  refine ⟨before.length + 0, ?_⟩
  rw [List.append_assoc, occursAt_append_iff, occursAt_zero_iff]
  exact List.prefix_append key after

namespace IsLeftmost

theorem nil (hkey : key ≠ []) : IsLeftmost key [] [] where
  occursAt _ hplace := absurd hplace List.not_mem_nil
  disjoint := .nil
  covers place hplace := by
    have hle := hplace.add_length_le hkey
    have hpos := List.length_pos_iff.mpr hkey
    rw [List.length_nil] at hle
    omega

theorem skip {c : Char} (hc : ¬ key <+: c :: text) (h : IsLeftmost key text places) :
    IsLeftmost key (c :: text) (places.map (1 + ·)) where
  occursAt := by
    intro place hplace
    obtain ⟨before, hbefore, rfl⟩ := List.mem_map.mp hplace
    exact (occursAt_append_iff [c]).mpr (h.occursAt before hbefore)
  disjoint := by
    rw [List.pairwise_map]
    refine h.disjoint.imp fun hle => ?_
    omega
  covers := by
    intro place hplace
    cases place with
    | zero => exact absurd (occursAt_zero_iff.mp hplace) hc
    | succ place =>
        rw [Nat.add_comm] at hplace
        obtain ⟨taken, htaken, hle, hlt⟩ := h.covers place ((occursAt_append_iff [c]).mp hplace)
        exact ⟨1 + taken, List.mem_map.mpr ⟨taken, htaken, rfl⟩, by omega, by omega⟩

theorem take (h : IsLeftmost key text places) :
    IsLeftmost key (key ++ text) (0 :: places.map (key.length + ·)) where
  occursAt := by
    intro place hplace
    rcases List.mem_cons.mp hplace with rfl | hplace
    · exact occursAt_zero_iff.mpr (List.prefix_append key text)
    · obtain ⟨later, hlater, rfl⟩ := List.mem_map.mp hplace
      exact (occursAt_append_iff key).mpr (h.occursAt later hlater)
  disjoint := by
    rw [List.pairwise_cons, List.pairwise_map]
    constructor
    · intro later hlater
      obtain ⟨place, -, rfl⟩ := List.mem_map.mp hlater
      omega
    · refine h.disjoint.imp fun hle => ?_
      omega
  covers := by
    intro place hplace
    by_cases hinside : place < key.length
    · exact ⟨0, List.mem_cons_self, by omega, by omega⟩
    · obtain ⟨later, rfl⟩ := Nat.exists_eq_add_of_le (Nat.le_of_not_lt hinside)
      obtain ⟨taken, htaken, hle, hlt⟩ := h.covers later ((occursAt_append_iff key).mp hplace)
      refine ⟨key.length + taken,
        List.mem_cons_of_mem 0 (List.mem_map.mpr ⟨taken, htaken, rfl⟩), ?_, ?_⟩
      · omega
      · omega

theorem pairwise_lt (hkey : key ≠ []) (h : IsLeftmost key text places) :
    places.Pairwise (· < ·) := by
  have hpos := List.length_pos_iff.mpr hkey
  refine h.disjoint.imp fun hle => ?_
  omega

theorem add_length_le (h : IsLeftmost key text places) (hplace : place ∈ places) {later : Nat}
    (hlater : later ∈ places) (hlt : place < later) : place + key.length ≤ later := by
  have hapart := h.disjoint.imp (S := fun a b => a + key.length ≤ b ∨ b + key.length ≤ a) Or.inl
  have hsymm : Std.Symm fun a b => a + key.length ≤ b ∨ b + key.length ≤ a := ⟨fun _ _ => Or.symm⟩
  rcases hapart.forall hplace hlater (Nat.ne_of_lt hlt) with hle | hle
  · exact hle
  · omega

theorem eq (hkey : key ≠ []) (h : IsLeftmost key text places) (h' : IsLeftmost key text others) :
    places = others := by
  refine (h.pairwise_lt hkey).eq_of_mem_iff (h'.pairwise_lt hkey) fun place => ?_
  -- Up to a place both have taken the same, so what covers the place is the same in both.
  induction place using Nat.strong_induction_on with
  | _ place ih =>
      constructor
      · intro hplace
        obtain ⟨taken, htaken, hle, hlt⟩ := h'.covers place (h.occursAt place hplace)
        rcases Nat.lt_or_eq_of_le hle with hearlier | rfl
        · have hbehind := h.add_length_le ((ih taken hearlier).mpr htaken) hplace hearlier
          omega
        · exact htaken
      · intro hplace
        obtain ⟨taken, htaken, hle, hlt⟩ := h.covers place (h'.occursAt place hplace)
        rcases Nat.lt_or_eq_of_le hle with hearlier | rfl
        · have hbehind := h'.add_length_le ((ih taken hearlier).mp htaken) hplace hearlier
          omega
        · exact htaken

theorem isDisjoint_toFinset (h : IsLeftmost key text places) :
    IsDisjoint key text places.toFinset where
  occursAt place hplace := h.occursAt place (List.mem_toFinset.mp hplace)
  disjoint _ hplace _ hlater :=
    h.add_length_le (List.mem_toFinset.mp hplace) (List.mem_toFinset.mp hlater)

/-- No choice of disjoint occurrences is larger than the leftmost one.  Each of them begins inside
one that is taken, and no two begin inside the same one. -/
theorem card_le (h : IsLeftmost key text places) {chosen : Finset Nat}
    (hchosen : IsDisjoint key text chosen) :
    chosen.card ≤ places.length := by
  choose! taken htaken hle hlt using fun place hplace =>
    h.covers place (hchosen.occursAt place hplace)
  have hmaps : ∀ place ∈ chosen, taken place ∈ places.toFinset :=
    fun place hplace => List.mem_toFinset.mpr (htaken place hplace)
  have hinjective : Set.InjOn taken chosen := by
    intro place hplace later hlater heq
    have hfirst := hlt place hplace
    have hsecond := hlt later hlater
    rcases Nat.lt_trichotomy place later with hbefore | hsame | hbefore
    · have hbehind := hchosen.disjoint place hplace later hlater hbefore
      have hbegin := hle place hplace
      omega
    · exact hsame
    · have hbehind := hchosen.disjoint later hlater place hplace hbefore
      have hbegin := hle later hlater
      omega
  exact (Finset.card_le_card_of_injOn taken hmaps hinjective).trans places.toFinset_card_le

theorem isGreatest (hkey : key ≠ []) (h : IsLeftmost key text places) :
    IsGreatest {n | ∃ chosen : Finset Nat, IsDisjoint key text chosen ∧ chosen.card = n}
      places.length := by
  constructor
  · have hnodup : places.Nodup := (h.pairwise_lt hkey).imp Nat.ne_of_lt
    exact ⟨places.toFinset, h.isDisjoint_toFinset, List.toFinset_card_of_nodup hnodup⟩
  · rintro n ⟨chosen, hchosen, rfl⟩
    exact h.card_le hchosen

end IsLeftmost

/-- The bytes of the characters that gave `size` folded characters from a place on. -/
def spanAt? (chars : List FoldedChar) (size place : Nat) : Option Span := do
  let first ← chars[place]?
  let last ← chars[place + size - 1]?
  return ⟨first.start, last.stop⟩

theorem spanAt?_drop (chars : List FoldedChar) {size : Nat} (hsize : 0 < size) (n place : Nat) :
    spanAt? (chars.drop n) size place = spanAt? chars size (n + place) := by
  have hlast : n + (place + size - 1) = n + place + size - 1 := by omega
  rw [spanAt?, spanAt?, List.getElem?_drop, List.getElem?_drop, hlast]

namespace SearchTerm

theorem exists_isLeftmost (hkey : key ≠ []) (chars : List FoldedChar) :
    ∃ places, IsLeftmost key (chars.map FoldedChar.char) places ∧
      (scanFolded key chars).map some = places.map (spanAt? chars key.length) := by
  have hpos := List.length_pos_iff.mpr hkey
  fun_induction scanFolded key chars with
  | case1 => exact ⟨[], .nil hkey, rfl⟩
  | case2 c rest hmatch last ih =>
      obtain ⟨places, hplaces, hspans⟩ := ih
      refine ⟨0 :: places.map (key.length + ·), ?_, ?_⟩
      · rw [map_char_eq_of_beginsWith hkey hmatch]
        exact hplaces.take
      · have hlength := (beginsWith_iff.mp hmatch).length_le
        rw [List.length_map] at hlength
        have hlast : (c :: rest)[0 + key.length - 1]? = some last := by
          rw [Nat.zero_add, List.getElem?_eq_getElem (by omega)]
          simp [last,
            List.getElem?_eq_getElem (show key.length - 1 < (c :: rest).length by omega)]
        rw [List.map_cons, List.map_cons, hspans, spanAt?, hlast, List.map_map]
        congr 1
        apply List.map_congr_left
        intro place _
        have hdrop : (c :: rest).drop key.length = rest.drop (key.length - 1) := by
          obtain ⟨k, hk⟩ := Nat.exists_eq_succ_of_ne_zero (Nat.ne_of_gt hpos)
          rw [hk, List.drop_succ_cons, Nat.succ_sub_one]
        rw [← hdrop, spanAt?_drop (c :: rest) hpos]
        rfl
  | case3 c rest hmatch ih =>
      obtain ⟨places, hplaces, hspans⟩ := ih
      rw [beginsWith_iff, List.map_cons] at hmatch
      refine ⟨places.map (1 + ·), hplaces.skip hmatch, ?_⟩
      rw [hspans, List.map_map]
      apply List.map_congr_left
      intro place _
      exact spanAt?_drop (c :: rest) hpos 1 place

theorem ofString?_eq_some_iff {word : String} {term : SearchTerm} : ofString? word = some term ↔
    term.key = fold word.toList ∧ term.ascii = word.toList.all isAscii := by
  obtain ⟨key, ascii, hkey⟩ := term
  rw [ofString?]
  split
  · next hnil =>
      refine ⟨fun hnone => by simp at hnone, ?_⟩
      rintro ⟨rfl, -⟩
      exact absurd hnil hkey
  · rw [Option.some.injEq, SearchTerm.mk.injEq]
    exact and_congr eq_comm eq_comm

theorem exists_ofString?_eq_some {word : String} (hword : word ≠ "") :
    ∃ term, ofString? word = some term := by
  have hfold : fold word.toList ≠ [] := by
    obtain ⟨c, cs, hcs⟩ := List.exists_cons_of_ne_nil (mt String.toList_eq_nil_iff.mp hword)
    rw [hcs, fold, List.flatMap_cons]
    exact List.append_ne_nil_of_left_ne_nil (lower_ne_nil c) _
  exact ⟨_, dif_neg hfold⟩

theorem exists_places (term : SearchTerm) (text : String) :
    ∃ places, IsLeftmost term.key (fold text.toList) places ∧
      (term.spans text).map some =
      places.map (spanAt? (foldedChars 0 text.toList) term.key.length) := by
  rw [spans_eq_scanFolded, ← foldedChars_map_char 0]
  exact exists_isLeftmost term.key_ne_nil _

theorem spans_eq_nil_iff (term : SearchTerm) (text : String) :
    term.spans text = [] ↔ ¬ term.key <:+: fold text.toList := by
  obtain ⟨places, hplaces, hspans⟩ := term.exists_places text
  rw [← List.map_eq_nil_iff (f := some), hspans, List.map_eq_nil_iff]
  constructor
  · rintro rfl hinfix
    obtain ⟨place, hplace⟩ := exists_occursAt_of_isInfix hinfix
    obtain ⟨taken, htaken, -⟩ := hplaces.covers place hplace
    exact List.not_mem_nil htaken
  · intro hinfix
    apply List.eq_nil_iff_forall_not_mem.mpr
    intro place hplace
    exact hinfix (hplaces.occursAt place hplace).isInfix

/-- What is found of a term is the leftmost choice of disjoint occurrences of the folded term in
the folded text, each with the bytes of the characters that it comes from.  So an occurrence that
is not found overlaps one that is, and there are never more disjoint occurrences than are
found. -/
theorem spans_leftmost {word : String} (hword : word ≠ "") (text : String) :
    ∃ term places, ofString? word = some term ∧
      IsLeftmost (fold word.toList) (fold text.toList) places ∧
      (∀ others, IsLeftmost (fold word.toList) (fold text.toList) others → others = places) ∧
      (term.spans text).map some =
        places.map (spanAt? (foldedChars 0 text.toList) (fold word.toList).length) ∧
      IsGreatest {n | ∃ chosen : Finset Nat,
        IsDisjoint (fold word.toList) (fold text.toList) chosen ∧ chosen.card = n}
          (term.count text) := by
  obtain ⟨term, hterm⟩ := exists_ofString?_eq_some hword
  obtain ⟨places, hplaces, hspans⟩ := term.exists_places text
  have hkey := (ofString?_eq_some_iff.mp hterm).1
  have hlength : term.count text = places.length := by
    have hmapped := congrArg List.length hspans
    rwa [List.length_map, List.length_map] at hmapped
  have hgreatest := hplaces.isGreatest term.key_ne_nil
  have hunique : ∀ others, IsLeftmost term.key (fold text.toList) others → others = places :=
    fun others hothers => hothers.eq term.key_ne_nil hplaces
  rw [← hlength] at hgreatest
  rw [hkey] at hplaces hunique hspans hgreatest
  exact ⟨term, places, hterm, hplaces, hunique, hspans, hgreatest⟩

theorem spans_leftmost_overlapping : "aBa" ≠ "" ∧ ∃ term, ofString? "aBa" = some term ∧
    term.spans "ABABABA" = [⟨0, 3⟩, ⟨4, 7⟩] ∧
      OccursAt (fold "aBa".toList) (fold "ABABABA".toList) 2 ∧
      IsGreatest {n | ∃ chosen : Finset Nat,
        IsDisjoint (fold "aBa".toList) (fold "ABABABA".toList) chosen ∧ chosen.card = n} 2 := by
  have hword : "aBa" ≠ "" := by decide
  obtain ⟨term, places, hterm, -, -, -, hgreatest⟩ := spans_leftmost hword "ABABABA"
  have hspans : term.spans "ABABABA" = [⟨0, 3⟩, ⟨4, 7⟩] := by
    obtain rfl := Option.some.inj (hterm.symm.trans (dif_neg (by decide)))
    decide +kernel
  have hcount : term.count "ABABABA" = 2 := congrArg List.length hspans
  rw [hcount] at hgreatest
  exact ⟨hword, term, hterm, hspans, ⟨['b', 'a'], by decide⟩, hgreatest⟩

theorem isInfix_of_spans_eq {a b : SearchTerm} (h : ∀ text, a.spans text = b.spans text)
    {word : String}
    (hword : a.key = fold word.toList) : b.key <:+: a.key := by
  have hfound : a.spans word ≠ [] := by
    rw [ne_eq, spans_eq_nil_iff, not_not, hword]
  rw [h word, ne_eq, spans_eq_nil_iff, not_not] at hfound
  rwa [hword]

/-- Two terms are found at the same places in all texts just if they have the same key.  It makes
no difference which scan finds them: for ASCII the two scans agree. -/
theorem key_eq_iff {a b : String} {x y : SearchTerm} (ha : ofString? a = some x)
    (hb : ofString? b = some y) :
    (x.key = y.key ↔ ∀ text, x.spans text = y.spans text) ∧
      ∀ text : String, a.toList.all isAscii = true → text.toList.all isAscii = true →
        x.spans text = scanAscii x.key 0 text.toList ∧
          scanAscii x.key 0 text.toList = scanFolded x.key (foldedChars 0 text.toList) := by
  obtain ⟨hxkey, hxascii⟩ := ofString?_eq_some_iff.mp ha
  obtain ⟨hykey, -⟩ := ofString?_eq_some_iff.mp hb
  refine ⟨⟨spans_eq_of_key_eq, fun hspans => ?_⟩, fun text hword htext => ⟨?_, ?_⟩⟩
  · -- Each term is found in its own text, so each key is a part of the other.
    have hyx := isInfix_of_spans_eq hspans hxkey
    have hxy := isInfix_of_spans_eq (fun text => (hspans text).symm) hykey
    exact hxy.eq_of_length_le hyx.length_le
  · rw [spans, hxascii, hword, htext]
    rfl
  · exact scanAscii_eq_scanFolded x.key_ne_nil (List.all_eq_true.mp htext) 0

/-- The sign for kelvin folds to `k`, although it is not in ASCII: the folded scan finds for it
what the scan of ASCII texts finds for `k`. -/
theorem key_eq_iff_kelvin : ∃ x y, ofString? "\u212A" = some x ∧ ofString? "K" = some y ∧
    x.ascii = false ∧ y.ascii = true ∧ x.key = y.key ∧
      x.spans "Kick" = y.spans "Kick" ∧ y.spans "Kick" = [⟨0, 1⟩, ⟨3, 4⟩] ∧
      y.spans "Kick" = scanFolded y.key (foldedChars 0 "Kick".toList) := by
  have hkelvin : ofString? "\u212A" = some ⟨['k'], false, by decide⟩ :=
    ofString?_eq_some_iff.mpr ⟨by decide +kernel, by decide⟩
  have hletter : ofString? "K" = some ⟨['k'], true, by decide⟩ :=
    ofString?_eq_some_iff.mpr ⟨by decide, by decide⟩
  obtain ⟨hiff, -⟩ := key_eq_iff hkelvin hletter
  obtain ⟨-, hscans⟩ := key_eq_iff hletter hkelvin
  obtain ⟨hscan, hfolded⟩ := hscans "Kick" (by decide) (by decide)
  exact ⟨_, _, hkelvin, hletter, rfl, rfl, rfl,
    hiff.mp rfl "Kick", by decide +kernel, hscan.trans hfolded⟩

end SearchTerm

end TranscriptSearch
