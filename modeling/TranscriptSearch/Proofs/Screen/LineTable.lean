import TranscriptSearch.Proofs.Screen.DrawnRows

/-!
The lines of items, written down.  A table has the first line of every item, so that the items in
a viewport are found by halving it twice.  It is kept up when items come and when one gets another
number of rows: all items below that one are shifted.  What is written down then is what adding up
the rows gives, and halving finds the items that walking down the document finds.
-/

namespace TranscriptSearch

/-- The lines of an item: the first one, and how many there are. -/
structure ItemLines where
  start : Nat
  count : Nat
deriving DecidableEq

/-- The lines of all items, and how many lines there are. -/
structure LineTable where
  items : List ItemLines
  total : Nat
deriving DecidableEq

/-- The number of elements in front of the first one that fails a test, if it is from `lo` to
`hi`. -/
def bisect {α : Type} (test : α → Bool) (items : List α) (lo hi : Nat) : Nat :=
  if _h : lo < hi then
    if items[(lo + hi) / 2]?.any test then bisect test items ((lo + hi) / 2 + 1) hi
    else bisect test items lo ((lo + hi) / 2)
  else lo
termination_by hi - lo

/-- Whether the elements that pass a test stand in front of those that fail it. -/
def IsPartitioned {α : Type} (test : α → Bool) (items : List α) : Prop :=
  items.Pairwise fun above below => test below = true → test above = true

theorem IsPartitioned.of_le {α : Type} {test : α → Bool} {items : List α}
    (h : IsPartitioned test items) {i j : Nat} {above below : α} (hij : i ≤ j)
    (habove : items[i]? = some above) (hbelow : items[j]? = some below)
    (htest : test below = true) : test above = true := by
  obtain ⟨hi, rfl⟩ := List.getElem?_eq_some_iff.mp habove
  obtain ⟨hj, rfl⟩ := List.getElem?_eq_some_iff.mp hbelow
  rcases Nat.eq_or_lt_of_le hij with rfl | hlt
  · exact htest
  · exact List.pairwise_iff_getElem.mp h i j hi hj hlt htest

/-- Halving finds the first element that fails a test, if those in front of `lo` pass it and those
from `hi` on do not. -/
theorem lt_bisect_iff {α : Type} {test : α → Bool} {items : List α}
    (h : IsPartitioned test items) {lo hi : Nat} (hle : lo ≤ hi) (hlength : hi ≤ items.length)
    (hlo : ∀ index < lo, ∀ item, items[index]? = some item → test item = true)
    (hhi : ∀ index ≥ hi, ∀ item, items[index]? = some item → test item = false) :
    bisect test items lo hi ≤ hi ∧ ∀ index item, items[index]? = some item →
      (index < bisect test items lo hi ↔ test item = true) := by
  -- Each half keeps what is known of the elements in front of it and behind it.
  induction hsize : hi - lo using Nat.strongRecOn generalizing lo hi with
  | ind size ih =>
      rw [bisect]
      split
      · next hlt =>
          obtain ⟨middle, hmiddle⟩ : ∃ middle, items[(lo + hi) / 2]? = some middle :=
            ⟨_, List.getElem?_eq_getElem (by omega)⟩
          rw [hmiddle, Option.any_some]
          split
          · next htest =>
              refine ih (hi - ((lo + hi) / 2 + 1)) (by omega) (by omega) hlength ?_ hhi rfl
              intro index hindex item hitem
              exact h.of_le (Nat.le_of_lt_succ hindex) hitem hmiddle htest
          · next htest =>
              have hbehind : ∀ index ≥ (lo + hi) / 2, ∀ item, items[index]? = some item →
                  test item = false := by
                intro index hindex item hitem
                rw [← Bool.not_eq_true]
                exact fun hpass => htest (h.of_le hindex hmiddle hitem hpass)
              obtain ⟨hplace, hiff⟩ := ih ((lo + hi) / 2 - lo) (by omega)
                (show lo ≤ (lo + hi) / 2 by omega) (by omega) hlo hbehind rfl
              exact ⟨by omega, hiff⟩
      · next hlt =>
          refine ⟨hle, fun index item hitem => ⟨fun hindex => hlo index hindex item hitem, ?_⟩⟩
          intro htest
          refine Nat.lt_of_not_le fun hindex => ?_
          rw [hhi index (by omega) item hitem] at htest
          simp at htest

theorem bisect_eq {α : Type} {test : α → Bool} {items : List α} (h : IsPartitioned test items)
    {place : Nat} (hplace : place ≤ items.length)
    (hiff : ∀ index item, items[index]? = some item → (index < place ↔ test item = true)) :
    bisect test items 0 items.length = place := by
  obtain ⟨hle, hbisect⟩ := lt_bisect_iff h (Nat.zero_le _) (Nat.le_refl _)
    (fun index hindex => absurd hindex (Nat.not_lt_zero index)) (fun index hindex item hitem =>
      absurd (List.getElem?_eq_some_iff.mp hitem).1 (Nat.not_lt.mpr hindex))
  have hagree : ∀ index < items.length,
      (index < bisect test items 0 items.length ↔ index < place) := by
    intro index hindex
    have hitem := List.getElem?_eq_getElem hindex
    exact (hbisect index _ hitem).trans (hiff index _ hitem).symm
  rcases Nat.lt_trichotomy (bisect test items 0 items.length) place with hlt | heq | hgt
  · exact absurd ((hagree _ (Nat.lt_of_lt_of_le hlt hplace)).mpr hlt) (Nat.lt_irrefl _)
  · exact heq
  · exact absurd ((hagree place (Nat.lt_of_lt_of_le hgt hle)).mp hgt) (Nat.lt_irrefl _)

namespace ScrollState

theorem offset_lt_totalLines (s : ScrollState) {viewport : Nat} (hviewport : 0 < viewport)
    (hheights : s.heights ≠ []) : s.offset viewport < s.totalLines := by
  have hle := s.offset_le_maxOffset viewport
  obtain ⟨height, rest, hcons⟩ := List.exists_cons_of_ne_nil hheights
  have htotal : s.totalLines = height + 1 + linesOf rest := by
    rw [totalLines, hcons, linesOf_cons]
  rw [maxOffset] at hle
  omega

theorem exists_itemAtLine?_of_not_or {s : ScrollState} {viewport : Nat}
    (h : ¬ (s.heights = [] ∨ viewport = 0)) :
    ∃ first skip, itemAtLine? s.heights (s.offset viewport) = some (first, skip) := by
  obtain ⟨hheights, hviewport⟩ := not_or.mp h
  exact exists_itemAtLine? (s.offset_lt_totalLines (Nat.pos_of_ne_zero hviewport) hheights)

theorem visibleRange?_eq_none_iff {s : ScrollState} {viewport : Nat} :
    s.visibleRange? viewport = none ↔ s.heights = [] ∨ viewport = 0 := by
  rw [visibleRange?]
  constructor
  · intro hnone
    refine Classical.byContradiction fun hsome => ?_
    obtain ⟨first, skip, hfirst⟩ := exists_itemAtLine?_of_not_or hsome
    rw [if_neg (not_or.mp hsome).2, Option.map_eq_none_iff, hfirst] at hnone
    simp at hnone
  · rintro (hheights | rfl)
    · simp [hheights, itemAtLine?]
    · rfl

end ScrollState

namespace LineTable

def empty : LineTable :=
  ⟨[], 0⟩

/-- The table with an item more, unless its lines are too many for words. -/
def push? (table : LineTable) (height : Nat) : Option LineTable := do
  let count ← addWords? height 1
  let total ← addWords? table.total count
  return ⟨table.items ++ [⟨table.total, count⟩], total⟩

/-- An item below one that had `old` lines and now has `count`. -/
def shift? (old count : Nat) (item : ItemLines) : Option ItemLines := do
  let above ← subWords? item.start old
  let start ← addWords? above count
  return { item with start }

def setHeight? (table : LineTable) (index height : Nat) : Option LineTable :=
  match table.items[index]? with
  | some item => do
    let count ← addWords? height 1
    if count = item.count then return table
    let below ← (table.items.drop (index + 1)).mapM (shift? item.count count)
    let others ← subWords? table.total item.count
    let total ← addWords? others count
    return ⟨table.items.take index ++ { item with count } :: below, total⟩
  | none => some table

/-- What is in a viewport with its top at `offset`, unless a line is too large for a word. -/
def visibleRange? (table : LineTable) (offset viewport : Nat) : Option (Option VisibleRange) :=
  if table.items = [] ∨ viewport = 0 then some none
  else do
    let bottom ← addWords? offset viewport
    let first :=
      bisect (fun item => item.start + item.count ≤ offset) table.items 0 table.items.length
    match table.items[first]? with
    | none => return none
    | some item =>
      let skip ← subWords? offset item.start
      let stop := bisect (fun item => item.start < bottom) table.items 0 table.items.length
      return some ⟨first, stop, skip, offset⟩

/-- The lines of items of which the first one begins at a line. -/
def linesFrom : Nat → List Nat → List ItemLines
  | _, [] => []
  | start, height :: rest => ⟨start, height + 1⟩ :: linesFrom (start + (height + 1)) rest

def ofHeights (heights : List Nat) : LineTable :=
  ⟨linesFrom 0 heights, ScrollState.linesOf heights⟩

example : ofHeights [2, 3, 1] = ⟨[⟨0, 3⟩, ⟨3, 4⟩, ⟨7, 2⟩], 9⟩ := rfl

/-- The table of items whose lines are not too many for words. -/
def ofHeights? (heights : List Nat) : Option LineTable :=
  if ScrollState.linesOf heights < UInt64.size then some (ofHeights heights) else none

open ScrollState (linesOf)

theorem length_linesFrom (start : Nat) (heights : List Nat) :
    (linesFrom start heights).length = heights.length := by
  induction heights generalizing start with
  | nil => rfl
  | cons height rest ih => rw [linesFrom, List.length_cons, List.length_cons, ih]

theorem linesFrom_append (start : Nat) (above below : List Nat) :
    linesFrom start (above ++ below) =
      linesFrom start above ++ linesFrom (start + linesOf above) below := by
  induction above generalizing start with
  | nil => rfl
  | cons height rest ih =>
      rw [List.cons_append, linesFrom, linesFrom, ih, ScrollState.linesOf_cons, List.cons_append,
        Nat.add_assoc]

theorem getElem?_linesFrom (start : Nat) (heights : List Nat) (index : Nat) :
    (linesFrom start heights)[index]? =
      heights[index]?.map fun height => ⟨start + linesOf (heights.take index), height + 1⟩ := by
  induction heights generalizing start index with
  | nil => rfl
  | cons height rest ih =>
      cases index with
      | zero => rfl
      | succ index =>
          rw [linesFrom, List.getElem?_cons_succ, ih, List.getElem?_cons_succ,
            List.take_succ_cons, ScrollState.linesOf_cons, Nat.add_assoc]

theorem mapM_shift?_linesFrom {start old count : Nat} {heights : List Nat} (hold : old ≤ start)
    (hlines : start - old + count + linesOf heights < UInt64.size) :
    (linesFrom start heights).mapM (shift? old count) =
      some (linesFrom (start - old + count) heights) := by
  induction heights generalizing start with
  | nil => rfl
  | cons height rest ih =>
      have hstart : start + (height + 1) - old + count = start - old + count + (height + 1) := by
        omega
      rw [ScrollState.linesOf_cons] at hlines
      have hfirst : shift? old count ⟨start, height + 1⟩ =
          some ⟨start - old + count, height + 1⟩ := by
        rw [shift?, subWords?_of_le hold]
        simp [addWords?_of_lt (show start - old + count < UInt64.size by omega)]
      rw [linesFrom, linesFrom, List.mapM_cons, hfirst, ih (by omega) (by omega), hstart]
      rfl

theorem push?_ofHeights (heights : List Nat) (height : Nat) :
    (ofHeights heights).push? height = ofHeights? (heights ++ [height]) := by
  have htotal : linesOf (heights ++ [height]) = linesOf heights + (height + 1) :=
    ScrollState.linesOf_append heights [height]
  have hpushed : ofHeights (heights ++ [height]) =
      ⟨linesFrom 0 heights ++ [⟨linesOf heights, height + 1⟩], linesOf heights +
        (height + 1)⟩ := by
    rw [ofHeights, linesFrom_append, htotal, Nat.zero_add]
    rfl
  rw [ofHeights?, htotal, hpushed, push?, ofHeights]
  split
  · next hlt =>
      rw [addWords?_of_lt (show height + 1 < UInt64.size by omega)]
      simp [addWords?_of_lt hlt]
  · next hge =>
      cases hcount : addWords? height 1 with
      | none => rfl
      | some count =>
          obtain ⟨-, rfl⟩ := addWords?_eq_some_iff.mp hcount
          simp [addWords?_eq_none_iff.mpr (Nat.le_of_not_lt hge)]

theorem ofHeights?_eq_none_of_isPrefix {heights longer : List Nat} (h : heights <+: longer)
    (hnone : ofHeights? heights = none) : ofHeights? longer = none := by
  obtain ⟨more, rfl⟩ := h
  simp only [ofHeights?, ite_eq_right_iff, reduceCtorEq, imp_false, Nat.not_lt,
    ScrollState.linesOf_append] at hnone ⊢
  omega

theorem foldlM_push?_ofHeights {heights : List Nat} (h : linesOf heights < UInt64.size)
    (more : List Nat) : more.foldlM push? (ofHeights heights) = ofHeights? (heights ++ more) := by
  induction more generalizing heights with
  | nil =>
      rw [List.append_nil, ofHeights?, if_pos h]
      rfl
  | cons height more ih =>
      have hmore : heights ++ [height] ++ more = heights ++ height :: more := by simp
      rw [List.foldlM_cons, push?_ofHeights]
      cases hfirst : ofHeights? (heights ++ [height]) with
      | none =>
          rw [← hmore, ofHeights?_eq_none_of_isPrefix (List.prefix_append _ _) hfirst]
          rfl
      | some table =>
          rw [ofHeights?, Option.ite_none_right_eq_some] at hfirst
          obtain ⟨hlines, heq⟩ := hfirst
          obtain rfl : ofHeights (heights ++ [height]) = table := Option.some.inj heq
          rw [← hmore]
          exact ih hlines

theorem ofHeights_append_cons (above below : List Nat) (height : Nat) :
    ofHeights (above ++ height :: below) =
      ⟨linesFrom 0 above ++ ⟨linesOf above, height + 1⟩ ::
          linesFrom (linesOf above + (height + 1)) below,
        linesOf above + (height + 1) + linesOf below⟩ := by
  rw [ofHeights, linesFrom_append, linesFrom, ScrollState.linesOf_append,
    ScrollState.linesOf_cons, Nat.zero_add, ← Nat.add_assoc (linesOf above) (height + 1)]

theorem linesOf_append_cons (above below : List Nat) (height : Nat) :
    linesOf (above ++ height :: below) = linesOf above + (height + 1) + linesOf below := by
  rw [ScrollState.linesOf_append, ScrollState.linesOf_cons, ← Nat.add_assoc]

theorem setHeight?_append_cons {above below : List Nat} {old : Nat}
    (h : linesOf (above ++ old :: below) < UInt64.size) (height : Nat) :
    (ofHeights (above ++ old :: below)).setHeight? above.length height =
      ofHeights? (above ++ height :: below) := by
  have hlength := length_linesFrom 0 above
  have hitem : (ofHeights (above ++ old :: below)).items[above.length]? =
      some ⟨linesOf above, old + 1⟩ := by
    simp [ofHeights_append_cons, ← hlength]
  have hbelow : (ofHeights (above ++ old :: below)).items.drop (above.length + 1) =
      linesFrom (linesOf above + (old + 1)) below := by
    simp [ofHeights_append_cons, ← hlength]
  have habove : (ofHeights (above ++ old :: below)).items.take above.length =
      linesFrom 0 above := by
    simp [ofHeights_append_cons, ← hlength]
  have htotal : (ofHeights (above ++ old :: below)).total =
      linesOf above + (old + 1) + linesOf below := by
    rw [ofHeights_append_cons]
  rw [setHeight?, hitem]
  simp only [hbelow, habove, htotal]
  rw [subWords?_of_le (show old + 1 ≤ linesOf above + (old + 1) + linesOf below by omega)]
  have hothers : linesOf above + (old + 1) + linesOf below - (old + 1) + (height + 1) =
      linesOf above + (height + 1) + linesOf below := by
    omega
  rw [ofHeights?, linesOf_append_cons]
  rw [linesOf_append_cons] at h
  split
  · next hlt =>
      rw [addWords?_of_lt (show height + 1 < UInt64.size by omega)]
      have hshift : (linesFrom (linesOf above + (old + 1)) below).mapM
          (shift? (old + 1) (height + 1)) =
            some (linesFrom (linesOf above + (height + 1)) below) := by
        rw [mapM_shift?_linesFrom (by omega) (by omega), Nat.add_sub_cancel]
      by_cases hsame : height = old
      · simp [hsame]
      · simp [hsame, hshift, addWords?_of_lt (hothers ▸ hlt), hothers, ofHeights_append_cons]
  · next hge =>
      cases hcount : addWords? height 1 with
      | none => rfl
      | some count =>
          obtain ⟨-, rfl⟩ := addWords?_eq_some_iff.mp hcount
          have hdiffers : height ≠ old := by omega
          have hnone := addWords?_eq_none_iff.mpr
            (show UInt64.size ≤ linesOf above + (old + 1) + linesOf below - (old + 1) +
              (height + 1) by omega)
          simp [hdiffers, hnone]

theorem setHeight?_ofHeights {heights : List Nat} (h : linesOf heights < UInt64.size)
    (index height : Nat) :
    (ofHeights heights).setHeight? index height = ofHeights? (heights.set index height) := by
  rcases Nat.lt_or_ge index heights.length with hindex | hindex
  · have hsplit : heights.take index ++ heights[index] :: heights.drop (index + 1) = heights := by
      rw [List.getElem_cons_drop, List.take_append_drop]
    have hset := setHeight?_append_cons (hsplit.symm ▸ h) height
    rw [hsplit, List.length_take_of_le (Nat.le_of_lt hindex)] at hset
    rw [hset, List.set_eq_take_append_cons_drop, if_pos hindex]
  · have hnone : (linesFrom 0 heights)[index]? = none := by
      rw [List.getElem?_eq_none_iff, length_linesFrom]
      exact hindex
    rw [List.set_eq_of_length_le hindex, setHeight?, ofHeights, hnone, ofHeights?, if_pos h]
    rfl

theorem le_start_of_mem_linesFrom {start : Nat} {heights : List Nat} {item : ItemLines}
    (h : item ∈ linesFrom start heights) : start ≤ item.start := by
  induction heights generalizing start with
  | nil => exact absurd h List.not_mem_nil
  | cons height rest ih =>
      rcases List.mem_cons.mp h with rfl | hrest
      · exact Nat.le_refl start
      · exact Nat.le_trans (Nat.le_add_right start _) (ih hrest)

theorem pairwise_linesFrom (start : Nat) (heights : List Nat) :
    (linesFrom start heights).Pairwise fun above below => above.start + above.count ≤
      below.start := by
  induction heights generalizing start with
  | nil => exact .nil
  | cons height rest ih => exact .cons (fun _ hbelow => le_start_of_mem_linesFrom hbelow) (ih _)

theorem isPartitioned_below (start line : Nat) (heights : List Nat) :
    IsPartitioned (fun item => decide (item.start < line)) (linesFrom start heights) := by
  refine (pairwise_linesFrom start heights).imp ?_
  intro above below hbelow hline
  rw [decide_eq_true_eq] at hline ⊢
  omega

theorem isPartitioned_above (start line : Nat) (heights : List Nat) :
    IsPartitioned (fun item => decide (item.start + item.count ≤ line))
      (linesFrom start heights) := by
  refine (pairwise_linesFrom start heights).imp ?_
  intro above below hbelow hline
  rw [decide_eq_true_eq] at hline ⊢
  omega

theorem bisect_below (heights : List Nat) (line : Nat) :
    bisect (fun item => decide (item.start < line)) (linesFrom 0 heights) 0
      (linesFrom 0 heights).length = ScrollState.itemsAbove heights line := by
  refine bisect_eq (isPartitioned_below 0 line heights) ?_ ?_
  · rw [length_linesFrom]
    exact ScrollState.itemsAbove_le_length heights line
  · intro index item hitem
    rw [getElem?_linesFrom] at hitem
    obtain ⟨height, hheight, rfl⟩ := Option.map_eq_some_iff.mp hitem
    rw [decide_eq_true_eq, Nat.zero_add]
    exact ScrollState.lt_itemsAbove_iff hheight line

theorem bisect_above {heights : List Nat} {line first skip : Nat}
    (h : ScrollState.itemAtLine? heights line = some (first, skip)) :
    bisect (fun item => decide (item.start + item.count ≤ line)) (linesFrom 0 heights) 0
      (linesFrom 0 heights).length = first := by
  obtain ⟨-, height, hheight, -⟩ := ScrollState.linesOf_take_add_of_itemAtLine? h
  refine bisect_eq (isPartitioned_above 0 line heights) ?_ ?_
  · rw [length_linesFrom]
    exact Nat.le_of_lt (List.getElem?_eq_some_iff.mp hheight).1
  · intro index item hitem
    rw [getElem?_linesFrom] at hitem
    obtain ⟨height, hheight, rfl⟩ := Option.map_eq_some_iff.mp hitem
    have hiff := ScrollState.itemAtLine?_le_iff h hheight
    rw [decide_eq_true_eq, Nat.zero_add]
    change index < first ↔ linesOf (heights.take index) + (height + 1) ≤ line
    omega

theorem offset_add_lt_size {s : ScrollState} {viewport : Nat} (h : s.totalLines < UInt64.size)
    (hviewport : viewport < UInt64.size) : s.offset viewport + viewport < UInt64.size := by
  have hle := s.offset_le_maxOffset viewport
  rw [ScrollState.maxOffset] at hle
  omega

/-- The items found in a table are those that walking down the document finds. -/
theorem visibleRange?_ofHeights {s : ScrollState} {viewport : Nat}
    (h : s.totalLines < UInt64.size) (hviewport : viewport < UInt64.size) :
    (ofHeights s.heights).visibleRange? (s.offset viewport) viewport =
      some (s.visibleRange? viewport) := by
  have hnil : (ofHeights s.heights).items = [] ↔ s.heights = [] := by
    rw [← List.length_eq_zero_iff, ← List.length_eq_zero_iff, ofHeights, length_linesFrom]
  rw [visibleRange?]
  split
  · next hnone =>
      rw [hnil] at hnone
      rw [ScrollState.visibleRange?_eq_none_iff.mpr hnone]
  · next hsome =>
      rw [hnil] at hsome
      obtain ⟨first, skip, hfirst⟩ := ScrollState.exists_itemAtLine?_of_not_or hsome
      obtain ⟨hline, height, hheight, -⟩ := ScrollState.linesOf_take_add_of_itemAtLine? hfirst
      have hitem := getElem?_linesFrom 0 s.heights first
      rw [hheight, Option.map_some, Nat.zero_add] at hitem
      have hskip : subWords? (s.offset viewport) (linesOf (s.heights.take first)) =
          some skip := by
        rw [subWords?_of_le (by omega), Option.some.injEq]
        omega
      rw [ScrollState.visibleRange?, if_neg (not_or.mp hsome).2,
        addWords?_of_lt (offset_add_lt_size h hviewport)]
      simp [ofHeights, bisect_above hfirst, bisect_below, hitem, hfirst, hskip]

end LineTable

end TranscriptSearch
