import TranscriptSearch.Proofs.Screen.LineTable

namespace TranscriptSearch

namespace ScrollStep

def nextHeights (heights : List Nat) : ScrollStep → List Nat
  | .setHeights others => others
  | .pushHeights more => heights ++ more
  | .setHeight index height => heights.set index height
  | _ => heights

/-- The numbers of rows after a run that begins without items. -/
def heightsAfter (steps : List ScrollStep) : List Nat :=
  steps.foldl nextHeights []

end ScrollStep

namespace LineTable

/-- The table after a step.  Moves of the viewport do not touch it. -/
def next? (table : LineTable) : ScrollStep → Option LineTable
  | .setHeights heights => heights.foldlM push? empty
  | .pushHeights heights => heights.foldlM push? table
  | .setHeight index height => table.setHeight? index height
  | _ => some table

def run? (table : LineTable) (steps : List ScrollStep) : Option LineTable :=
  steps.foldlM next? table

theorem next?_ofHeights {heights : List Nat} (h : ScrollState.linesOf heights < UInt64.size)
    (step : ScrollStep) :
    (ofHeights heights).next? step = ofHeights? (step.nextHeights heights) := by
  cases step with
  | setHeights others =>
      have hempty : ScrollState.linesOf [] < UInt64.size := by decide
      exact foldlM_push?_ofHeights hempty others
  | pushHeights more => exact foldlM_push?_ofHeights h more
  | setHeight index height => exact setHeight?_ofHeights h index height
  | _ => exact (if_pos h).symm

end LineTable

namespace ScrollState

def run? (s : ScrollState) (steps : List ScrollStep) : Option ScrollState :=
  steps.foldlM next? s

variable {s after : ScrollState}

theorem checked?_eq_some_iff :
    s.checked? = some after ↔ s.totalLines < UInt64.size ∧ s = after := by
  simp [checked?]

theorem heights_of_next? {step : ScrollStep} (h : s.next? step = some after) :
    after.heights = step.nextHeights s.heights := by
  cases step with
  | setHeights heights =>
      obtain ⟨-, rfl⟩ := checked?_eq_some_iff.mp h
      rfl
  | pushHeights heights =>
      obtain ⟨-, rfl⟩ := checked?_eq_some_iff.mp h
      rfl
  | setHeight index height =>
      obtain ⟨-, rfl⟩ := checked?_eq_some_iff.mp h
      exact s.heights_setHeight index height
  | stopFollowing viewport =>
      obtain rfl := Option.some.inj h
      exact s.heights_stopFollowing viewport
  | scrollDown lines viewport => exact heights_of_scrollDown? h
  | pageDown viewport => exact heights_of_scrollDown? h
  | _ =>
      obtain rfl := Option.some.inj h
      rfl

theorem totalLines_lt_of_next? {step : ScrollStep} (hbefore : s.totalLines < UInt64.size)
    (h : s.next? step = some after) : after.totalLines < UInt64.size := by
  have hkept : step.nextHeights s.heights = s.heights → after.totalLines < UInt64.size := by
    intro hsame
    rw [totalLines, heights_of_next? h, hsame]
    exact hbefore
  cases step with
  | setHeights heights =>
      obtain ⟨hlines, rfl⟩ := checked?_eq_some_iff.mp h
      exact hlines
  | pushHeights heights =>
      obtain ⟨hlines, rfl⟩ := checked?_eq_some_iff.mp h
      exact hlines
  | setHeight index height =>
      obtain ⟨hlines, rfl⟩ := checked?_eq_some_iff.mp h
      exact hlines
  | _ => exact hkept rfl

theorem next?_table (hbefore : s.totalLines < UInt64.size) {step : ScrollStep}
    (h : s.next? step = some after) :
    (LineTable.ofHeights s.heights).next? step = some (.ofHeights after.heights) := by
  rw [LineTable.next?_ofHeights hbefore, ← heights_of_next? h]
  exact if_pos (totalLines_lt_of_next? hbefore h)

theorem run?_table (hbefore : s.totalLines < UInt64.size) {steps : List ScrollStep}
    (h : s.run? steps = some after) :
    after.heights = steps.foldl ScrollStep.nextHeights s.heights ∧
      after.totalLines < UInt64.size ∧
      (LineTable.ofHeights s.heights).run? steps = some (.ofHeights after.heights) := by
  induction steps generalizing s with
  | nil =>
      obtain rfl : s = after := Option.some.inj h
      exact ⟨rfl, hbefore, rfl⟩
  | cons step steps ih =>
      rw [run?, List.foldlM_cons] at h
      obtain ⟨between, hstep, hsteps⟩ := Option.bind_eq_some_iff.mp h
      obtain ⟨hheights, hlines, htable⟩ := ih (totalLines_lt_of_next? hbefore hstep) hsteps
      refine ⟨?_, hlines, ?_⟩
      · rw [hheights, heights_of_next? hstep]
        rfl
      · rw [LineTable.run?, List.foldlM_cons, next?_table hbefore hstep]
        exact htable

/-- Whether items with these numbers of rows stand one below the other, each on its rows and a
blank line. -/
structure Stacks (s : ScrollState) (heights : List Nat) : Prop where
  itemHeight?_eq : ∀ index, s.itemHeight? index = heights[index]?
  itemStart?_eq : ∀ index, s.itemStart? index =
    if index < heights.length then some (sumOf ((heights.take index).map (· + 1))) else none
  totalLines_eq : s.totalLines = sumOf (heights.map (· + 1))

theorem stacks_heights (s : ScrollState) : s.Stacks s.heights :=
  ⟨fun _ => rfl, fun _ => rfl, rfl⟩

/-- Whether a line of an item is among those of a viewport with its top at `offset`. -/
def Meets (s : ScrollState) (offset viewport index : Nat) : Prop :=
  ∃ start height line, s.itemStart? index = some start ∧ s.itemHeight? index = some height ∧
    (start ≤ line ∧ line < start + (height + 1)) ∧ (offset ≤ line ∧ line < offset + viewport)

/-- Whether what is found in a viewport is what is in it: the items of which a line is there, and
of the first one the number of lines above the top. -/
structure FindsVisible (s : ScrollState) (viewport : Nat) : Prop where
  eq_none_iff : s.visibleRange? viewport = none ↔ s.heights = [] ∨ viewport = 0
  mem_indices_iff : ∀ range, s.visibleRange? viewport = some range → ∀ index,
    (index ∈ range.indices ↔ s.Meets range.offset viewport index)
  skip_eq : ∀ range, s.visibleRange? viewport = some range →
    range.first ∈ range.indices ∧ ∃ start height, s.itemStart? range.first = some start ∧
      s.itemHeight? range.first = some height ∧ start + range.skip = range.offset ∧
      range.skip < height + 1
  offset_le : ∀ range, s.visibleRange? viewport = some range →
    range.offset = s.offset viewport ∧ range.offset ≤ s.totalLines - viewport

theorem itemStart?_eq_some {s : ScrollState} {index height : Nat}
    (h : s.heights[index]? = some height) :
    s.itemStart? index = some (linesOf (s.heights.take index)) :=
  if_pos (List.getElem?_eq_some_iff.mp h).1

theorem meets_iff {s : ScrollState} {offset viewport index height : Nat}
    (hviewport : 0 < viewport) (h : s.heights[index]? = some height) :
    s.Meets offset viewport index ↔ linesOf (s.heights.take index) < offset + viewport ∧
      offset ≤ linesOf (s.heights.take index) + height := by
  constructor
  · rintro ⟨start, height', line, hstart, hheight, hitem, htop⟩
    obtain rfl := Option.some.inj ((itemStart?_eq_some h).symm.trans hstart)
    obtain rfl := Option.some.inj (h.symm.trans hheight)
    omega
  · rintro ⟨hbottom, htop⟩
    -- The first line of the item that is not above the viewport.
    exact ⟨_, height, max (linesOf (s.heights.take index)) offset, itemStart?_eq_some h, h,
      by omega, by omega⟩

theorem pos_of_visibleRange? {s : ScrollState} {viewport : Nat} {range : VisibleRange}
    (h : s.visibleRange? viewport = some range) : 0 < viewport := by
  refine Nat.pos_of_ne_zero fun hviewport => ?_
  rw [visibleRange?_eq_none_iff.mpr (.inr hviewport)] at h
  simp at h

theorem itemAtLine?_of_visibleRange? {s : ScrollState} {viewport : Nat} {range : VisibleRange}
    (h : s.visibleRange? viewport = some range) : range.offset = s.offset viewport ∧
      itemAtLine? s.heights (s.offset viewport) = some (range.first, range.skip) := by
  rw [visibleRange?, if_neg (Nat.ne_of_gt (pos_of_visibleRange? h))] at h
  obtain ⟨_, hline, rfl⟩ := Option.map_eq_some_iff.mp h
  exact ⟨rfl, hline⟩

theorem mem_indices_iff_meets {s : ScrollState} {viewport : Nat} {range : VisibleRange}
    (h : s.visibleRange? viewport = some range) (index : Nat) :
    index ∈ range.indices ↔ s.Meets range.offset viewport index := by
  have hviewport := pos_of_visibleRange? h
  cases hheight : s.heights[index]? with
  | none =>
      have hlength := List.getElem?_eq_none_iff.mp hheight
      have hstop := stop_le_length h
      constructor
      · intro hindex
        have hmem := VisibleRange.mem_indices.mp hindex
        omega
      · rintro ⟨-, height, -, -, hsome, -⟩
        rw [itemHeight?, hheight] at hsome
        simp at hsome
  | some height =>
      rw [meets_iff hviewport hheight, (itemAtLine?_of_visibleRange? h).1,
        ← mem_visibleRange?_iff hviewport hheight, VisibleRange.mem_indices, h]
      simp only [Option.some.injEq, exists_eq_left']

theorem findsVisible (s : ScrollState) (viewport : Nat) : s.FindsVisible viewport where
  eq_none_iff := visibleRange?_eq_none_iff
  mem_indices_iff range hrange index := mem_indices_iff_meets hrange index
  skip_eq range hrange := by
    obtain ⟨hoffset, hfirst⟩ := itemAtLine?_of_visibleRange? hrange
    obtain ⟨hline, height, hheight, hskip⟩ := linesOf_take_add_of_itemAtLine? hfirst
    have hviewport := pos_of_visibleRange? hrange
    refine ⟨?_, _, height, itemStart?_eq_some hheight, hheight, hline.trans hoffset.symm,
      Nat.lt_succ_of_le hskip⟩
    rw [mem_indices_iff_meets hrange, meets_iff hviewport hheight]
    omega
  offset_le range hrange := by
    obtain ⟨hoffset, -⟩ := itemAtLine?_of_visibleRange? hrange
    exact ⟨hoffset, hoffset ▸ s.offset_le_maxOffset viewport⟩

end ScrollState

/-- Whether a table has the lines of the items of a state, and halving it finds what is in a
viewport. -/
structure LineTable.Keeps (table : LineTable) (s : ScrollState) : Prop where
  start_eq : ∀ index, table.items[index]?.map ItemLines.start = s.itemStart? index
  count_eq : ∀ index, table.items[index]?.map ItemLines.count = (s.itemHeight? index).map (· + 1)
  total_eq : table.total = s.totalLines
  visibleRange?_eq : ∀ viewport < UInt64.size,
    table.visibleRange? (s.offset viewport) viewport = some (s.visibleRange? viewport)

theorem LineTable.keeps_ofHeights {s : ScrollState} (h : s.totalLines < UInt64.size) :
    (ofHeights s.heights).Keeps s where
  start_eq index := by
    rw [ofHeights, getElem?_linesFrom, Option.map_map]
    cases hheight : s.heights[index]? with
    | none =>
        have hlength := List.getElem?_eq_none_iff.mp hheight
        exact (if_neg (Nat.not_lt.mpr hlength)).symm
    | some height =>
        rw [ScrollState.itemStart?_eq_some hheight, Option.map_some, Function.comp_apply,
          Nat.zero_add]
  count_eq index := by
    rw [ofHeights, getElem?_linesFrom, Option.map_map, ScrollState.itemHeight?]
    rfl
  total_eq := rfl
  visibleRange?_eq _ hviewport := visibleRange?_ofHeights h hviewport

/-- However items come, get other numbers of rows and the viewport is moved: as long as no step
fails, every item begins at the sum of the lines above it, as a table of words says that is
shifted with each change; and the items found in a viewport are those of which a line is in it. -/
theorem ScrollState.stacks_run {steps : List ScrollStep} {s : ScrollState}
    (h : empty.run? steps = some s) :
    s.Stacks (ScrollStep.heightsAfter steps) ∧ (∀ viewport, s.FindsVisible viewport) ∧
      ∃ table, LineTable.empty.run? steps = some table ∧ table.Keeps s := by
  obtain ⟨hheights, hlines, htable⟩ := run?_table (s := empty) (by decide) h
  change s.heights = ScrollStep.heightsAfter steps at hheights
  exact ⟨hheights ▸ stacks_heights s, findsVisible s, _, htable,
    LineTable.keeps_ofHeights hlines⟩

theorem ScrollState.stacks_run_grown :
    let steps := [ScrollStep.setHeights [2, 2], .pushHeights [1], .toTop, .setHeight 1 5,
      .scrollDown 4 4]
    ∃ s, empty.run? steps = some s ∧ s.Stacks [2, 5, 1] ∧
      s.visibleRange? 4 = some ⟨1, 2, 1, 4⟩ ∧
      ∃ table, LineTable.empty.run? steps = some table ∧ table.Keeps s := by
  intro steps
  have hrun : empty.run? steps = some ⟨.anchored 4, [2, 5, 1]⟩ := by decide
  obtain ⟨hstacks, -, htable⟩ := stacks_run hrun
  exact ⟨_, hrun, hstacks, by decide, htable⟩

end TranscriptSearch
