import Mathlib.Data.List.Dedup
import Mathlib.Data.List.Sort
import TranscriptSearch.Proofs.Text.CheckedSlices
import TranscriptSearch.Screen.Paint

/-!
Painted rows.  The text of a span is cut at the bounds of the marks that are boundaries in it; a
cut is never made anywhere else, so the pieces can always be taken.  Between two cuts no mark
begins or ends, and that is why the colours of the first character of a piece are those of all its
characters.
-/

namespace TranscriptSearch

open Text

/-- The offsets in a text at which it is cut, in their order.  It begins at the byte `offset` of
its row. -/
def cuts (bounds : List Nat) (offset : Nat) (cs : List Char) : List Nat :=
  let inner := bounds.filter fun bound => offset < bound && bound < offset + byteSize cs
  let marked := 0 :: byteSize cs :: inner.map (· - offset)
  ((marked.filter (isBoundary cs)).mergeSort fun a b => a ≤ b).dedup

/-- Each number with the next one. -/
def windows : List Nat → List (Nat × Nat)
  | a :: b :: rest => (a, b) :: windows (b :: rest)
  | _ => []

/-- The colours of text with a highlight at the byte `byte` of its row, or its own ones
without. -/
def paintAt (marks : List Mark) (paint : Paint) (byte : Nat) : Paint :=
  match markAt marks byte with
  | some kind => kind.repaint paint
  | none => paint

/-- A piece of a text, which comes with the byte at which it begins, in the colours of its first
character. -/
def paintPiece (marks : List Mark) (paint : Paint) (part : Nat × List Char) : PaintedSpan :=
  ⟨.ofList part.2, paintAt marks paint part.1⟩

/-- The slices of a span, from the byte `offset` of its row on, where a slice may be refused. -/
def StyledSpan.slices? (marks : List Mark) (offset : Nat) (span : StyledSpan) :
    Option (List PaintedSpan) :=
  if marks.isEmpty then some [⟨span.text, span.style.paint⟩]
  else
    (windows (cuts (markBounds marks) offset span.text.toList)).mapM fun (start, stop) =>
      (slice? span.text.toList start stop).map fun piece =>
        paintPiece marks span.style.paint (offset + start, piece)

def slicesFrom? (marks : List Mark) (offset : Nat) : List StyledSpan → Option (List PaintedSpan)
  | [] => some []
  | span :: rest => do
      let slices ← span.slices? marks offset
      let others ← slicesFrom? marks (offset + bytesOf span.text) rest
      return slices ++ others

/-- A row cut into slices, each with its colours, where a slice may be refused. -/
def StyledLine.slices? (line : StyledLine) (marks : List Mark) : Option (List PaintedSpan) :=
  slicesFrom? marks 0 line.spans

/-- A character of a row, with the byte at which it begins. -/
structure RowChar where
  char : Char
  start : Nat
  style : Style
deriving DecidableEq

namespace RowChar

def stop (c : RowChar) : Nat :=
  c.start + c.char.utf8Size

/-- Whether a mark lies on the whole character. -/
def IsCoveredBy (c : RowChar) (mark : Mark) : Prop :=
  mark.start ≤ c.start ∧ c.stop ≤ mark.stop

instance (c : RowChar) (mark : Mark) : Decidable (c.IsCoveredBy mark) :=
  inferInstanceAs (Decidable (_ ∧ _))

/-- The colours of a character: of the current occurrence if that covers it, of the others if one
of them does. -/
def paint (c : RowChar) (marks : List Mark) : Paint :=
  if ∃ mark ∈ marks, mark.kind = .current ∧ c.IsCoveredBy mark then
    HighlightKind.current.repaint c.style.paint
  else if ∃ mark ∈ marks, mark.kind = .all ∧ c.IsCoveredBy mark then
    HighlightKind.all.repaint c.style.paint
  else c.style.paint

/-- Whether a bound is not inside the character. -/
def IsOutside (c : RowChar) (bound : Nat) : Prop :=
  bound ≤ c.start ∨ c.stop ≤ bound

end RowChar

def charsOf (style : Style) (offset : Nat) : List Char → List RowChar
  | [] => []
  | c :: cs => ⟨c, offset, style⟩ :: charsOf style (offset + c.utf8Size) cs

def charsFrom (offset : Nat) : List StyledSpan → List RowChar
  | [] => []
  | span :: rest => charsOf span.style offset span.text.toList ++
    charsFrom (offset + bytesOf span.text) rest

def StyledLine.chars (line : StyledLine) : List RowChar :=
  charsFrom 0 line.spans

/-- The characters that are painted, each with its colours. -/
def paintedChars (spans : List PaintedSpan) : List (Char × Paint) :=
  spans.flatMap fun span => span.text.toList.map fun c => (c, span.paint)

section Pieces

variable (bounds : List Nat)

theorem exists_pieces_eq (offset : Nat) {cs : List Char} (hcs : cs ≠ []) :
    ∃ piece more, pieces bounds offset cs = (offset, piece) :: more := by
  obtain ⟨c, rest, rfl⟩ := List.exists_cons_of_ne_nil hcs
  rw [pieces]
  split
  · exact ⟨_, _, rfl⟩
  · split
    · exact ⟨_, _, rfl⟩
    · exact ⟨_, _, rfl⟩

/-- The pieces of a text come from those of its rest: its first character is a piece of its own,
or the first character of the first of them. -/
theorem pieces_induction {motive : Nat → List Char → List (Nat × List Char) → Prop}
    (nil : ∀ offset, motive offset [] [])
    (last : ∀ offset c, motive offset [c] [(offset, [c])])
    (cut : ∀ offset c rest piece more, rest ≠ [] → offset + c.utf8Size ∈ bounds →
      motive (offset + c.utf8Size) rest ((offset + c.utf8Size, piece) :: more) →
        motive offset (c :: rest) ((offset, [c]) :: (offset + c.utf8Size, piece) :: more))
    (join : ∀ offset c rest piece more, rest ≠ [] → offset + c.utf8Size ∉ bounds →
      motive (offset + c.utf8Size) rest ((offset + c.utf8Size, piece) :: more) →
        motive offset (c :: rest) ((offset, c :: piece) :: more))
    (offset : Nat) (cs : List Char) : motive offset cs (pieces bounds offset cs) := by
  induction cs generalizing offset with
  | nil => exact nil offset
  | cons c rest ih =>
      by_cases hrest : rest = []
      · subst hrest
        exact last offset c
      · obtain ⟨piece, more, hpieces⟩ := exists_pieces_eq bounds (offset + c.utf8Size) hrest
        have hlater := ih (offset + c.utf8Size)
        rw [hpieces] at hlater
        rw [pieces, hpieces]
        by_cases hbound : offset + c.utf8Size ∈ bounds
        · simpa only [if_pos hbound] using cut offset c rest piece more hrest hbound hlater
        · simpa only [if_neg hbound] using join offset c rest piece more hrest hbound hlater

theorem flatten_pieces (offset : Nat) (cs : List Char) :
    ((pieces bounds offset cs).map Prod.snd).flatten = cs := by
  refine pieces_induction bounds (motive := fun _ cs parts => (parts.map Prod.snd).flatten = cs)
    ?nil ?last ?cut ?join offset cs
  case nil => exact fun _ => rfl
  case last => exact fun _ _ => rfl
  case cut =>
    intro _ c rest piece more _ _ ih
    exact congrArg (c :: ·) ih
  case join =>
    intro _ c rest piece more _ _ ih
    exact congrArg (c :: ·) ih

/-- Texts that follow one another, each with the byte at which it begins. -/
def withStarts (offset : Nat) : List (List Char) → List (Nat × List Char)
  | [] => []
  | text :: rest => (offset, text) :: withStarts (offset + byteSize text) rest

theorem pieces_eq_withStarts (offset : Nat) (cs : List Char) :
    pieces bounds offset cs = withStarts offset ((pieces bounds offset cs).map Prod.snd) := by
  refine pieces_induction bounds
    (motive := fun offset _ parts => parts = withStarts offset (parts.map Prod.snd))
    ?nil ?last ?cut ?join offset cs
  case nil => exact fun _ => rfl
  case last => exact fun _ _ => rfl
  case cut =>
    intro offset c rest piece more _ _ ih
    exact congrArg ((offset, [c]) :: ·) ih
  case join =>
    intro offset c rest piece more _ _ ih
    have hmore := (List.cons.inj ih).2
    rw [Nat.add_assoc] at hmore
    exact congrArg ((offset, c :: piece) :: ·) hmore

/-- Whether a bound cuts a text, which begins at the byte `offset` of its row. -/
def CutsAt (bounds : List Nat) (offset : Nat) (cs : List Char) (bound : Nat) : Prop :=
  bound ∈ bounds ∧ offset < bound ∧ bound < offset + byteSize cs ∧
    isBoundary cs (bound - offset) = true

theorem not_cutsAt_nil (offset bound : Nat) : ¬ CutsAt bounds offset [] bound := by
  rintro ⟨-, hstart, hend, -⟩
  exact Nat.lt_asymm hstart hend

theorem cutsAt_cons_iff {offset : Nat} {c : Char} {rest : List Char} {bound : Nat} :
    CutsAt bounds offset (c :: rest) bound ↔
      (bound ∈ bounds ∧ rest ≠ [] ∧ bound = offset + c.utf8Size) ∨
      CutsAt bounds (offset + c.utf8Size) rest bound := by
  have hpos := Char.utf8Size_pos c
  have hrest : rest ≠ [] ↔ 0 < byteSize rest := by
    rw [Nat.pos_iff_ne_zero, ne_eq, ne_eq, byteSize_eq_zero_iff]
  have hcons : offset < bound → (isBoundary (c :: rest) (bound - offset) = true ↔
      offset + c.utf8Size ≤ bound ∧ isBoundary rest (bound - (offset + c.utf8Size)) = true) := by
    intro hlt
    rw [isBoundary, Bool.and_eq_true, decide_eq_true_eq, Nat.sub_sub,
      Nat.le_sub_iff_add_le (Nat.le_of_lt hlt), Nat.add_comm]
    exact Nat.sub_ne_zero_of_lt hlt
  rw [CutsAt, CutsAt, byteSize_cons, hrest]
  constructor
  · rintro ⟨hmem, hlt, hend, hboundary⟩
    obtain ⟨hle, hboundary⟩ := (hcons hlt).mp hboundary
    rcases Nat.eq_or_lt_of_le hle with heq | hlt'
    · exact .inl ⟨hmem, by omega, heq.symm⟩
    · exact .inr ⟨hmem, hlt', by omega, hboundary⟩
  · rintro (⟨hmem, hrest, rfl⟩ | ⟨hmem, hlt, hend, hboundary⟩)
    · refine ⟨hmem, by omega, by omega, (hcons (by omega)).mpr ⟨Nat.le_refl _, ?_⟩⟩
      rw [Nat.sub_self]
      exact isBoundary_iff.mpr ⟨[], rest, rfl, rfl⟩
    · exact ⟨hmem, by omega, by omega, (hcons (by omega)).mpr ⟨by omega, hboundary⟩⟩

theorem mem_starts_tail_iff (offset : Nat) (cs : List Char) (bound : Nat) :
    bound ∈ (pieces bounds offset cs).tail.map Prod.fst ↔ CutsAt bounds offset cs bound := by
  refine pieces_induction bounds
    (motive := fun offset cs parts => bound ∈ parts.tail.map Prod.fst ↔
      CutsAt bounds offset cs bound)
    ?nil ?last ?cut ?join offset cs
  case nil =>
    intro offset
    exact iff_of_false (by simp) (not_cutsAt_nil bounds offset bound)
  case last =>
    intro offset c
    rw [cutsAt_cons_iff]
    refine iff_of_false (by simp) ?_
    rintro (⟨-, hrest, -⟩ | hcuts)
    · exact hrest rfl
    · exact not_cutsAt_nil bounds _ bound hcuts
  case cut =>
    intro offset c rest piece more hrest hbound ih
    rw [cutsAt_cons_iff, ← ih]
    simp only [List.tail_cons, List.map_cons, List.mem_cons]
    constructor
    · rintro (rfl | hmore)
      · exact .inl ⟨hbound, hrest, rfl⟩
      · exact .inr hmore
    · rintro (⟨-, -, rfl⟩ | hmore)
      · exact .inl rfl
      · exact .inr hmore
  case join =>
    intro offset c rest piece more hrest hbound ih
    rw [cutsAt_cons_iff, ← ih]
    simp only [List.tail_cons]
    constructor
    · exact .inr
    · rintro (⟨hmem, -, rfl⟩ | hmore)
      · exact absurd hmem hbound
      · exact hmore

theorem mem_starts_iff (offset : Nat) (cs : List Char) (start : Nat) :
    start ∈ (pieces bounds offset cs).map Prod.fst ↔
      cs ≠ [] ∧ start = offset ∨ CutsAt bounds offset cs start := by
  rw [← mem_starts_tail_iff]
  by_cases hcs : cs = []
  · subst hcs
    simp [pieces]
  · obtain ⟨piece, more, hpieces⟩ := exists_pieces_eq bounds offset hcs
    simp [hpieces, hcs]

theorem pairwise_starts (offset : Nat) (cs : List Char) :
    ((pieces bounds offset cs).map Prod.fst).Pairwise (· < ·) := by
  refine pieces_induction bounds
    (motive := fun _ _ parts => (parts.map Prod.fst).Pairwise (· < ·))
    ?nil ?last ?cut ?join offset cs
  case nil => exact fun _ => .nil
  case last => exact fun _ _ => List.pairwise_singleton _ _
  case cut =>
    intro offset c rest piece more _ _ ih
    have hpos := Char.utf8Size_pos c
    refine List.pairwise_cons.mpr ⟨fun start hstart => ?_, ih⟩
    rcases List.mem_cons.mp hstart with rfl | hmore
    · exact Nat.lt_add_of_pos_right hpos
    · have hlt := List.rel_of_pairwise_cons ih hmore
      simp only at hlt
      omega
  case join =>
    intro offset c rest piece more _ _ ih
    obtain ⟨hless, hpairs⟩ := List.pairwise_cons.mp ih
    refine List.pairwise_cons.mpr ⟨fun start hstart => ?_, hpairs⟩
    have hlt := hless start hstart
    simp only at hlt ⊢
    omega

theorem mem_cuts_iff {offset : Nat} {cs : List Char} {cut : Nat} :
    cut ∈ cuts bounds offset cs ↔ cut = 0 ∨ cut = byteSize cs ∨
      CutsAt bounds offset cs (offset + cut) := by
  have hend := isBoundary_append cs []
  rw [List.append_nil] at hend
  simp only [cuts, List.mem_dedup, List.mem_mergeSort, List.mem_filter, List.mem_cons,
    List.mem_map, CutsAt, Nat.add_sub_cancel_left]
  constructor
  · rintro ⟨rfl | rfl | ⟨bound, ⟨hbound, hinside⟩, rfl⟩, hboundary⟩
    · exact .inl rfl
    · exact .inr (.inl rfl)
    · simp only [Bool.and_eq_true, decide_eq_true_eq] at hinside
      rw [Nat.add_sub_cancel' (Nat.le_of_lt hinside.1)]
      exact .inr (.inr ⟨hbound, hinside.1, hinside.2, hboundary⟩)
  · rintro (rfl | rfl | ⟨hbound, hlt, hsize, hboundary⟩)
    · exact ⟨.inl rfl, isBoundary_iff.mpr ⟨[], cs, rfl, rfl⟩⟩
    · exact ⟨.inr (.inl rfl), hend⟩
    · exact ⟨.inr
        (.inr ⟨offset + cut, ⟨hbound, by simp [hlt, hsize]⟩, Nat.add_sub_cancel_left _ _⟩),
          hboundary⟩

theorem pairwise_cuts (offset : Nat) (cs : List Char) :
    (cuts bounds offset cs).Pairwise (· < ·) := by
  rw [cuts]
  generalize 0 :: byteSize cs :: _ = marked
  have hsorted : ((marked.filter (isBoundary cs)).mergeSort fun a b => a ≤ b).Pairwise (· ≤ ·) :=
    List.sortedLE_mergeSort.pairwise
  exact ((hsorted.sublist (List.dedup_sublist _)).and (List.nodup_dedup _)).imp
    fun hpair => Nat.lt_of_le_of_ne hpair.1 hpair.2

theorem map_cuts (offset : Nat) (cs : List Char) :
    (cuts bounds offset cs).map (offset + ·) =
      (pieces bounds offset cs).map Prod.fst ++ [offset + byteSize cs] := by
  refine List.Pairwise.eq_of_mem_iff (r := (· < ·)) ?_ ?_ fun place => ?_
  · exact (pairwise_cuts bounds offset cs).map _ fun _ _ hlt => Nat.add_lt_add_left hlt offset
  · refine List.pairwise_append.mpr
      ⟨pairwise_starts bounds offset cs, List.pairwise_singleton _ _, ?_⟩
    intro start hmem last hlast
    rw [List.mem_singleton.mp hlast]
    rcases (mem_starts_iff bounds offset cs start).mp hmem with ⟨hcs, rfl⟩ | ⟨-, -, hend, -⟩
    · have hsize := mt byteSize_eq_zero_iff.mp hcs
      omega
    · exact hend
  · rw [List.mem_append, List.mem_singleton, mem_starts_iff, List.mem_map]
    simp only [mem_cuts_iff]
    constructor
    · rintro ⟨cut, rfl | rfl | hcut, rfl⟩
      · by_cases hcs : cs = []
        · exact .inr (by rw [hcs, byteSize_nil])
        · exact .inl (.inl ⟨hcs, rfl⟩)
      · exact .inr rfl
      · exact .inl (.inr hcut)
    · rintro ((⟨-, rfl⟩ | hcut) | rfl)
      · exact ⟨0, .inl rfl, rfl⟩
      · have hplace := Nat.add_sub_cancel' (Nat.le_of_lt hcut.2.1)
        exact ⟨place - offset, .inr (.inr (hplace.symm ▸ hcut)), hplace⟩
      · exact ⟨byteSize cs, .inr (.inl rfl), rfl⟩

theorem mapM_windows {α : Type} (g : Nat × List Char → α) {offset : Nat} (before : List Char)
    {texts : List (List Char)}
    {places : List Nat}
    (hplaces : places.map (offset + ·) =
      (withStarts (offset + byteSize before) texts).map Prod.fst ++
      [offset + byteSize before + byteSize texts.flatten]) :
    ((windows places).mapM fun (start, stop) =>
        (slice? (before ++ texts.flatten) start stop).map fun piece =>
          g (offset + start, piece)) =
      some ((withStarts (offset + byteSize before) texts).map g) := by
  -- On the texts that are still to be cut off; `before` holds those in front of them, and grows
  -- by one each time.
  induction texts generalizing before places with
  | nil =>
      obtain ⟨place, rfl, -⟩ := List.map_eq_singleton_iff.mp hplaces
      rfl
  | cons text rest ih =>
      obtain ⟨first, later, rfl, hfirst, hlater⟩ := List.map_eq_cons_iff.mp hplaces
      have hnext :
          offset + byteSize before + byteSize text = offset + byteSize (before ++ text) := by
        rw [byteSize_append, Nat.add_assoc]
      have hend : offset + byteSize before + byteSize (text :: rest).flatten =
          offset + byteSize (before ++ text) + byteSize rest.flatten := by
        rw [List.flatten_cons, byteSize_append, ← hnext, Nat.add_assoc _ (byteSize text)]
      change later.map _ =
        (withStarts (offset + byteSize before + byteSize text) rest).map Prod.fst ++ _ at hlater
      rw [hnext, hend] at hlater
      have hrest := ih (before ++ text) hlater
      have hsecond :
          ∃ others, later.map (offset + ·) = (offset + byteSize (before ++ text)) :: others := by
        rw [hlater]
        cases rest <;> exact ⟨_, rfl⟩
      obtain ⟨others, hothers⟩ := hsecond
      obtain ⟨second, more, rfl, hstop, -⟩ := List.map_eq_cons_iff.mp hothers
      obtain rfl := Nat.add_left_cancel hfirst
      obtain rfl := Nat.add_left_cancel hstop
      have hslice := slice?_append_append before text rest.flatten
      rw [← byteSize_append] at hslice
      rw [List.append_assoc] at hrest
      rw [windows, List.mapM_cons, List.flatten_cons, hrest]
      simp only [hslice, withStarts, List.map_cons, hnext]
      rfl

end Pieces

section Marks

variable (marks : List Mark)

theorem painted_of_marks {marks : List Mark} (hmarks : marks ≠ []) (offset : Nat)
    (span : StyledSpan) :
    span.painted marks offset =
      (pieces (markBounds marks) offset span.text.toList).map
        (paintPiece marks span.style.paint) := by
  rw [StyledSpan.painted, if_neg fun hempty => hmarks (List.isEmpty_iff.mp hempty)]
  rfl

theorem slices?_eq (offset : Nat) (span : StyledSpan) :
    span.slices? marks offset = some (span.painted marks offset) := by
  by_cases hmarks : marks = []
  · subst hmarks
    rfl
  · have hplaces := map_cuts (markBounds marks) offset span.text.toList
    have hflatten := flatten_pieces (markBounds marks) offset span.text.toList
    have hstarts := pieces_eq_withStarts (markBounds marks) offset span.text.toList
    rw [painted_of_marks hmarks, StyledSpan.slices?,
      if_neg fun hempty => hmarks (List.isEmpty_iff.mp hempty)]
    generalize (pieces (markBounds marks) offset span.text.toList).map Prod.snd =
      texts at hflatten hstarts
    rw [hstarts] at hplaces ⊢
    rw [← hflatten] at hplaces ⊢
    exact mapM_windows (paintPiece marks span.style.paint) [] hplaces

theorem slicesFrom?_eq (offset : Nat) (spans : List StyledSpan) :
    slicesFrom? marks offset spans = some (paintSpans marks offset spans) := by
  induction spans generalizing offset with
  | nil => rfl
  | cons span rest ih =>
      rw [slicesFrom?, slices?_eq, ih, paintSpans]
      rfl

theorem join_painted (offset : Nat) (span : StyledSpan) :
    String.join ((span.painted marks offset).map PaintedSpan.text) = span.text := by
  by_cases hmarks : marks = []
  · subst hmarks
    exact String.empty_append
  · apply String.toList_inj.mp
    rw [painted_of_marks hmarks, String.toList_join, List.flatMap_map, List.flatMap_map]
    simp only [paintPiece, String.toList_ofList]
    rw [List.flatMap_def, flatten_pieces]

theorem join_paintSpans (offset : Nat) (spans : List StyledSpan) :
    String.join ((paintSpans marks offset spans).map PaintedSpan.text) =
      String.join (spans.map StyledSpan.text) := by
  induction spans generalizing offset with
  | nil => rfl
  | cons span rest ih =>
      rw [paintSpans, List.map_append, String.join_append, join_painted, ih, List.map_cons,
        String.join_cons]

variable {marks}

theorem markAt_eq_of_covers_eq {a b : Nat} (h : ∀ mark ∈ marks, mark.covers a = mark.covers b) :
    markAt marks a = markAt marks b := by
  rw [markAt, markAt, List.filter_congr h]

theorem isOutside_of_mem {c : RowChar} (h : ∀ bound ∈ markBounds marks, c.IsOutside bound)
    {mark : Mark}
    (hmark : mark ∈ marks) : c.IsOutside mark.start ∧ c.IsOutside mark.stop :=
  ⟨h _ (List.mem_flatMap.mpr ⟨mark, hmark, by simp⟩),
    h _ (List.mem_flatMap.mpr ⟨mark, hmark, by simp⟩)⟩

/-- Behind a character where no mark begins or ends it goes on as on the character. -/
theorem markAt_stop {c : RowChar} (h : ∀ bound ∈ markBounds marks, c.IsOutside bound)
    (hstop : c.stop ∉ markBounds marks) : markAt marks c.start = markAt marks c.stop := by
  refine markAt_eq_of_covers_eq fun mark hmark => ?_
  have hstart : mark.start ≠ c.stop :=
    fun heq => hstop (List.mem_flatMap.mpr ⟨mark, hmark, by simp [heq]⟩)
  have hend : mark.stop ≠ c.stop :=
    fun heq => hstop (List.mem_flatMap.mpr ⟨mark, hmark, by simp [heq]⟩)
  have hpos := Char.utf8Size_pos c.char
  have hbounds := isOutside_of_mem h hmark
  simp only [RowChar.IsOutside, RowChar.stop] at *
  rw [Bool.eq_iff_iff]
  simp only [Mark.covers, Bool.and_eq_true, decide_eq_true_eq]
  omega

theorem covers_start_iff {c : RowChar} {mark : Mark} (h : c.IsOutside mark.stop) :
    mark.covers c.start = true ↔ c.IsCoveredBy mark := by
  have hpos := Char.utf8Size_pos c.char
  simp only [RowChar.IsOutside, RowChar.stop] at h
  simp only [Mark.covers, RowChar.IsCoveredBy, RowChar.stop, Bool.and_eq_true, decide_eq_true_eq]
  omega

theorem markAt_eq (marks : List Mark) (byte : Nat) :
    markAt marks byte =
      if ∃ mark ∈ marks, mark.kind = .current ∧ mark.covers byte = true then some .current
      else if ∃ mark ∈ marks, mark.kind = .all ∧ mark.covers byte = true then some .all
      else none := by
  have hcurrent : (marks.filter (·.covers byte)).any (·.kind == .current) = true ↔
      ∃ mark ∈ marks, mark.kind = .current ∧ mark.covers byte = true := by
    simp only [List.any_eq_true, List.mem_filter, beq_iff_eq, and_assoc]
    exact exists_congr fun mark => and_congr_right fun _ => and_comm
  simp only [markAt, hcurrent]
  by_cases hany : ∃ mark ∈ marks, mark.kind = .current ∧ mark.covers byte = true
  · rw [if_pos hany, if_pos hany]
  · have hempty : (marks.filter (·.covers byte)).isEmpty = true ↔
        ¬ ∃ mark ∈ marks, mark.kind = .all ∧ mark.covers byte = true := by
      rw [List.isEmpty_iff, List.filter_eq_nil_iff]
      refine ⟨fun hnone ⟨mark, hmark, _, hcovers⟩ => hnone mark hmark hcovers,
        fun hnone mark hmark hcovers => ?_⟩
      cases hkind : mark.kind with
      | all => exact hnone ⟨mark, hmark, hkind, hcovers⟩
      | current => exact hany ⟨mark, hmark, hkind, hcovers⟩
    rw [if_neg hany, if_neg hany]
    simp only [hempty, ite_not]

theorem paintAt_start {c : RowChar} (h : ∀ bound ∈ markBounds marks, c.IsOutside bound) :
    paintAt marks c.style.paint c.start = c.paint marks := by
  have hkind : ∀ kind, (∃ mark ∈ marks, mark.kind = kind ∧ mark.covers c.start = true) ↔
      ∃ mark ∈ marks, mark.kind = kind ∧ c.IsCoveredBy mark := fun kind =>
    exists_congr fun mark => and_congr_right fun hmark =>
      and_congr_right fun _ => covers_start_iff (isOutside_of_mem h hmark).2
  simp only [paintAt, markAt_eq, hkind, RowChar.paint]
  by_cases hcurrent : ∃ mark ∈ marks, mark.kind = .current ∧ c.IsCoveredBy mark
  · simp only [if_pos hcurrent]
  · by_cases hall : ∃ mark ∈ marks, mark.kind = .all ∧ c.IsCoveredBy mark
    · simp only [if_neg hcurrent, if_pos hall]
    · simp only [if_neg hcurrent, if_neg hall]

end Marks

section Chars

variable {style : Style} {offset : Nat} {cs : List Char} {spans : List StyledSpan} {c : RowChar}

theorem style_of_mem_charsOf (h : c ∈ charsOf style offset cs) : c.style = style := by
  induction cs generalizing offset with
  | nil => simp [charsOf] at h
  | cons d rest ih =>
      rcases List.mem_cons.mp h with rfl | hrest
      · rfl
      · exact ih hrest

theorem map_char_charsOf (style : Style) (offset : Nat) (cs : List Char) :
    (charsOf style offset cs).map RowChar.char = cs := by
  induction cs generalizing offset with
  | nil => rfl
  | cons c rest ih => rw [charsOf, List.map_cons, ih]

theorem map_char_charsFrom (offset : Nat) (spans : List StyledSpan) :
    (charsFrom offset spans).map RowChar.char =
      (String.join (spans.map StyledSpan.text)).toList := by
  induction spans generalizing offset with
  | nil => rfl
  | cons span rest ih =>
      rw [charsFrom, List.map_append, map_char_charsOf, ih, List.map_cons, String.join_cons,
        String.toList_append]

theorem exists_of_mem_charsOf (h : c ∈ charsOf style offset cs) :
    ∃ front back, cs = front ++ c.char :: back ∧ c.start = offset + byteSize front := by
  induction cs generalizing offset with
  | nil => simp [charsOf] at h
  | cons d rest ih =>
      rcases List.mem_cons.mp h with rfl | hrest
      · exact ⟨[], rest, rfl, rfl⟩
      · obtain ⟨front, back, rfl, hstart⟩ := ih hrest
        exact ⟨d :: front, back, rfl, by rw [hstart, byteSize_cons, Nat.add_assoc]⟩

theorem exists_of_mem_charsFrom (h : c ∈ charsFrom offset spans) :
    ∃ front back, (String.join (spans.map StyledSpan.text)).toList = front ++ c.char :: back ∧
      c.start = offset + byteSize front := by
  induction spans generalizing offset with
  | nil => simp [charsFrom] at h
  | cons span rest ih =>
      rw [List.map_cons, String.join_cons, String.toList_append]
      rcases List.mem_append.mp h with hspan | hrest
      · obtain ⟨front, back, htext, hstart⟩ := exists_of_mem_charsOf hspan
        exact ⟨front,
          back ++ (String.join (rest.map StyledSpan.text)).toList, by simp [htext], hstart⟩
      · obtain ⟨front, back, htext, hstart⟩ := ih hrest
        refine ⟨span.text.toList ++ front, back, by simp [htext], ?_⟩
        rw [hstart, byteSize_append, bytesOf, Nat.add_assoc]

theorem isOutside_of_isBoundary {line : StyledLine} (h : c ∈ line.chars) {bound : Nat}
    (hbound : isBoundary line.text.toList bound = true) : c.IsOutside bound := by
  obtain ⟨front, back, htext, hstart⟩ := exists_of_mem_charsFrom h
  rw [Nat.zero_add] at hstart
  rw [StyledLine.text, htext] at hbound
  rw [RowChar.IsOutside, RowChar.stop, hstart]
  exact le_or_le_of_isBoundary hbound

theorem flatMap_pieces {β : Type} {bounds : List Nat} (style : Style) (f : Nat → β)
    (h : ∀ c ∈ charsOf style offset cs, c.stop ∉ bounds → f c.start = f c.stop) :
    ((pieces bounds offset cs).flatMap fun part => part.2.map fun c => (c, f part.1)) =
      (charsOf style offset cs).map fun c => (c.char, f c.start) := by
  refine pieces_induction bounds (motive := fun offset cs parts =>
    (∀ c ∈ charsOf style offset cs, c.stop ∉ bounds → f c.start = f c.stop) →
      (parts.flatMap fun part => part.2.map fun c => (c, f part.1)) =
        (charsOf style offset cs).map fun c => (c.char, f c.start))
    ?nil ?last ?cut ?join offset cs h
  case nil => exact fun _ _ => rfl
  case last => exact fun _ _ _ => rfl
  case cut =>
    intro offset c rest piece more _ _ ih h
    have hrest := ih fun c hc => h c (List.mem_cons_of_mem _ hc)
    exact congrArg ((c, f offset) :: ·) hrest
  case join =>
    intro offset c rest piece more _ hbound ih h
    have hrest := ih fun c hc => h c (List.mem_cons_of_mem _ hc)
    -- The piece was begun by the next character, and takes its colours from this one now.
    have hsame : f offset = f (offset + c.utf8Size) :=
      h ⟨c, offset, style⟩ List.mem_cons_self hbound
    simp only [List.flatMap_cons, List.map_cons, List.cons_append, charsOf, hsame] at hrest ⊢
    rw [hrest]

theorem paintedChars_append (before after : List PaintedSpan) :
    paintedChars (before ++ after) = paintedChars before ++ paintedChars after :=
  List.flatMap_append

theorem paintedChars_painted {marks : List Mark} {span : StyledSpan}
    (h : ∀ c ∈ charsOf span.style offset span.text.toList, ∀ bound ∈ markBounds marks,
      c.IsOutside bound) :
    paintedChars (span.painted marks offset) =
      (charsOf span.style offset span.text.toList).map fun c => (c.char, c.paint marks) := by
  by_cases hmarks : marks = []
  · subst hmarks
    have hpaint : ∀ c ∈ charsOf span.style offset span.text.toList,
        (c.char, c.paint []) = (c.char, span.style.paint) := by
      intro c hc
      simp [RowChar.paint, style_of_mem_charsOf hc]
    have hwhole :=
      congrArg (List.map (·, span.style.paint))
        (map_char_charsOf span.style offset span.text.toList)
    rw [List.map_map] at hwhole
    rw [List.map_congr_left hpaint]
    exact (List.append_nil _).trans hwhole.symm
  · have hchars := flatMap_pieces span.style (paintAt marks span.style.paint)
      fun c hc hstop => by rw [paintAt, paintAt, markAt_stop (h c hc) hstop]
    rw [painted_of_marks hmarks, paintedChars, List.flatMap_map]
    simp only [paintPiece, String.toList_ofList]
    rw [hchars]
    refine List.map_congr_left fun c hc => ?_
    rw [← paintAt_start (h c hc), style_of_mem_charsOf hc]

theorem paintedChars_paintSpans {marks : List Mark}
    (h : ∀ bound ∈ markBounds marks, ∀ c ∈ charsFrom offset spans, c.IsOutside bound) :
    paintedChars (paintSpans marks offset spans) = (charsFrom offset spans).map fun c =>
      (c.char, c.paint marks) := by
  induction spans generalizing offset with
  | nil => rfl
  | cons span rest ih =>
      have hspan : ∀ c ∈ charsOf span.style offset span.text.toList, ∀ bound ∈ markBounds marks,
          c.IsOutside bound :=
        fun c hc bound hbound => h bound hbound c (List.mem_append_left _ hc)
      rw [paintSpans, paintedChars_append, charsFrom, List.map_append, paintedChars_painted hspan,
        ih fun bound hbound c hc => h bound hbound c (List.mem_append_right _ hc)]

end Chars

/-- No slice of a row is refused, whatever the marks are, and the slices are the row.  With marks
that begin and end between characters, the colours of a character are those of the marks on it. -/
theorem StyledLine.painted_exact (line : StyledLine) (marks : List Mark) :
    line.slices? marks = some (line.painted marks) ∧
      String.join ((line.painted marks).map PaintedSpan.text) = line.text ∧
      line.chars.map RowChar.char = line.text.toList ∧
      ((∀ bound ∈ markBounds marks, isBoundary line.text.toList bound = true) →
        paintedChars (line.painted marks) = line.chars.map fun c => (c.char, c.paint marks)) := by
  refine ⟨slicesFrom?_eq marks 0 line.spans, join_paintSpans marks 0 line.spans,
    map_char_charsFrom 0 line.spans, fun hbounds => ?_⟩
  exact paintedChars_paintSpans fun bound hbound c hc =>
    isOutside_of_isBoundary hc (hbounds bound hbound)

def accentedRow : StyledLine :=
  ⟨[⟨"• ", .guide⟩, ⟨"é error", .plain⟩]⟩

/-- The current occurrence within another one, and then marks that begin inside `é`, end behind
the row or are not in it. -/
theorem StyledLine.painted_exact_nested :
    (∀ bound ∈ markBounds [⟨4, 12, .all⟩, ⟨7, 9, .current⟩],
      isBoundary accentedRow.text.toList bound = true) ∧
      paintedChars (accentedRow.painted [⟨4, 12, .all⟩, ⟨7, 9, .current⟩]) =
        "• ".toList.map (·, Style.guide.paint) ++
        "é ".toList.map (·, HighlightKind.all.repaint Style.plain.paint) ++
        "er".toList.map (·, HighlightKind.current.repaint Style.plain.paint) ++
        "ror".toList.map (·, HighlightKind.all.repaint Style.plain.paint) ∧
      accentedRow.slices? [⟨5, 40, .all⟩, ⟨50, 60, .current⟩] =
        some (accentedRow.painted [⟨5, 40, .all⟩, ⟨50, 60, .current⟩]) ∧
      String.join
        ((accentedRow.painted [⟨5, 40, .all⟩, ⟨50, 60, .current⟩]).map PaintedSpan.text) =
        "• é error" := by
  obtain ⟨-, -, -, hcolours⟩ := painted_exact accentedRow [⟨4, 12, .all⟩, ⟨7, 9, .current⟩]
  obtain ⟨hslices, htext, -, -⟩ := painted_exact accentedRow [⟨5, 40, .all⟩, ⟨50, 60, .current⟩]
  have hbounds : ∀ bound ∈ markBounds [⟨4, 12, .all⟩, ⟨7, 9, .current⟩],
      isBoundary accentedRow.text.toList bound = true := by
    decide
  exact ⟨hbounds, (hcolours hbounds).trans (by decide), hslices, htext.trans (by decide)⟩

end TranscriptSearch
