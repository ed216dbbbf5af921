import TranscriptSearch.Command.Report
import TranscriptSearch.Proofs.Text.CheckedSlices
import TranscriptSearch.Proofs.Text.Lines
import TranscriptSearch.Proofs.Transcript.Numbering

namespace TranscriptSearch

open Text

theorem prefix_keepBytes (n : Nat) (cs : List Char) : keepBytes n cs <+: cs := by
  induction cs generalizing n with
  | nil => exact List.prefix_refl []
  | cons c cs ih =>
      rw [keepBytes]
      split
      · exact List.nil_prefix
      · exact (List.prefix_cons_inj c).mpr (ih _)

theorem min_le_byteSize_keepBytes (n : Nat) (cs : List Char) :
    min n (byteSize cs) ≤ byteSize (keepBytes n cs) := by
  induction cs generalizing n with
  | nil => exact Nat.min_le_right n 0
  | cons c cs ih =>
      rw [keepBytes]
      split
      · next hzero =>
          rw [hzero, Nat.zero_min]
          exact Nat.zero_le _
      · have hrest := ih (n - c.utf8Size)
        simp only [byteSize_cons]
        omega

theorem byteSize_lt_of_keepBytes {n : Nat} {cs front : List Char} {c : Char}
    (h : keepBytes n cs = front ++ [c]) : byteSize front < n := by
  induction cs generalizing n front with
  | nil => exact absurd h.symm (List.append_ne_nil_of_right_ne_nil front (List.cons_ne_nil c []))
  | cons d cs ih =>
      rw [keepBytes] at h
      split at h
      · exact absurd h.symm (List.append_ne_nil_of_right_ne_nil front (List.cons_ne_nil c []))
      · cases front with
        | nil => exact Nat.pos_of_ne_zero ‹_›
        | cons e front =>
            obtain ⟨rfl, hrest⟩ := List.cons.inj h
            have hlt := ih hrest
            rw [byteSize_cons]
            omega

/-- One side of an occurrence, read away from it. -/
structure Side where
  /-- What is kept of the line. -/
  kept : List Char
  /-- What is left out of the line. -/
  cut : List Char
  /-- What stands on other lines. -/
  beyond : List Char

namespace Side

def whole (s : Side) : List Char :=
  s.kept ++ (s.cut ++ s.beyond)

/-- The mark that shows that something was left out. -/
def mark (s : Side) : List Char :=
  if s.cut = [] then [] else ['…']

/-- Whether what is kept and what is left out is the line, and enough is kept but no character
more than needed. -/
structure IsKeptOn (s : Side) : Prop where
  not_mem : '\n' ∉ s.kept ++ s.cut
  beyond_cases : s.beyond = [] ∨ ∃ rest, s.beyond = '\n' :: rest
  min_le : min contextBytes (byteSize (s.kept ++ s.cut)) ≤ byteSize s.kept
  lt_of_concat : ∀ front c, s.kept = front ++ [c] → byteSize front < contextBytes

/-- The side that has some characters, if they are read away from the occurrence. -/
def of (cs : List Char) : Side :=
  let line := cs.takeWhile fun c => c ≠ '\n'
  ⟨keepBytes contextBytes line, line.drop (keepBytes contextBytes line).length,
    cs.dropWhile fun c => c ≠ '\n'⟩

theorem kept_append_cut_of (cs : List Char) :
    (of cs).kept ++ (of cs).cut = cs.takeWhile fun c => c ≠ '\n' :=
  List.prefix_iff_eq_append.mp (prefix_keepBytes contextBytes _)

theorem whole_of (cs : List Char) : (of cs).whole = cs := by
  rw [whole, ← List.append_assoc, kept_append_cut_of]
  exact List.takeWhile_append_dropWhile

theorem isKeptOn_of (cs : List Char) : (of cs).IsKeptOn where
  not_mem := by
    rw [kept_append_cut_of]
    intro hbreak
    exact of_decide_eq_true (forall_mem_takeWhile _ hbreak) rfl
  beyond_cases := by
    have hhead := List.head?_dropWhile_not (fun c => decide (c ≠ '\n')) cs
    rw [of]
    cases hbeyond : cs.dropWhile fun c => decide (c ≠ '\n') with
    | nil => exact .inl rfl
    | cons c rest =>
        rw [hbeyond] at hhead
        obtain rfl : c = '\n' := by simpa using hhead
        exact .inr ⟨rest, rfl⟩
  min_le := by
    rw [kept_append_cut_of]
    exact min_le_byteSize_keepBytes contextBytes _
  lt_of_concat front c h := byteSize_lt_of_keepBytes h

theorem length_kept_lt_iff (s : Side) : s.kept.length < (s.kept ++ s.cut).length ↔
    s.cut ≠ [] := by
  rw [List.length_append, Nat.lt_add_right_iff_pos, List.length_pos_iff]

theorem mark_eq (s : Side) {p : Prop} [Decidable p] (h : p ↔ s.cut ≠ []) :
    (if p then ['…'] else []) = s.mark := by
  rw [mark]
  by_cases hcut : s.cut = []
  · rw [if_pos hcut, if_neg (mt h.mp (not_not_intro hcut))]
  · rw [if_neg hcut, if_pos (h.mpr hcut)]

theorem byteSize_whole (s : Side) :
    byteSize s.whole = byteSize s.kept + byteSize s.cut + byteSize s.beyond := by
  rw [whole, byteSize_append, byteSize_append, Nat.add_assoc]

theorem reverse_whole (s : Side) :
    s.whole.reverse = s.beyond.reverse ++ (s.kept ++ s.cut).reverse := by
  rw [whole, ← List.append_assoc, List.reverse_append]

namespace IsKeptOn

variable {s : Side}

theorem lastBreak?_eq (h : s.IsKeptOn) :
    (lastBreak? s.whole.reverse).elim 0 (· + 1) = byteSize s.beyond := by
  have hline : '\n' ∉ (s.kept ++ s.cut).reverse := mt List.mem_reverse.mp h.not_mem
  rw [reverse_whole]
  rcases h.beyond_cases with hnil | ⟨rest, hrest⟩
  · rw [hnil, List.reverse_nil, List.nil_append, lastBreak?_of_not_mem hline]
    rfl
  · rw [hrest, List.reverse_cons, List.append_assoc, List.singleton_append,
      lastBreak?_append hline, byteSize_reverse, byteSize_cons, Nat.add_comm]
    rfl

theorem firstBreak?_eq (h : s.IsKeptOn) (start : Nat) :
    (firstBreak? s.whole).elim (start + byteSize s.whole) (start + ·) =
      start + (byteSize s.kept + byteSize s.cut) := by
  rw [byteSize_whole, whole, ← List.append_assoc, ← byteSize_append]
  rcases h.beyond_cases with hnil | ⟨rest, hrest⟩
  · rw [hnil, List.append_nil, firstBreak?_of_not_mem h.not_mem]
    rfl
  · rw [hrest, firstBreak?_append h.not_mem]
    rfl

theorem byteSize_cut_eq_zero_or (h : s.IsKeptOn) :
    byteSize s.cut = 0 ∨ contextBytes ≤ byteSize s.kept := by
  have hle := h.min_le
  rw [byteSize_append] at hle
  omega

theorem boundaryBefore_eq (h : s.IsKeptOn) (rest : List Char) :
    boundaryBefore (s.whole.reverse ++ rest)
      (max (byteSize s.beyond) (byteSize s.whole - contextBytes)) =
        byteSize s.cut + byteSize s.beyond := by
  have hsize : byteSize (s.cut ++ s.beyond).reverse = byteSize s.cut + byteSize s.beyond := by
    rw [byteSize_reverse, byteSize_append]
  have hwhole := s.byteSize_whole
  have hcut := h.byteSize_cut_eq_zero_or
  apply Text.boundaryBefore_eq
  · rw [whole, List.reverse_append, List.append_assoc, ← hsize]
    exact isBoundary_append _ _
  · omega
  · intro k hk hboundary
    rcases List.eq_nil_or_concat' s.kept with hnil | ⟨front, c, hkept⟩
    · rw [hnil, byteSize_nil] at hwhole
      omega
    · -- The character at the cut is needed, so the bytes that are to be kept begin inside it.
      have hneeded := h.lt_of_concat front c hkept
      rw [whole, hkept, List.reverse_append, List.reverse_concat, List.append_assoc,
        List.cons_append] at hboundary
      rw [hkept, byteSize_append, byteSize_cons, byteSize_nil] at hwhole
      have hbehind := le_or_le_of_isBoundary hboundary
      rw [hsize] at hbehind
      omega

theorem boundaryFrom?_eq (h : s.IsKeptOn) (front : List Char) :
    boundaryFrom? (front ++ s.whole)
      (min (byteSize front + (byteSize s.kept + byteSize s.cut))
        (byteSize front + contextBytes)) =
        some (byteSize front + byteSize s.kept) := by
  have hcut := h.byteSize_cut_eq_zero_or
  apply Text.boundaryFrom?_eq
  · exact isBoundary_append_append front s.kept _
  · rw [byteSize_append, byteSize_whole]
    omega
  · omega
  · intro k hk hboundary
    rcases List.eq_nil_or_concat' s.kept with hnil | ⟨upTo, c, hkept⟩
    · rw [hnil, byteSize_nil] at hk ⊢
      omega
    · have hneeded := h.lt_of_concat upTo c hkept
      rw [whole, hkept, List.append_assoc, List.singleton_append, ← List.append_assoc]
        at hboundary
      have hbehind := le_or_le_of_isBoundary hboundary
      rw [hkept, byteSize_append, byteSize_cons, byteSize_nil] at hk ⊢
      rw [byteSize_append] at hbehind
      omega

end IsKeptOn

end Side

/-- An occurrence with its two sides. -/
structure Surroundings where
  before : Side
  occurrence : List Char
  after : Side

/-- The excerpt at a span, sliced out of a text at byte offsets. -/
def sliceExcerpt? (text : List Char) (span : Span) : Option (List Char) := do
  let above ← slice? text 0 span.start
  let lineStart := (lastBreak? above).elim 0 (· + 1)
  let below ← slice? text span.stop (byteSize text)
  let lineStop := (firstBreak? below).elim (byteSize text) (span.stop + ·)
  let start := boundaryBefore text (max lineStart (span.start - contextBytes))
  let stop ← boundaryFrom? text (min lineStop (span.stop + contextBytes))
  let before ← slice? text start span.start
  let occurrence ← slice? text span.start span.stop
  let after ← slice? text span.stop stop
  return (if lineStart < start then ['…'] else []) ++ before ++ '[' :: occurrence ++
    ']' :: after ++
    if stop < lineStop then ['…'] else []

namespace Surroundings

def text (s : Surroundings) : List Char :=
  s.before.whole.reverse ++ (s.occurrence ++ s.after.whole)

def span (s : Surroundings) : Span :=
  ⟨byteSize s.before.whole, byteSize s.before.whole + byteSize s.occurrence⟩

def shown (s : Surroundings) : List Char :=
  s.before.mark ++ s.before.kept.reverse ++ '[' :: s.occurrence ++ ']' :: s.after.kept ++
    s.after.mark

structure IsKeptOn (s : Surroundings) : Prop where
  before : s.before.IsKeptOn
  after : s.after.IsKeptOn

/-- What surrounds a span of a text. -/
def of (text : List Char) (span : Span) : Surroundings :=
  ⟨.of (takeBytes span.start text).reverse, sliceBytes text span.start span.stop,
    .of (dropBytes span.stop text)⟩

theorem excerpt_eq_shown (text : List Char) (span : Span) :
    excerpt text span = (of text span).shown := by
  have hbefore := (of text span).before.mark_eq (of text span).before.length_kept_lt_iff
  have hafter := (of text span).after.mark_eq (of text span).after.length_kept_lt_iff
  rw [shown, ← hbefore, ← hafter]
  simp only [of, Side.kept_append_cut_of]
  rfl

theorem text_of {text : List Char} {span : Span} (h : span.IsRangeOf text) :
    (of text span).text = text ∧ (of text span).span = span := by
  obtain ⟨before, cs, after, rfl, -, rfl⟩ := h.exists_eq
  have htake : takeBytes (byteSize before) (before ++ (cs ++ after)) = before := by
    rw [takeBytes_append (Nat.le_refl _), takeBytes_byteSize]
  have hdrop : dropBytes (byteSize before + byteSize cs) (before ++ (cs ++ after)) = after := by
    have hrest := dropBytes_append (before ++ cs) 0 after
    rwa [Nat.add_zero, dropBytes, byteSize_append, List.append_assoc] at hrest
  constructor
  · simp only [text, of, Side.whole_of, htake, hdrop, List.reverse_reverse,
      sliceBytes_append_append]
  · simp only [span, of, Side.whole_of, htake, byteSize_reverse, sliceBytes_append_append]

theorem isKeptOn_of (text : List Char) (span : Span) : (of text span).IsKeptOn :=
  ⟨Side.isKeptOn_of _, Side.isKeptOn_of _⟩

variable {s : Surroundings}

theorem text_eq (s : Surroundings) :
    s.text = (s.before.whole.reverse ++ s.occurrence) ++ s.after.whole :=
  (List.append_assoc _ _ _).symm

theorem span_stop (s : Surroundings) :
    s.span.stop = byteSize (s.before.whole.reverse ++ s.occurrence) := by
  rw [byteSize_append, byteSize_reverse]
  rfl

theorem slice?_above (s : Surroundings) :
    slice? s.text 0 s.span.start = some s.before.whole.reverse := by
  have hslice := slice?_append_left s.before.whole.reverse (s.occurrence ++ s.after.whole)
  rwa [byteSize_reverse] at hslice

theorem slice?_below (s : Surroundings) :
    slice? s.text s.span.stop (byteSize s.text) = some s.after.whole := by
  rw [span_stop, text_eq]
  exact slice?_append_right _ _

theorem slice?_occurrence (s : Surroundings) :
    slice? s.text s.span.start s.span.stop = some s.occurrence := by
  have hslice := slice?_append_append s.before.whole.reverse s.occurrence s.after.whole
  rwa [byteSize_reverse] at hslice

theorem slice?_before (s : Surroundings) :
    slice? s.text (byteSize s.before.cut + byteSize s.before.beyond) s.span.start =
      some s.before.kept.reverse := by
  have hslice :=
    slice?_append_append (s.before.cut ++ s.before.beyond).reverse s.before.kept.reverse
    (s.occurrence ++ s.after.whole)
  have hstart : byteSize s.before.cut + byteSize s.before.beyond + byteSize s.before.kept =
      byteSize s.before.whole := by
    rw [Side.byteSize_whole]
    omega
  rwa [byteSize_reverse, byteSize_reverse, byteSize_append, hstart, ← List.append_assoc,
    ← List.reverse_append] at hslice

theorem slice?_after (s : Surroundings) :
    slice? s.text s.span.stop (s.span.stop + byteSize s.after.kept) = some s.after.kept := by
  rw [span_stop, text_eq]
  exact slice?_append_append _ s.after.kept _

theorem sliceExcerpt?_eq (h : s.IsKeptOn) : sliceExcerpt? s.text s.span = some s.shown := by
  have hstop : (firstBreak? s.after.whole).elim (byteSize s.text) (s.span.stop + ·) =
      s.span.stop + (byteSize s.after.kept + byteSize s.after.cut) := by
    rw [text_eq, byteSize_append, ← span_stop]
    exact h.after.firstBreak?_eq s.span.stop
  have hfirst :
    boundaryBefore s.text (max (byteSize s.before.beyond) (s.span.start - contextBytes)) =
      byteSize s.before.cut + byteSize s.before.beyond :=
    h.before.boundaryBefore_eq (s.occurrence ++ s.after.whole)
  have hlast :
    boundaryFrom? s.text (min (s.span.stop + (byteSize s.after.kept + byteSize s.after.cut))
      (s.span.stop + contextBytes)) = some (s.span.stop + byteSize s.after.kept) := by
    rw [span_stop, text_eq]
    exact h.after.boundaryFrom?_eq _
  have hbefore :
    (if byteSize s.before.beyond < byteSize s.before.cut + byteSize s.before.beyond then ['…']
      else []) = s.before.mark := by
    refine s.before.mark_eq ?_
    rw [Nat.lt_add_left_iff_pos, Nat.pos_iff_ne_zero, ne_eq, byteSize_eq_zero_iff]
  have hafter : (if s.span.stop + byteSize s.after.kept <
      s.span.stop + (byteSize s.after.kept + byteSize s.after.cut) then ['…'] else []) =
        s.after.mark := by
    refine s.after.mark_eq ?_
    rw [Nat.add_lt_add_iff_left, Nat.lt_add_right_iff_pos, Nat.pos_iff_ne_zero, ne_eq,
      byteSize_eq_zero_iff]
  simp only [sliceExcerpt?, slice?_above, slice?_below, Option.bind_eq_bind, Option.bind_some,
    h.before.lastBreak?_eq, hstop, hfirst, hlast, slice?_before, slice?_occurrence, slice?_after,
    hbefore, hafter]
  rfl

end Surroundings

theorem excerpt?_of_locate? {item : Item} {text line : String} {term : SearchTerm}
    {occurrence segment : Nat}
    {span : Span} (hterm : SearchTerm.ofString? text = some term)
    (hfound : term.locate? item.texts occurrence = some ⟨segment, span⟩)
    (hline : item.texts[segment]? = some line) :
    item.excerpt? text occurrence = some (.ofList (Surroundings.of line.toList span).shown) := by
  simp only [Item.excerpt?, hterm, Option.bind_eq_bind, Option.bind_some, hfound, hline,
    Option.pure_def, Surroundings.excerpt_eq_shown]

theorem locateReport_of_locate? {t : Transcript} {text : String} {number : Nat}
    {location : Location}
    {item : Item} (hpos : (t.countAll none text).1 ≠ 0)
    (hlocate : t.locate? (t.countAll none text).2 text number = some location)
    (hitem : t.item? location.item = some item) :
    locateReport t text number =
      .ok (["match " ++ toString number ++ "/" ++ toString (t.countAll none text).1,
        "item " ++ toString location.item ++ " (" ++ item.id ++ "): " ++ item.event.title,
        "occurrence " ++ toString location.occurrence] ++
          (item.excerpt? text location.occurrence).toList) := by
  rw [locateReport]
  simp only [if_neg hpos, hlocate, hitem]

/-- Every occurrence that is counted can be shown: the last line of the report is the excerpt at
its span.  It is sliced out of the text without a failure, and it is made of the characters of the
span in brackets and of what is kept of the lines at its two sides. -/
theorem locateReport_shows (t : Transcript) (text : String) (number : Nat) (hpos : 1 ≤ number)
    (hle : number ≤ (t.countAll none text).1) :
    ∃ term place item line span occurrence, ∃ s : Surroundings,
      SearchTerm.ofString? text = some term ∧ t.IsNumberOf term number place ∧
      t.item? place.item = some item ∧ item.texts[place.segment]? = some line ∧
      (term.spans line)[place.rank]? = some span ∧
      occurrence = term.countIn (item.texts.take place.segment) + place.rank + 1 ∧
      s.text = line.toList ∧ s.span = span ∧ s.IsKeptOn ∧
      sliceExcerpt? line.toList span = some s.shown ∧
      locateReport t text number =
        .ok ["match " ++ toString number ++ "/" ++ toString (t.countAll none text).1,
          "item " ++ toString place.item ++ " (" ++ item.id ++ "): " ++ item.event.title,
          "occurrence " ++ toString occurrence, .ofList s.shown] := by
  have hnonzero : (t.countAll none text).1 ≠ 0 := by omega
  obtain ⟨htotal, hkept⟩ := @Transcript.countAll_of_isRightOf t none (by simp) text
  cases hterm : SearchTerm.ofString? text with
  | none =>
      rw [htotal, Transcript.total, hterm] at hnonzero
      exact absurd rfl hnonzero
  | some term =>
      rw [htotal, Transcript.total, hterm] at hle
      obtain ⟨place, hplace⟩ := Transcript.exists_isNumberOf hpos hle
      obtain ⟨item, line, span, occurrence, hitem, hline, hspan, hoccurrence, -, -, -,
          hlocateIn, hfound⟩ :=
        hplace.lookups
      have hright : Resolver.IsRight ⟨t, (t.countAll none text).2⟩ := hkept
      have hlocate := hright.locate?_eq hterm number
      rw [if_neg (by omega), hlocateIn] at hlocate
      have hrange := term.isRangeOf_of_mem_spans (List.mem_of_getElem? hspan)
      obtain ⟨htext, hspanOf⟩ := Surroundings.text_of hrange
      have hsliced := Surroundings.sliceExcerpt?_eq (Surroundings.isKeptOn_of line.toList span)
      rw [htext, hspanOf] at hsliced
      refine ⟨term, place, item, line, span, occurrence, _, rfl, hplace, hitem, hline, hspan,
        hoccurrence, htext, hspanOf, Surroundings.isKeptOn_of line.toList span, hsliced, ?_⟩
      rw [locateReport_of_locate? hnonzero hlocate hitem, excerpt?_of_locate? hterm hfound hline]
      rfl

/-- On the middle one of three lines fifteen characters of three bytes each stand before the
occurrence.  The first of them is left out, for the others have 42 bytes. -/
theorem locateReport_shows_cut :
    let t : Transcript := .ofEvents [⟨none, none, .input "one\n€€€€€€€€€€€€€€€Match it\ntwo"⟩]
    1 ≤ 1 ∧ 1 ≤ (t.countAll none "match").1 ∧
      ∃ s : Surroundings, s.IsKeptOn ∧ String.ofList s.shown = "…€€€€€€€€€€€€€€[Match] it" ∧
        locateReport t "match" 1 =
          .ok ["match 1/1", "item 0 (event-0): Input", "occurrence 1", .ofList s.shown] := by
  intro t
  have hcounted : 1 ≤ (t.countAll none "match").1 := by decide +kernel
  have hlines :
    locateReport t "match" 1 = .ok ["match 1/1", "item 0 (event-0): Input", "occurrence 1",
      "…€€€€€€€€€€€€€€[Match] it"] := by decide +kernel
  obtain ⟨_, _, _, _, _, _, s, -, -, -, -, -, -, -, -, hkept, -, hreport⟩ :=
    locateReport_shows t "match" 1 (Nat.le_refl 1) hcounted
  have hlast := congrArg List.getLast? (Except.ok.inj (hreport.symm.trans hlines))
  have hshown : String.ofList s.shown = "…€€€€€€€€€€€€€€[Match] it" := Option.some.inj hlast
  exact ⟨Nat.le_refl 1, hcounted, s, hkept, hshown, hshown ▸ hlines⟩

end TranscriptSearch
