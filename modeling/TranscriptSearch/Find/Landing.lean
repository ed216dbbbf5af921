import TranscriptSearch.Find.Outcome
import TranscriptSearch.Find.Visibility
import TranscriptSearch.Transcript.Counts

/-!
From an occurrence in the items to an occurrence that is shown.  An item may show fewer
occurrences of a term than it holds.  The ones it does not show are looked for in the items behind
it, so that every occurrence that is shown can be reached.
-/
namespace TranscriptSearch

open RenderSurface

variable {σ : Type} [RenderSurface σ]

/-- How far the way to an occurrence has led. -/
inductive Landing where
  /-- To its end. -/
  | done (outcome : NavOutcome)
  /-- To an item that is not in the window yet, of which a certain occurrence is wanted. -/
  | waiting (index occurrence : Nat)
deriving DecidableEq

theorem Transcript.le_of_firstPositive? {start found : Nat} {counts : List Nat}
    (h : Transcript.firstPositive? start counts = some found) : start ≤ found := by
  obtain ⟨offset, _, rfl⟩ := Option.map_eq_some_iff.1 h
  exact Nat.le_add_right start offset

theorem Transcript.le_of_itemFrom? {t : Transcript} {kept : Option KeptCounts} {term : String}
    {start found : Nat} (h : t.itemFrom? kept term start = some found) : start ≤ found := by
  obtain ⟨_, _, h⟩ := Option.bind_eq_some_iff.1 h
  exact le_of_firstPositive? h

/-- Finds an occurrence of a term, counted from one, in an item that is visible or in the items
behind it.  A search that is not `live` any more does not go on to another item. -/
def land (t : Transcript) (kept : Option KeptCounts) (term : String) (live : Bool) (surface : σ)
    (index occurrence : Nat) : Landing × σ :=
  match _item : t.item? index with
  | none => (.done (.notFound .reconciliationExhausted), surface)
  | some item =>
    let (shown, surface) := occurrenceCount surface t item.id term
    if occurrence ≤ shown then
      match locate surface t item.id term occurrence with
      | (some span, surface) => (.done (.found ⟨index, item.id, occurrence, span⟩), surface)
      | (none, surface) => (.done (.notFound .renderedSpanMissing), surface)
    else
      match _next : t.itemFrom? kept term (index + 1) with
      | none => (.done (.notFound .reconciliationExhausted), surface)
      | some next =>
        match ensureVisible surface t next (!live) with
        | (some .cancelled, surface) => (.done .superseded, surface)
        | (some _, surface) => land t kept term live surface next (occurrence - shown)
        | (none, surface) => (.waiting next (occurrence - shown), surface)
termination_by t.size - index
decreasing_by
  have inside : index < t.size := (List.getElem?_eq_some_iff.1 _item).1
  have ahead : index + 1 ≤ next := Transcript.le_of_itemFrom? _next
  omega

/-- Brings an item into the window and finds an occurrence from there. -/
def approach (t : Transcript) (kept : Option KeptCounts) (term : String) (surface : σ)
    (index occurrence : Nat) : Landing × σ :=
  match ensureVisible surface t index false with
  | (some _, surface) => land t kept term true surface index occurrence
  | (none, surface) => (.waiting index occurrence, surface)

end TranscriptSearch
