import TranscriptSearch.Proofs.Find.FinalHighlights
import TranscriptSearch.Proofs.Find.FoundRow
import TranscriptSearch.Proofs.Screen.MatchedRows

/-!
Searching a screen on which several items have the same identifier.  A navigation comes to an item
by its index and asks the screen by its identifier, and the screen answers for the first item that
has it.  So where an identifier is repeated, an occurrence may be found in another item than the
one that was gone to, and an item that shows one may be passed over.
-/

namespace TranscriptSearch

namespace ScreenSurface

/-- Whether an item in the window shows an occurrence of a term at a place. -/
structure Exposes (s : ScreenSurface) (index : Nat) (term : String) (n : Nat) (place : RowMatch) :
    Prop where
  contains : s.view.window.contains index = true
  place_eq : ∃ searchTerm cell, SearchTerm.ofString? term = some searchTerm ∧
    s.view.cells[index]? = some (some cell) ∧ cell.locate? searchTerm n = some place

variable {s after : ScreenSurface} {t : Transcript} {itemId term : String} {index first n : Nat}

theorem fst_cell?_eq_some_iff (h : s.view.WindowIsMeasured) {cell : RenderedItem} :
    (s.cell? t itemId).1 = some (index, cell) ↔ t.indexOf? itemId = some index ∧
      s.view.window.contains index = true ∧ s.view.cells[index]? = some (some cell) := by
  rw [cell?]
  split
  · next hnone => simp [hnone]
  · next first hfirst =>
      change (s.view.materialized t first).1.map (first, ·) = _ ↔ _
      rw [h.fst_materialized, hfirst, Option.map_eq_some_iff]
      constructor
      · rintro ⟨cell', hcell, heq⟩
        obtain ⟨rfl, rfl⟩ := Prod.mk.inj heq
        split at hcell
        · next hcontains => exact ⟨rfl, hcontains, Option.join_eq_some_iff.mp hcell⟩
        · simp at hcell
      · rintro ⟨heq, hcontains, hcell⟩
        obtain rfl := Option.some.inj heq
        exact ⟨cell, by rw [if_pos hcontains, hcell]; rfl, rfl⟩

theorem fst_locate_eq_some_iff (h : s.view.WindowIsMeasured) {span : RenderedSpan} :
    (s.locate t itemId term n).1 = some span ↔ ∃ place, t.indexOf? itemId = some span.itemIndex ∧
      s.Exposes span.itemIndex term n place ∧
        span = ⟨itemId, span.itemIndex, place.line, place.start, place.stop⟩ := by
  rw [locate]
  split
  · next hterm =>
      refine ⟨fun hnone => by simp at hnone, ?_⟩
      rintro ⟨place, -, ⟨-, searchTerm, cell, hsome, -⟩, -⟩
      exact absurd (hterm.symm.trans hsome) (by simp)
  · next searchTerm hterm =>
      change ((s.cell? t itemId).1.bind fun found => (found.2.locate? searchTerm n).bind fun place =>
        some ⟨itemId, found.1, place.line, place.start, place.stop⟩) = some span ↔ _
      constructor
      · intro hsome
        obtain ⟨⟨index, cell⟩, hcell, hfound⟩ := Option.bind_eq_some_iff.mp hsome
        obtain ⟨place, hplace, heq⟩ := Option.bind_eq_some_iff.mp hfound
        obtain rfl := Option.some.inj heq
        obtain ⟨hindex, hcontains, hshown⟩ := (fst_cell?_eq_some_iff h).mp hcell
        exact ⟨place, hindex, ⟨hcontains, searchTerm, cell, hterm, hshown, hplace⟩, rfl⟩
      · rintro ⟨place, hindex, ⟨hcontains, searchTerm', cell, hterm', hshown, hplace⟩, heq⟩
        obtain rfl : searchTerm = searchTerm' := Option.some.inj (hterm.symm.trans hterm')
        have hcell := (fst_cell?_eq_some_iff h).mpr ⟨hindex, hcontains, hshown⟩
        rw [hcell, Option.bind_some, hplace, Option.bind_some, ← heq]

theorem le_fst_occurrenceCount_iff (h : s.view.WindowIsMeasured) (hn : 1 ≤ n)
    (hfirst : t.indexOf? itemId = some first) :
    n ≤ (s.occurrenceCount t itemId term).1 ↔ ∃ place, s.Exposes first term n place := by
  rw [occurrenceCount]
  split
  · next hterm =>
      refine ⟨fun hle => by omega, ?_⟩
      rintro ⟨place, -, searchTerm, cell, hsome, -⟩
      exact absurd (hterm.symm.trans hsome) (by simp)
  · next searchTerm hterm =>
      constructor
      · intro hle
        cases hcell : (s.cell? t itemId).1 with
        | none =>
            simp only [hcell] at hle
            omega
        | some found =>
            obtain ⟨index, cell⟩ := found
            simp only [hcell] at hle
            obtain ⟨hindex, hcontains, hshown⟩ := (fst_cell?_eq_some_iff h).mp hcell
            obtain rfl : first = index := Option.some.inj (hfirst.symm.trans hindex)
            have hplaced := (cell.isSome_locate?_iff searchTerm hn).mpr hle
            obtain ⟨place, hplace⟩ := Option.isSome_iff_exists.mp hplaced
            exact ⟨place, hcontains, searchTerm, cell, hterm, hshown, hplace⟩
      · rintro ⟨place, hcontains, searchTerm', cell, hterm', hshown, hplace⟩
        obtain rfl : searchTerm = searchTerm' := Option.some.inj (hterm.symm.trans hterm')
        have hcell := (fst_cell?_eq_some_iff h).mpr ⟨hfirst, hcontains, hshown⟩
        simp only [hcell]
        exact (cell.isSome_locate?_iff searchTerm hn).mp (congrArg Option.isSome hplace)

section Rounds

variable {kept : Option KeptCounts} {live : Bool} {item : Item}

theorem occurrenceCount_eq_mk (h : s.IsCurrent t) :
    RenderSurface.occurrenceCount s t itemId term =
      ((s.occurrenceCount t itemId term).1, s) :=
  Prod.ext rfl (occurrenceCount_eq h.windowIsMeasured itemId term)

theorem land_of_exposes (h : s.IsCurrent t) (hitem : t.item? index = some item)
    (hfirst : t.indexOf? item.id = some first) (hn : 1 ≤ n) {place : RowMatch}
    (hexposes : s.Exposes first term n place) :
    land t kept term live s index n = (.done (.found ⟨index, item.id, n,
      ⟨item.id, first, place.line, place.start, place.stop⟩⟩), s) := by
  have hle := (le_fst_occurrenceCount_iff h.windowIsMeasured hn hfirst).mpr ⟨place, hexposes⟩
  have hspan : (s.locate t item.id term n).1 =
      some ⟨item.id, first, place.line, place.start, place.stop⟩ :=
    (fst_locate_eq_some_iff h.windowIsMeasured).mpr ⟨place, hfirst, hexposes, rfl⟩
  have hlocate : RenderSurface.locate s t item.id term n =
      (some ⟨item.id, first, place.line, place.start, place.stop⟩, s) :=
    Prod.ext hspan (locate_eq h.windowIsMeasured item.id term n)
  rw [land_eq, hitem]
  simp only [occurrenceCount_eq_mk h, if_pos hle, hlocate]

theorem lt_of_land_found (h : s.IsCurrent t) (hitem : t.item? index = some item)
    (hfirst : t.indexOf? item.id = some first) (hn : 1 ≤ n)
    (hno : ∀ place, ¬ s.Exposes first term n place) {target : MatchTarget}
    (hfound : (land t kept term live s index n).1 = .done (.found target)) :
    index < target.itemIndex := by
  have hgt : ¬ n ≤ (s.occurrenceCount t item.id term).1 := fun hle =>
    (not_exists.mpr hno) ((le_fst_occurrenceCount_iff h.windowIsMeasured hn hfirst).mp hle)
  rw [land_eq, hitem] at hfound
  simp only [occurrenceCount_eq_mk h, if_neg hgt] at hfound
  split at hfound
  · exact NavOutcome.noConfusion (Landing.done.inj hfound)
  · next next hnext =>
      have hlater := Transcript.le_of_itemFrom? hnext
      split at hfound
      · exact NavOutcome.noConfusion (Landing.done.inj hfound)
      · exact Nat.lt_of_lt_of_le hlater (le_of_land_found hfound)
      · exact Landing.noConfusion hfound

end Rounds

/-- Whether a target is an occurrence of a term in the first of the items with the identifier of
the item that was gone to, and that one is in the window. -/
structure PlacesInFirst (s : ScreenSurface) (t : Transcript) (term : String)
    (target : MatchTarget) :
    Prop where
  item : ∃ item, t.item? target.itemIndex = some item ∧ item.id = target.itemId
  itemId_eq : target.span.itemId = target.itemId
  indexOf_eq : t.indexOf? target.itemId = some target.span.itemIndex
  contains : s.view.window.contains target.span.itemIndex = true
  shown : ∃ shown searchTerm, t.item? target.span.itemIndex = some shown ∧
    SearchTerm.ofString? term = some searchTerm ∧
      let cell := shown.render s.view.width s.view.options
      let place : RowMatch := ⟨target.span.line, target.span.start, target.span.stop⟩
      cell.locate? searchTerm target.occurrence = some place ∧
        (cell.matchedTexts searchTerm)[target.occurrence - 1]? = some (cell.textAt place)

theorem placesInFirst_of_isPlacedBy (h : s.IsCurrent t) {target : MatchTarget}
    (hplaced : target.IsPlacedBy s t term) : s.PlacesInFirst t term target := by
  obtain ⟨place, hindex, ⟨hcontains, searchTerm, cell, hterm, hcell, hplace⟩, hspan⟩ :=
    (fst_locate_eq_some_iff h.windowIsMeasured).mp hplaced.locate_eq
  obtain ⟨shown, hshown, rfl⟩ := h.reachable.isFaithful.cell_eq h.epoch_eq _ _ hcell
  have hsame : (⟨target.span.line, target.span.start, target.span.stop⟩ : RowMatch) = place := by
    rw [congrArg RenderedSpan.line hspan, congrArg RenderedSpan.start hspan,
      congrArg RenderedSpan.stop hspan]
  refine ⟨hplaced.item, congrArg RenderedSpan.itemId hspan, hindex, hcontains, shown, searchTerm,
    hshown, hterm, hsame ▸ hplace, ?_⟩
  have htext :=
    (shown.render s.view.width s.view.options).map_locate? searchTerm target.occurrence
  rw [hplace, Option.map_some] at htext
  split at htext
  · simp at htext
  · rw [hsame]
    exact htext.symm

end ScreenSurface

namespace FindPanel

open ScreenSurface

/-- Wherever a navigation finds an occurrence, it is drawn in the first item with the identifier
of the item that was gone to, and in that item itself just if it is the first one.  A round of the
search ends at an item just if the first one with its identifier is in the window and shows the
occurrence. -/
theorem found_in_first {p after : FindPanel ScreenSurface} {term : String} {target : MatchTarget}
    (hcurrent : p.surface.IsCurrent p.transcript)
    (hfound : (∃ n, p.goTo term n = (.done (.found target), after)) ∨
      ∃ wait : Waiting, wait.term = term ∧ p.resume wait = (.done (.found target), after)) :
    after.surface.PlacesInFirst after.transcript term target ∧
      (target.span.itemIndex = target.itemIndex ↔
        after.transcript.indexOf? target.itemId = some target.itemIndex) ∧
      ∀ (s : ScreenSurface) (t : Transcript) kept live index item first n, s.IsCurrent t →
        t.item? index = some item → t.indexOf? item.id = some first → 1 ≤ n →
          (∀ place, s.Exposes first term n place →
            land t kept term live s index n = (.done (.found ⟨index, item.id, n,
              ⟨item.id, first, place.line, place.start, place.stop⟩⟩), s)) ∧
          ((∀ place, ¬ s.Exposes first term n place) → ∀ other,
            (land t kept term live s index n).1 = .done (.found other) →
              index < other.itemIndex) := by
  have hpresents : after.Presents term (.found target) := by
    rcases hfound with ⟨n, hgoTo⟩ | ⟨wait, rfl, hresume⟩
    · rcases presents_goTo hcurrent hgoTo NavOutcome.noConfusion with ⟨hearly, -⟩ | ⟨-, hpresents⟩
      · exact hearly.elim
      · exact hpresents
    · exact (presents_resume hcurrent hresume NavOutcome.noConfusion).2
  have hplaces := placesInFirst_of_isPlacedBy hpresents.shows (hpresents.isPlacedBy target rfl)
  refine ⟨hplaces, ?_, ?_⟩
  · rw [hplaces.indexOf_eq, Option.some.injEq]
  · intro s t kept live index item first n hs hitem hfirst hn
    exact ⟨fun place => land_of_exposes hs hitem hfirst hn,
      fun hno other => lt_of_land_found hs hitem hfirst hn hno⟩

/-- Items that all have the same identifier. -/
def namesakes (texts : List String) : Transcript :=
  .ofEvents (texts.map fun text => ⟨some "u", none, .input text⟩)

/-- The item of a text that matches. -/
def matchItem : Item :=
  ⟨"u", 0, none, .input "match"⟩

theorem isCurrent_atTop {t : Transcript} (h : (atTop t).surface.view.epoch = t.epoch) :
    (atTop t).surface.IsCurrent t :=
  ⟨reachable_atTop t, h⟩

theorem found_in_first_namesakes :
    let t := namesakes ["match", "match"]
    let p := atTop t
    let target : MatchTarget := ⟨1, "u", 1, ⟨"u", 0, 1, 2, 7⟩⟩
    (p.goTo "match" 2).1 = .done (.found target) ∧
      (p.goTo "match" 2).2.surface.PlacesInFirst (p.goTo "match" 2).2.transcript "match" target ∧
      (p.goTo "match" 2).2.transcript.indexOf? "u" ≠ some 1 ∧
      p.surface.Exposes 0 "match" 1 ⟨1, 2, 7⟩ ∧
      land t none "match" true p.surface 1 1 = (.done (.found target), p.surface) := by
  intro t p target
  have hcurrent : p.surface.IsCurrent t := isCurrent_atTop (by decide +kernel)
  have hfound : (p.goTo "match" 2).1 = .done (.found target) := by decide +kernel
  have hexposes : p.surface.Exposes 0 "match" 1 ⟨1, 2, 7⟩ :=
    ⟨by decide +kernel, _, matchItem.render 40 ⟨5, false⟩, rfl, by decide +kernel,
      by decide +kernel⟩
  obtain ⟨hplaces, hiff, hrounds⟩ :=
    found_in_first hcurrent (.inl ⟨2, Prod.ext hfound rfl⟩)
  refine ⟨hfound, hplaces, fun hindex => ?_, hexposes, ?_⟩
  · exact absurd (hiff.mpr hindex) (by decide)
  · obtain ⟨hends, -⟩ :=
      hrounds p.surface t none true 1 matchItem 0 1 hcurrent rfl (by decide +kernel) (by decide)
    exact hends _ hexposes

/-- Of two items with the same identifier only the first one is asked: an occurrence in the second
one is placed in the first, or the second one is passed over although it shows the occurrence. -/
theorem found_elsewhere_or_passed_over :
    ((atTop (namesakes ["match", "match"])).goTo "match" 2).1 =
        .done (.found ⟨1, "u", 1, ⟨"u", 0, 1, 2, 7⟩⟩) ∧
      (atTop (namesakes ["other", "match"])).surface.Exposes 1 "match" 1 ⟨1, 2, 7⟩ ∧
      ((atTop (namesakes ["other", "match"])).goTo "match" 1).1 =
        .done (.notFound .reconciliationExhausted) := by
  refine ⟨by decide +kernel, ?_, by decide +kernel⟩
  exact ⟨by decide +kernel, _, matchItem.render 40 ⟨5, false⟩, rfl, by decide +kernel,
    by decide +kernel⟩

end FindPanel

end TranscriptSearch
