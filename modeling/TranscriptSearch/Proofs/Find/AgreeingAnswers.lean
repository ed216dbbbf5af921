import Mathlib.Data.List.Basic
import TranscriptSearch.Proofs.Find.PanelRuns
import TranscriptSearch.Proofs.Find.RepeatedIds

namespace TranscriptSearch

open RenderSurface SteadySurface

theorem filterMap_getElem?_range' {α : Type} (l : List α) (start size : Nat) :
    (List.range' start size).filterMap (fun i => l[i]?) = (l.drop start).take size := by
  induction size generalizing start with
  | zero => rfl
  | succ size ih =>
      rw [List.range'_succ, List.filterMap_cons, ih]
      cases hget : l[start]? with
      | none =>
          have hle : l.length ≤ start := List.getElem?_eq_none_iff.mp hget
          rw [List.drop_of_length_le (Nat.le_succ_of_le hle), List.drop_of_length_le hle,
            List.take_nil, List.take_nil]
      | some a =>
          obtain ⟨hlt, rfl⟩ := List.getElem?_eq_some_iff.mp hget
          rw [List.drop_eq_getElem_cons hlt, List.take_succ_cons]

namespace RenderedItem

theorem filterMap_locate? (item : RenderedItem) (term : SearchTerm) :
    (List.range' 1 (item.count term)).filterMap (item.locate? term) = item.occurrences term := by
  have hshift : List.range' 1 (item.count term) =
      (List.range' 0 (item.count term)).map (1 + ·) :=
    (List.map_add_range' 0 (item.count term) 1).symm
  have hlocate : item.locate? term ∘ (1 + ·) = fun i => (item.occurrences term)[i]? := by
    funext i
    rw [Function.comp_apply, locate?, if_neg (by omega), Nat.add_sub_cancel_left]
  rw [hshift, List.filterMap_map, hlocate, filterMap_getElem?_range', ← item.length_occurrences,
    List.drop_zero, List.take_length]

end RenderedItem

namespace ScreenSurface

variable {s : ScreenSurface} {t : Transcript} {itemId term : String} {searchTerm : SearchTerm}
  {index n : Nat}

theorem fst_occurrenceCount_eq (hterm : SearchTerm.ofString? term = some searchTerm) :
    (s.occurrenceCount t itemId term).1 =
      ((s.cell? t itemId).1.map fun found => found.2.count searchTerm).getD 0 := by
  rw [occurrenceCount, hterm]
  rcases s.cell? t itemId with ⟨_ | found, after⟩
  · rfl
  · rfl

theorem fst_locate_eq_bind (hterm : SearchTerm.ofString? term = some searchTerm) :
    (s.locate t itemId term n).1 = (s.cell? t itemId).1.bind fun found =>
      (found.2.locate? searchTerm n).map fun place =>
        ⟨itemId, found.1, place.line, place.start, place.stop⟩ := by
  rw [locate, hterm]
  change ((s.cell? t itemId).1.bind fun found => (found.2.locate? searchTerm n).bind fun place =>
    some (RenderedSpan.mk itemId found.1 place.line place.start place.stop)) = _
  simp only [Option.map_eq_bind, Function.comp_def]

theorem isSome_locate_iff : (s.locate t itemId term n).1.isSome = true ↔
    1 ≤ n ∧ n ≤ (s.occurrenceCount t itemId term).1 := by
  cases hterm : SearchTerm.ofString? term with
  | none =>
      rw [locate, occurrenceCount, hterm]
      simp only [Option.isSome_none, Bool.false_eq_true, false_iff]
      omega
  | some searchTerm =>
      rw [fst_locate_eq_bind hterm, fst_occurrenceCount_eq hterm]
      rcases (s.cell? t itemId).1 with _ | ⟨index, cell⟩
      · simp only [Option.bind_none, Option.isSome_none, Option.map_none, Option.getD_none,
          Bool.false_eq_true, false_iff]
        omega
      · simp only [Option.bind_some, Option.isSome_map, Option.map_some, Option.getD_some]
        rcases Nat.eq_zero_or_pos n with rfl | hn
        · simp [RenderedItem.locate?]
        · rw [cell.isSome_locate?_iff searchTerm hn]
          exact ⟨fun hle => ⟨hn, hle⟩, And.right⟩

/-- The places of the occurrences in an item, asked for one after another. -/
def placesOf (s : ScreenSurface) (t : Transcript) (term : String) (item : Item) :
    List RenderedSpan :=
  (List.range' 1 (s.occurrenceCount t item.id term).1).filterMap fun n =>
    (s.locate t item.id term n).1

theorem placesOf_eq_nil (hterm : SearchTerm.ofString? term = none) (item : Item) :
    s.placesOf t term item = [] := by
  rw [placesOf, occurrenceCount, hterm]
  rfl

theorem placesOf_eq (hterm : SearchTerm.ofString? term = some searchTerm) {item : Item}
    (hitem : t.item? index = some item) (hindex : t.indexOf? item.id = some index) :
    s.placesOf t term item = (spansOf s.view t searchTerm index).1 := by
  have hcell : (s.cell? t item.id).1 = (s.view.materialized t index).1.map (index, ·) := by
    rw [cell?, hindex]
  have hlocate : (fun n => (s.locate t item.id term n).1) = fun n =>
      (s.cell? t item.id).1.bind fun found => (found.2.locate? searchTerm n).map fun place =>
        ⟨item.id, found.1, place.line, place.start, place.stop⟩ :=
    funext fun n => fst_locate_eq_bind hterm
  rw [placesOf, hlocate, fst_occurrenceCount_eq hterm, hcell, spansOf]
  rcases s.view.materialized t index with ⟨_ | cell, v⟩
  · rfl
  · simp only [Option.map_some, Option.getD_some, Option.bind_some, hitem]
    rw [← List.map_filterMap, cell.filterMap_locate? searchTerm]

theorem fst_spansOf_of_item?_eq_none (v : TranscriptView) (hitem : t.item? index = none) :
    (spansOf v t searchTerm index).1 = [] := by
  rw [spansOf]
  split
  · rfl
  · rw [hitem]

/-- Where no question changes the view, to stop early is to cut off. -/
theorem fst_spansIn_eq_take {v : TranscriptView} (h : v.WindowIsMeasured) (t : Transcript)
    (searchTerm : SearchTerm) (room : Nat) (indices : List Nat) :
    (spansIn v t searchTerm room indices).1 =
      (indices.flatMap fun index => (spansOf v t searchTerm index).1).take room := by
  induction indices generalizing room with
  | nil => simp [spansIn]
  | cons index indices ih =>
      rw [spansIn, List.flatMap_cons, List.take_append]
      split
      · next hroom => simp [hroom]
      · simp only [spansOf_eq h]
        rw [ih]

theorem visibleOccurrences_eq_take (h : s.view.WindowIsMeasured)
    (hids : (t.items.map (·.id)).Nodup) (term : String) (limit : Nat) :
    s.visibleOccurrences t term limit =
      ((((t.items.drop s.view.window.start).take s.view.window.size).flatMap
        (s.placesOf t term)).take limit, s) := by
  refine Prod.ext ?_ (visibleOccurrences_eq h term limit)
  cases hterm : SearchTerm.ofString? term with
  | none =>
      rw [visibleOccurrences, hterm,
        List.flatMap_eq_nil_iff.mpr fun item _ => placesOf_eq_nil hterm item, List.take_nil]
  | some searchTerm =>
      have hspans : ∀ index, (spansOf s.view t searchTerm index).1 =
          (t.items[index]?).toList.flatMap (s.placesOf t term) := by
        intro index
        cases hitem : t.items[index]? with
        | none => exact fst_spansOf_of_item?_eq_none s.view hitem
        | some item =>
            rw [Option.toList_some, List.flatMap_singleton]
            exact (placesOf_eq hterm hitem (Transcript.indexOf?_eq hids hitem)).symm
      have hvisible : (s.visibleOccurrences t term limit).1 =
          (spansIn s.view t searchTerm limit
            (List.range' s.view.window.start s.view.window.size)).1 := by
        rw [visibleOccurrences, hterm]
      rw [hvisible, fst_spansIn_eq_take h, funext hspans, ← List.flatMap_assoc,
        ← List.filterMap_eq_flatMap_toList, filterMap_getElem?_range']

end ScreenSurface

/-- Whether a search has not ended at an occurrence that was counted and had no place.  Where it
waits, the occurrence that it still wants is counted from one. -/
def Landing.IsPlaced : Landing → Prop
  | .done outcome => outcome ≠ .notFound .renderedSpanMissing
  | .waiting _ occurrence => 1 ≤ occurrence

/-- The same of a navigation. -/
def Progress.IsPlaced : Progress → Prop
  | .done outcome => outcome ≠ .notFound .renderedSpanMissing
  | .waiting wait => 1 ≤ wait.occurrence

namespace ScreenSurface.IsCurrent

variable {s : ScreenSurface} {t : Transcript} {term : String} {index occurrence : Nat}

theorem shows (h : s.IsCurrent t) : Shows s t :=
  h

theorem isPlaced_land (h : s.IsCurrent t) (kept : Option KeptCounts) (live : Bool)
    (hpos : 1 ≤ occurrence) : (land t kept term live s index occurrence).1.IsPlaced := by
  fun_induction land t kept term live s index occurrence with
  | case3 s index occurrence item hitem shown counted hcount hle located hlocate =>
      -- The surface that counted the occurrence is the one that is asked for its place.
      rw [occurrenceCount_eq_mk h] at hcount
      obtain ⟨rfl, rfl⟩ := Prod.mk.inj hcount
      have hsome := isSome_locate_iff.mpr ⟨hpos, hle⟩
      have hnone : (s.locate t item.id term occurrence).1 = none := congrArg Prod.fst hlocate
      rw [hnone] at hsome
      exact absurd hsome Bool.false_ne_true
  | case6 s index occurrence item hitem shown counted hcount hgt next hnext how seen
    hhow hseen ih =>
      rw [occurrenceCount_eq_mk h] at hcount
      obtain ⟨rfl, rfl⟩ := Prod.mk.inj hcount
      have hshows := shows_ensureVisible h.shows next (!live)
      rw [hseen] at hshows
      exact ih hshows (by omega)
  | case7 s index occurrence item hitem shown counted hcount hgt next hnext seen hseen =>
      change 1 ≤ occurrence - shown
      omega
  | _ => exact fun heq => by cases heq

theorem isPlaced_approach (h : s.IsCurrent t) (kept : Option KeptCounts) (hpos : 1 ≤ occurrence) :
    (approach t kept term s index occurrence).1.IsPlaced := by
  have hshows := shows_ensureVisible h.shows index false
  rw [approach]
  split
  · next how seen hseen =>
      rw [hseen] at hshows
      exact isPlaced_land hshows kept true hpos
  · exact hpos

end ScreenSurface.IsCurrent

namespace Transcript

theorem one_le_of_locateIn {first number : Nat} {counts : List Nat} {location : Location}
    (hpos : 1 ≤ number) (hlocate : locateIn first counts number = some location) :
    1 ≤ location.occurrence := by
  induction counts generalizing first number with
  | nil => simp [locateIn] at hlocate
  | cons count counts ih =>
      rw [locateIn] at hlocate
      split at hlocate
      · obtain rfl := Option.some.inj hlocate
        exact hpos
      · exact ih (by omega) hlocate

theorem one_le_of_locate? {t : Transcript} {kept : Option KeptCounts} {term : String}
    {number : Nat}
    {location : Location} (hlocate : t.locate? kept term number = some location) :
    1 ≤ location.occurrence := by
  obtain ⟨searchTerm, -, hfound⟩ := Option.bind_eq_some_iff.mp hlocate
  split at hfound
  · simp at hfound
  · exact one_le_of_locateIn (by omega) hfound

end Transcript

namespace FindPanel

section Concluding

variable {σ : Type} [RenderSurface σ] (p : FindPanel σ) (term : String) (ticket : Nat)

theorem isPlaced_advance {landing : Landing × σ} (h : landing.1.IsPlaced) :
    (p.advance term ticket landing).1.IsPlaced := by
  rcases landing with ⟨outcome | ⟨index, occurrence⟩, surface⟩
  · change (conclude { p with surface } term ticket outcome).1 ≠ .notFound .renderedSpanMissing
    rw [conclude]
    split
    · exact h
    · exact fun heq => NavOutcome.noConfusion heq
  · exact h

end Concluding

variable {p : FindPanel ScreenSurface}

theorem isPlaced_goTo (h : p.surface.IsCurrent p.transcript) (term : String) (n : Nat) :
    (p.goTo term n).1.IsPlaced := by
  obtain ⟨-, heq⟩ | ⟨-, heq⟩ | ⟨-, heq⟩ | ⟨location, hlocation, heq⟩ := p.goTo_dispatch term n
  · rw [heq]
    exact fun hmissing => by cases hmissing
  · rw [heq]
    exact fun hmissing => by cases hmissing
  · rw [heq]
    exact fun hmissing => by cases hmissing
  · rw [heq]
    apply isPlaced_advance
    let counted : FindPanel ScreenSurface :=
      ({ p with tickets := p.tickets.issue.2 }.count term).2
    have hcounted : counted.surface.IsCurrent counted.transcript := h
    have hshows : counted.suppressFollowing.surface.IsCurrent counted.transcript :=
      shows_suppressFollowing hcounted.shows
    exact hshows.isPlaced_approach _ (Transcript.one_le_of_locate? hlocation)

theorem isPlaced_resume (h : p.surface.IsCurrent p.transcript) {wait : Waiting}
    (hpos : 1 ≤ wait.occurrence) : (p.resume wait).1.IsPlaced := by
  have hshows : ScreenSurface.IsCurrent (endScroll p.surface) p.transcript :=
    shows_setProgrammatic h.shows false
  rw [resume]
  simp only
  split
  · apply isPlaced_advance
    exact hshows.isPlaced_land _ true hpos
  · exact fun heq => by cases heq

end FindPanel

namespace PanelRun

variable {r : PanelRun ScreenSurface}

/-- Whether a step that lets a navigation work finds a screen that has taken up the present
epoch. -/
def IsOnCurrent (r : PanelRun ScreenSurface) : PanelStep ScreenSurface → Prop
  | .start .. => r.panel.surface.IsCurrent r.panel.transcript
  | .resume _ => r.panel.surface.IsCurrent r.panel.transcript
  | _ => True

/-- Whether all steps of a run do. -/
def NavigatesOnCurrent (r : PanelRun ScreenSurface) : List (PanelStep ScreenSurface) → Prop
  | [] => True
  | step :: steps => r.IsOnCurrent step ∧ (r.next step).NavigatesOnCurrent steps

def IsPlaced (r : PanelRun ScreenSurface) : Prop :=
  ∀ progress ∈ r.navigations, progress.IsPlaced

theorem isPlaced_new (p : FindPanel ScreenSurface) : (new p).IsPlaced := by
  intro progress hmem
  exact absurd hmem List.not_mem_nil

theorem IsPlaced.next (h : r.IsPlaced) {step : PanelStep ScreenSurface}
    (hstep : r.IsOnCurrent step) :
    (r.next step).IsPlaced := by
  cases step with
  | start term n =>
      intro progress hmem
      rcases List.mem_append.mp hmem with hbefore | hnew
      · exact h progress hbefore
      · obtain rfl := List.mem_singleton.mp hnew
        exact FindPanel.isPlaced_goTo hstep term n
  | resume number =>
      obtain ⟨wait, hwait, hnext⟩ | ⟨-, hsame⟩ := r.next_resume_cases number
      · have hpos : (Progress.waiting wait).IsPlaced := h _ (List.mem_of_getElem? hwait)
        rw [hnext]
        intro progress hmem
        rcases List.mem_or_eq_of_mem_set hmem with hbefore | rfl
        · exact h progress hbefore
        · exact FindPanel.isPlaced_resume hstep hpos
      · rw [hsame]
        exact h
  | clear => exact h
  | unmount => exact h
  | highlightTerm term => exact h
  | watch => exact h
  | moveSurface move => exact h
  | setTranscript t => exact h

theorem IsPlaced.run (h : r.IsPlaced) {steps : List (PanelStep ScreenSurface)}
    (hsteps : r.NavigatesOnCurrent steps) : (r.run steps).IsPlaced := by
  induction steps generalizing r with
  | nil => exact h
  | cons step steps ih => exact ih (h.next hsteps.1) hsteps.2

end PanelRun

namespace ScreenSurface

/-- On a screen that has taken up the present epoch of its transcript, an occurrence has a place
just if it is counted, and no question changes the screen.  So a search for an occurrence, which
is counted from one, never ends for want of a place, nor does a navigation of a panel, whatever
happens between its steps.  Where identifiers are distinct, the occurrences in the window are
those that its items have one by one, in order and cut off at the limit. -/
theorem answers_agree {s : ScreenSurface} {t : Transcript} (h : s.IsCurrent t) :
    (∀ itemId term n,
      ((s.locate t itemId term n).1.isSome = true ↔
        1 ≤ n ∧ n ≤ (s.occurrenceCount t itemId term).1) ∧
      (s.locate t itemId term n).2 = s ∧ (s.occurrenceCount t itemId term).2 = s) ∧
    (∀ kept term live index occurrence, 1 ≤ occurrence →
      (land t kept term live s index occurrence).1.IsPlaced) ∧
    (∀ (p : FindPanel ScreenSurface) steps, (PanelRun.new p).NavigatesOnCurrent steps →
      ∀ number, ¬ ((PanelRun.new p).run steps).Returned number (.notFound .renderedSpanMissing)) ∧
    ((t.items.map (·.id)).Nodup → ∀ term limit, s.visibleOccurrences t term limit =
      ((((t.items.drop s.view.window.start).take s.view.window.size).flatMap
        (s.placesOf t term)).take limit, s)) := by
  have hmeasured := h.windowIsMeasured
  refine ⟨?_, ?_, ?_, fun hids => visibleOccurrences_eq_take hmeasured hids⟩
  · intro itemId term n
    exact ⟨isSome_locate_iff, locate_eq hmeasured itemId term n,
      occurrenceCount_eq hmeasured itemId term⟩
  · intro kept term live index occurrence hpos
    exact h.isPlaced_land kept live hpos
  · intro p steps hsteps number hreturned
    have hplaced := (PanelRun.isPlaced_new p).run hsteps
    exact hplaced _ (List.mem_of_getElem? hreturned) rfl

/-- Two items with two occurrences each. -/
def pairedMatches : Transcript :=
  .ofEvents (List.replicate 2 ⟨none, none, .input "match match"⟩)

/-- The first item has a place for its second occurrence and none for a third one, which is one of
the next item.  With room for three, the window has both of the first item and one of the
second. -/
theorem answers_agree_pairedMatches :
    let t := pairedMatches
    let p := FindPanel.atTop t
    let s := p.surface
    let steps : List (PanelStep ScreenSurface) := [.start "match" 3]
    s.IsCurrent t ∧ (t.items.map (·.id)).Nodup ∧ (PanelRun.new p).NavigatesOnCurrent steps ∧
      (s.locate t "event-0" "match" 2).1.isSome = true ∧
      ¬ (s.locate t "event-0" "match" 3).1.isSome = true ∧
      (land t none "match" true s 0 3).1.IsPlaced ∧
      ¬ ((PanelRun.new p).run steps).Returned 0 (.notFound .renderedSpanMissing) ∧
      s.visibleOccurrences t "match" 3 =
        ([⟨"event-0", 0, 1, 2, 7⟩, ⟨"event-0", 0, 1, 8, 13⟩, ⟨"event-1", 1, 1, 2, 7⟩], s) := by
  intro t p s steps
  have hcurrent : s.IsCurrent t := FindPanel.isCurrent_atTop (by decide +kernel)
  have hids : (t.items.map (·.id)).Nodup := by decide +kernel
  have hsteps : (PanelRun.new p).NavigatesOnCurrent steps := ⟨hcurrent, trivial⟩
  have hcount : (s.occurrenceCount t "event-0" "match").1 = 2 := by decide +kernel
  obtain ⟨hplaces, hlands, hruns, hvisible⟩ := answers_agree hcurrent
  refine ⟨hcurrent, hids, hsteps, ?_, ?_, ?_, hruns p steps hsteps 0, ?_⟩
  · exact (hplaces "event-0" "match" 2).1.mpr ⟨by decide, Nat.le_of_eq hcount.symm⟩
  · intro hsome
    have hle := ((hplaces "event-0" "match" 3).1.mp hsome).2
    omega
  · exact hlands none "match" true 0 3 (by decide)
  · rw [hvisible hids]
    refine Prod.ext ?_ rfl
    decide +kernel

end ScreenSurface

end TranscriptSearch
