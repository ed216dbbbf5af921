import TranscriptSearch.Proofs.Find.Landings
import TranscriptSearch.Proofs.Find.PanelRuns

/-!
The order in which the numbers of occurrences lead to places that are shown.  A place has a rank:
how many occurrences are shown down to it.  Going to an occurrence keeps the rank that the
occurrence would have if its item showed it, so a search that carries many hidden occurrences on
from an item can end behind the place of a greater number.
-/

namespace TranscriptSearch

open Finset RenderSurface

namespace Location

variable {size : Nat → Nat} {a b : Location}

/-- The order of occurrences: by item, then by number in the item. -/
def Before (a b : Location) : Prop :=
  a.item < b.item ∨ a.item = b.item ∧ a.occurrence < b.occurrence
deriving Decidable

/-- The number of an occurrence among those of all items, where each item has so many. -/
def rank (size : Nat → Nat) (a : Location) : Nat :=
  ∑ k ∈ range a.item, size k + a.occurrence

/-- Whether the item has the occurrence, where each item has so many. -/
def IsWithin (size : Nat → Nat) (a : Location) : Prop :=
  1 ≤ a.occurrence ∧ a.occurrence ≤ size a.item

theorem rank_eq_add (size : Nat → Nat) {earlier : Nat} (h : earlier ≤ a.item) :
    a.rank size = ∑ k ∈ range earlier, size k + ∑ k ∈ Ico earlier a.item,
      size k + a.occurrence := by
  rw [rank, sum_range_add_sum_Ico size h]

theorem Before.rank_lt (h : a.Before b) (ha : a.item = b.item ∨ a.occurrence ≤ size a.item)
    (hb : 1 ≤ b.occurrence) : a.rank size < b.rank size := by
  rcases h with hitem | ⟨hitem, hoccurrence⟩
  · have hown : size a.item ≤ ∑ k ∈ Ico a.item b.item, size k :=
      single_le_sum (fun k _ => Nat.zero_le (size k)) (left_mem_Ico.mpr hitem)
    have hle : a.occurrence ≤ size a.item := ha.resolve_left (Nat.ne_of_lt hitem)
    rw [rank_eq_add size hitem.le, rank]
    omega
  · rw [rank, rank, hitem]
    omega

theorem IsWithin.before_iff (ha : a.IsWithin size) (hb : b.IsWithin size) :
    a.Before b ↔ a.rank size < b.rank size := by
  refine ⟨fun h => h.rank_lt (.inr ha.2) hb.1, fun hlt => ?_⟩
  by_contra hbefore
  by_cases heq : a = b
  · rw [heq] at hlt
    exact Nat.lt_irrefl _ hlt
  · have hafter : b.Before a := by
      obtain ⟨item, occurrence⟩ := a
      obtain ⟨item', occurrence'⟩ := b
      simp only [Before, Location.mk.injEq] at hbefore heq ⊢
      omega
    exact Nat.lt_asymm hlt (hafter.rank_lt (.inr hb.2) ha.1)

end Location

theorem sumOf_map_range_eq_sum (f : Nat → Nat) (n : Nat) :
    sumOf ((List.range n).map f) = ∑ k ∈ range n, f k := by
  induction n with
  | zero => rfl
  | succ n ih => simp [List.range_succ, sum_range_succ, ih]

theorem Transcript.rank_of_locate? {t : Transcript} {term : String} {n : Nat}
    {location : Location}
    (h : t.locate? none term n = some location) :
    location.IsWithin (t.itemCount none term) ∧ location.rank (t.itemCount none term) = n := by
  have hright := Resolver.isRight_new t
  obtain ⟨hnumber, hpos, hle⟩ :=
    (hright.enumerates term).number_eq n location.item location.occurrence h
  rw [sumOf_map_range_eq_sum] at hnumber
  exact ⟨⟨hpos, hle⟩, hnumber.symm⟩

/-- Where a target is, without its place on the screen. -/
def MatchTarget.location (target : MatchTarget) : Location :=
  ⟨target.itemIndex, target.occurrence⟩

/-- What is found is shown, and as many occurrences are shown down to it as there would be down to
the one that was looked for. -/
theorem EndsBySum.rank_eq {t : Transcript} {shown : Nat → Nat} {index occurrence : Nat}
    {target : MatchTarget} (h : EndsBySum t shown index occurrence (.found target)) :
    target.location.IsWithin shown ∧
      target.location.rank shown = Location.rank shown ⟨index, occurrence⟩ := by
  rcases h with ⟨-, hexhausted⟩ | ⟨landed, item, span, hlanded, -, hlt, hle, hfound⟩
  · exact NavOutcome.noConfusion hexhausted
  · obtain rfl := NavOutcome.found.inj hfound
    rw [sum_Ico_succ_top hlanded] at hle
    refine ⟨⟨?_, ?_⟩, ?_⟩
    · change 1 ≤ occurrence - ∑ k ∈ Ico index landed, shown k
      omega
    · change occurrence - ∑ k ∈ Ico index landed, shown k ≤ shown landed
      omega
    · have hrank :
          Location.rank shown ⟨landed, occurrence - ∑ k ∈ Ico index landed, shown k⟩ = _ :=
        Location.rank_eq_add shown hlanded
      change Location.rank shown ⟨landed, occurrence - ∑ k ∈ Ico index landed, shown k⟩ = _
      rw [hrank, Location.rank]
      simp only
      omega

namespace FindPanel

variable {σ : Type} [RenderSurface σ]

/-- Whether a navigation that has come so far comes to an end in some way, if nothing but its
waits happens to the panel.  What the surface has become when the wait for an item is over is told
by `settle`. -/
inductive ComesTo (settle : Nat → σ → σ) : Progress × FindPanel σ → NavOutcome → Prop
  | done {begun : Progress × FindPanel σ} {outcome : NavOutcome}
      (ended : begun.1 = .done outcome) :
      ComesTo settle begun outcome
  | waits {begun : Progress × FindPanel σ} {wait : Waiting} {outcome : NavOutcome}
      (waiting : begun.1 = .waiting wait)
      (rest : ComesTo settle
        ({ begun.2 with surface := settle wait.index begun.2.surface }.resume wait) outcome) :
      ComesTo settle begun outcome

variable {settle : Nat → σ → σ} {target : MatchTarget}

theorem ComesTo.eq_of_done {outcome outcome' : NavOutcome} {p : FindPanel σ}
    (h : ComesTo settle (.done outcome, p) outcome') : outcome' = outcome := by
  cases h with
  | done ended => exact (Progress.done.inj ended).symm
  | waits waiting => exact Progress.noConfusion waiting

theorem ComesTo.of_waiting {p : FindPanel σ} {wait : Waiting}
    (h : ComesTo settle (.waiting wait, p) (.found target)) :
    ComesTo settle
      ({ p with surface := endScroll (settle wait.index p.surface) }.advance wait.term
        wait.ticket (land p.transcript p.kept wait.term true
          (endScroll (settle wait.index p.surface)) wait.index wait.occurrence))
      (.found target) := by
  cases h with
  | done ended => exact Progress.noConfusion ended
  | waits waiting rest =>
      obtain rfl := Progress.waiting.inj waiting
      rw [resume] at rest
      simp only at rest
      split at rest
      · exact rest
      · exact NavOutcome.noConfusion rest.eq_of_done

theorem ComesTo.of_advance {p : FindPanel σ} {term : String} {ticket : Nat} {s : σ}
    {index occurrence : Nat}
    (h : ComesTo settle (p.advance term ticket
      (land p.transcript p.kept term true s index occurrence)) (.found target)) :
    (landToEnd p.transcript p.kept term settle s index occurrence).1 = .found target := by
  -- Each wait is for a later item.
  induction hrest : p.transcript.size - index using Nat.strong_induction_on
    generalizing p s index occurrence with
  | _ rest ih =>
      rcases hland : land p.transcript p.kept term true s index occurrence with
        ⟨outcome | ⟨next, wanted⟩, after⟩
      · rw [hland, advance] at h
        rw [landToEnd_of_done hland]
        have hconcluded : NavOutcome.found target =
            ({ p with surface := after }.conclude term ticket outcome).1 := h.eq_of_done
        rw [conclude] at hconcluded
        split at hconcluded
        · exact hconcluded.symm
        · exact NavOutcome.noConfusion hconcluded
      · obtain ⟨hlater, hsize⟩ := lt_of_land_waiting hland
        rw [hland, advance] at h
        rw [landToEnd_of_waiting hland]
        exact ih (p.transcript.size - next) (by omega) h.of_waiting rfl

theorem ComesTo.of_approach {p : FindPanel σ} {term : String} {ticket : Nat} {s : σ}
    {index occurrence : Nat}
    (h : ComesTo settle (p.advance term ticket
      (approach p.transcript p.kept term s index occurrence)) (.found target)) :
    (landToEnd p.transcript p.kept term settle (reveal p.transcript settle s index) index
      occurrence).1 = .found target := by
  rw [approach] at h
  rw [reveal]
  rcases hvisible : ensureVisible s p.transcript index false with ⟨_ | how, seen⟩
  · rw [hvisible, advance] at h
    exact h.of_waiting.of_advance
  · rw [hvisible] at h
    exact h.of_advance

/-- A panel that has right counts of its transcript, and a surface in a state with fixed
numbers. -/
structure Shows (p : FindPanel σ) (t : Transcript) (ready : σ → Prop) : Prop where
  transcript_eq : p.transcript = t
  kept : ∀ counts ∈ p.kept, counts.IsRightOf t
  ready : ready p.surface

variable {t : Transcript} {term : String} {shown : Nat → Nat} {ready : σ → Prop}
  {visible : σ → Nat → Prop} {p : FindPanel σ} {n : Nat}

theorem ready_suppressFollowing
    (hfollowing : ∀ s following, ready s → ready (setFollowing s p.transcript following))
    (h : ready p.surface) : ready p.suppressFollowing.surface := by
  change ready (p.hold.suppress p.surface p.transcript).2
  rw [FollowHold.suppress]
  split
  · exact h
  · simp only
    split
    · exact hfollowing _ _ h
    · exact h

theorem ComesTo.rank_of_goTo (laws : ShowsFixedCounts t term shown settle ready visible)
    (hfollowing : ∀ s following, ready s → ready (setFollowing s t following))
    (hshown : ∀ j < t.size, shown j ≤ t.itemCount none term j) (hp : p.Shows t ready)
    (h : ComesTo settle (p.goTo term n) (.found target)) :
    ∃ location, t.locate? none term n = some location ∧ target.location.IsWithin shown ∧
      target.location.rank shown = location.rank shown := by
  obtain ⟨rfl, hkept, hready⟩ := hp
  obtain ⟨-, heq⟩ | ⟨-, heq⟩ | ⟨-, heq⟩ | ⟨location, hlocation, heq⟩ := p.goTo_dispatch term n
  · rw [heq] at h
    exact NavOutcome.noConfusion h.eq_of_done
  · rw [heq] at h
    exact NavOutcome.noConfusion h.eq_of_done
  · rw [heq] at h
    exact NavOutcome.noConfusion h.eq_of_done
  · rw [heq] at h
    have hcounted := (Transcript.countAll_of_isRightOf hkept term).2
    rw [Transcript.locate?_of_isRightOf hcounted] at hlocation
    obtain ⟨⟨hpos, hle⟩, -⟩ := Transcript.rank_of_locate? hlocation
    have hindex : location.item < p.transcript.size :=
      Transcript.lt_size_of_itemCount_pos (Nat.lt_of_lt_of_le hpos hle)
    let counted := ({ p with tickets := p.tickets.issue.2 }.count term).2
    have hsuppressed : ready counted.suppressFollowing.surface :=
      ready_suppressFollowing hfollowing hready
    obtain ⟨hrevealed, hvisible⟩ := laws.reveals hsuppressed hindex
    have hlanded : (landToEnd p.transcript (p.transcript.countAll p.kept term).2 term settle
        (reveal p.transcript settle counted.suppressFollowing.surface location.item) location.item
        location.occurrence).1 = .found target := h.of_approach
    have hends := laws.endsBySum hcounted hshown hrevealed (fun _ => hvisible) hpos
    rw [hlanded] at hends
    exact ⟨location, hlocation, hends.rank_eq⟩

/-- On a surface that shows a fixed number of occurrences of each item, no more than the item
holds, a greater number is found before a smaller one just if the smaller one is so far on in its
item that it passes what is shown from there to the greater one.  If the item of the smaller
number shows it, or is the item of both, the greater one is found behind it. -/
theorem found_before_iff (laws : ShowsFixedCounts t term shown settle ready visible)
    (hfollowing : ∀ s following, ready s → ready (setFollowing s t following))
    (hshown : ∀ j < t.size, shown j ≤ t.itemCount none term j) {p p' : FindPanel σ}
    (hp : p.Shows t ready) (hp' : p'.Shows t ready) {n n' : Nat} (hlt : n < n')
    {target target' : MatchTarget} (hfound : ComesTo settle (p.goTo term n) (.found target))
    (hfound' : ComesTo settle (p'.goTo term n') (.found target')) :
    ∃ location location', t.locate? none term n = some location ∧
      t.locate? none term n' = some location' ∧ location.Before location' ∧
      (target'.location.Before target.location ↔
        location'.occurrence + ∑ k ∈ Ico location.item location'.item, shown k <
          location.occurrence) ∧
      (location.item = location'.item ∨ location.occurrence ≤ shown location.item →
        target.location.Before target'.location) := by
  obtain ⟨location, hlocation, hwithin, hrank⟩ := hfound.rank_of_goTo laws hfollowing hshown hp
  obtain ⟨location', hlocation', hwithin', hrank'⟩ :=
    hfound'.rank_of_goTo laws hfollowing hshown hp'
  obtain ⟨hheld, hnumber⟩ := Transcript.rank_of_locate? hlocation
  obtain ⟨hheld', hnumber'⟩ := Transcript.rank_of_locate? hlocation'
  have hbefore : location.Before location' := by
    rw [hheld.before_iff hheld', hnumber, hnumber']
    exact hlt
  refine ⟨location, location', hlocation, hlocation', hbefore, ?_, fun hreached => ?_⟩
  · have hitem : location.item ≤ location'.item := by
      rcases hbefore with hitem | ⟨hitem, -⟩
      · exact hitem.le
      · exact hitem.le
    rw [hwithin'.before_iff hwithin, hrank, hrank', Location.rank_eq_add shown hitem,
      Location.rank]
    omega
  · rw [hwithin.before_iff hwithin', hrank, hrank']
    exact hbefore.rank_lt hreached hheld'.1

theorem found_before_iff_collapsed :
    let panel : FindPanel PagedSurface := .new collapsedMatches collapsedSurface {}
    let settle : Nat → PagedSurface → PagedSurface := fun _ s => s.settle collapsedMatches
    let shown := collapsedSurface.shownCount collapsedMatches errorTerm
    ShowsFixedCounts collapsedMatches "error" shown settle collapsedSurface.ShowsLike
        (fun s index => s.window.contains index = true) ∧
      (∀ s following, collapsedSurface.ShowsLike s →
        collapsedSurface.ShowsLike (setFollowing s collapsedMatches following)) ∧
      (∀ j < collapsedMatches.size, shown j ≤ collapsedMatches.itemCount none "error" j) ∧
      panel.Shows collapsedMatches collapsedSurface.ShowsLike ∧ 2 < 4 ∧
      ∃ target target', ComesTo settle (panel.goTo "error" 2) (.found target) ∧
        ComesTo settle (panel.goTo "error" 4) (.found target') ∧
        ∃ location location', collapsedMatches.locate? none "error" 2 = some location ∧
          collapsedMatches.locate? none "error" 4 = some location' ∧ location.Before location' ∧
          (target'.location.Before target.location ↔
            location'.occurrence + ∑ k ∈ Ico location.item location'.item, shown k <
              location.occurrence) ∧
          (location.item = location'.item ∨ location.occurrence ≤ shown location.item →
            target.location.Before target'.location) := by
  intro panel settle shown
  have hids : (collapsedMatches.items.map (·.id)).Nodup := by decide +kernel
  have laws : ShowsFixedCounts collapsedMatches "error" shown settle collapsedSurface.ShowsLike
      fun s index => s.window.contains index = true :=
    PagedSurface.showsFixedCounts hids rfl rfl (by decide)
  have hfollowing : ∀ s following, collapsedSurface.ShowsLike s →
      collapsedSurface.ShowsLike (setFollowing s collapsedMatches following) :=
    fun s following h => ⟨h.page_eq, h.replacedRows_eq, h.claimedCounts_eq⟩
  have hshown : ∀ j < collapsedMatches.size,
      shown j ≤ collapsedMatches.itemCount none "error" j := by decide +kernel
  have hpanel : panel.Shows collapsedMatches collapsedSurface.ShowsLike :=
    ⟨rfl, by simp [panel, new], ⟨rfl, rfl, rfl⟩⟩
  have hsecond : ComesTo settle (panel.goTo "error" 2)
      (.found ⟨4, "event-4", 1, ⟨"event-4", 4, 1, 4, 9⟩⟩) :=
    .waits (show (panel.goTo "error" 2).1 = .waiting ⟨"error", 1, 4, 1⟩ by decide +kernel)
      (.done (by decide +kernel))
  have hfourth : ComesTo settle (panel.goTo "error" 4)
      (.found ⟨4, "event-4", 1, ⟨"event-4", 4, 1, 4, 9⟩⟩) :=
    .waits (show (panel.goTo "error" 4).1 = .waiting ⟨"error", 1, 4, 1⟩ by decide +kernel)
      (.done (by decide +kernel))
  exact ⟨laws, hfollowing, hshown, hpanel, by decide, _, _, hsecond, hfourth,
    found_before_iff laws hfollowing hshown hpanel hpanel (by decide) hsecond hfourth⟩

/-- Two items with two occurrences each, of which the first item shows none. -/
def hiddenPair : FindPanel PagedSurface :=
  let pairs := Transcript.ofEvents (List.replicate 2 ⟨none, none, .input "match match"⟩)
  .new pairs ((PagedSurface.new pairs 3).replaceRows "event-0" ["Input"] true) {}

def matchTerm : SearchTerm :=
  ⟨"match".toList, true, by decide⟩

/-- The second occurrence is hidden with the first and so is found behind the third one. -/
theorem found_before_hidden :
    let t := hiddenPair.transcript
    let settle : Nat → PagedSurface → PagedSurface := fun _ s => s.settle t
    let shown := hiddenPair.surface.shownCount t matchTerm
    let second := hiddenPair.goTo "match" 2
    let third := second.2.goTo "match" 3
    ShowsFixedCounts t "match" shown settle hiddenPair.surface.ShowsLike
        (fun s index => s.window.contains index = true) ∧
      (t.items.map (·.id)).Nodup ∧ (∀ j < t.size, shown j ≤ t.itemCount none "match" j) ∧
      ∃ target target', ComesTo settle second (.found target) ∧
        ComesTo settle third (.found target') ∧ target.location = ⟨1, 2⟩ ∧
        target'.location = ⟨1, 1⟩ ∧ target'.location.Before target.location := by
  intro t settle shown second third
  have hids : (t.items.map (·.id)).Nodup := by decide +kernel
  have laws : ShowsFixedCounts t "match" shown settle hiddenPair.surface.ShowsLike
      fun s index => s.window.contains index = true :=
    PagedSurface.showsFixedCounts hids rfl rfl (by decide)
  have hsecond : ComesTo settle second (.found ⟨1, "event-1", 2, ⟨"event-1", 1, 1, 6, 11⟩⟩) :=
    .done (by decide +kernel)
  have hthird : ComesTo settle third (.found ⟨1, "event-1", 1, ⟨"event-1", 1, 1, 0, 5⟩⟩) :=
    .done (by decide +kernel)
  exact ⟨laws, hids, by decide +kernel, _, _, hsecond, hthird, rfl, rfl, by decide⟩

end FindPanel

end TranscriptSearch
