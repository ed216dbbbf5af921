import TranscriptSearch.Find.Landing
import TranscriptSearch.Proofs.Transcript.Lookup

namespace TranscriptSearch

open RenderSurface

variable {σ : Type} [RenderSurface σ]

theorem land_eq (t : Transcript) (kept : Option KeptCounts) (term : String) (live : Bool)
    (surface : σ) (index occurrence : Nat) :
    land t kept term live surface index occurrence =
      match t.item? index with
      | none => (.done (.notFound .reconciliationExhausted), surface)
      | some item =>
        let (shown, surface) := occurrenceCount surface t item.id term
        if occurrence ≤ shown then
          match locate surface t item.id term occurrence with
          | (some span, surface) => (.done (.found ⟨index, item.id, occurrence, span⟩), surface)
          | (none, surface) => (.done (.notFound .renderedSpanMissing), surface)
        else
          match t.itemFrom? kept term (index + 1) with
          | none => (.done (.notFound .reconciliationExhausted), surface)
          | some next =>
            match ensureVisible surface t next (!live) with
            | (some .cancelled, surface) => (.done .superseded, surface)
            | (some _, surface) => land t kept term live surface next (occurrence - shown)
            | (none, surface) => (.waiting next (occurrence - shown), surface) := by
  rw [land]
  split
  · next hitem => rw [hitem]
  · next item hitem =>
      rw [hitem]
      simp only
      split
      · rfl
      · split
        · next hnext => rw [hnext]
        · next hnext => exact hnext ▸ rfl

/-- What every request of a round keeps holds after all rounds. -/
theorem land_keeps {t : Transcript} {term : String} {P : σ → Prop}
    (hcount : ∀ s itemId, P s → P (occurrenceCount s t itemId term).2)
    (hlocate : ∀ s itemId n, P s → P (locate s t itemId term n).2)
    (hvisible : ∀ s index cancelled, P s → P (ensureVisible s t index cancelled).2)
    (kept : Option KeptCounts) (live : Bool) {s : σ} (h : P s) (index occurrence : Nat) :
    P (land t kept term live s index occurrence).2 := by
  have hcounted : ∀ {s counted : σ} {item : Item} {shown : Nat}, P s →
      occurrenceCount s t item.id term = (shown, counted) → P counted := by
    intro s counted item shown hs heq
    have hkept := hcount s item.id hs
    rwa [heq] at hkept
  have hlocated : ∀ {s located : σ} {item : Item} {n : Nat} {span}, P s →
      locate s t item.id term n = (span, located) → P located := by
    intro s located item n span hs heq
    have hkept := hlocate s item.id n hs
    rwa [heq] at hkept
  have hseen : ∀ {s seen : σ} {next : Nat} {how}, P s →
      ensureVisible s t next (!live) = (how, seen) → P seen := by
    intro s seen next how hs heq
    have hkept := hvisible s next (!live) hs
    rwa [heq] at hkept
  fun_induction land t kept term live s index occurrence with
  | case1 s index occurrence hitem => exact h
  | case2 s index occurrence item hitem shown counted hcounts hle span located hspan =>
      exact hlocated (hcounted h hcounts) hspan
  | case3 s index occurrence item hitem shown counted hcounts hle located hspan =>
      exact hlocated (hcounted h hcounts) hspan
  | case4 s index occurrence item hitem shown counted hcounts hgt hnext =>
    exact hcounted h hcounts
  | case5 s index occurrence item hitem shown counted hcounts hgt next hnext seen hvisited =>
      exact hseen (hcounted h hcounts) hvisited
  | case6 s index occurrence item hitem shown counted hcounts hgt next hnext how seen
    hhow hvisited ih =>
      exact ih (hseen (hcounted h hcounts) hvisited)
  | case7 s index occurrence item hitem shown counted hcounts hgt next hnext seen hvisited =>
      exact hseen (hcounted h hcounts) hvisited

theorem lt_of_land_waiting {t : Transcript} {kept : Option KeptCounts} {term : String}
    {live : Bool}
    {s waiting : σ} {index occurrence next wanted : Nat}
    (h : land t kept term live s index occurrence = (.waiting next wanted, waiting)) :
    index < next ∧ next < t.size := by
  fun_induction land t kept term live s index occurrence with
  | case1 s index occurrence hitem => simp at h
  | case2 s index occurrence item hitem shown counted hcount hle span located hlocate => simp at h
  | case3 s index occurrence item hitem shown counted hcount hle located hlocate => simp at h
  | case4 s index occurrence item hitem shown counted hcount hgt hnext => simp at h
  | case5 s index occurrence item hitem shown counted hcount hgt following hnext seen hseen =>
      simp at h
  | case6 s index occurrence item hitem shown counted hcount hgt following hnext how
    seen hhow hseen ih =>
      obtain ⟨hlater, hsize⟩ := ih h
      exact ⟨Nat.lt_trans (Transcript.le_of_itemFrom? hnext) hlater, hsize⟩
  | case7 s index occurrence item hitem shown counted hcount hgt following hnext seen hseen =>
      obtain ⟨⟨rfl, -⟩, -⟩ : (following = next ∧ _) ∧ _ := by simpa using h
      exact ⟨Transcript.le_of_itemFrom? hnext, Transcript.lt_size_of_itemFrom? hnext⟩

theorem le_of_land_found {t : Transcript} {kept : Option KeptCounts} {term : String} {live : Bool}
    {s : σ} {index occurrence : Nat} {target : MatchTarget}
    (h : (land t kept term live s index occurrence).1 = .done (.found target)) :
    index ≤ target.itemIndex := by
  fun_induction land t kept term live s index occurrence with
  | case2 s index occurrence item hitem shown counted hcount hle span located hlocate =>
      obtain rfl := NavOutcome.found.inj (Landing.done.inj h)
      exact Nat.le_refl index
  | case6 s index occurrence item hitem shown counted hcount hgt next hnext how seen
    hhow hseen ih =>
      exact Nat.le_of_lt (Nat.lt_of_lt_of_le (Transcript.le_of_itemFrom? hnext) (ih h))
  | case7 s index occurrence item hitem shown counted hcount hgt next hnext seen hseen =>
      exact Landing.noConfusion h
  | _ => exact NavOutcome.noConfusion (Landing.done.inj h)

/-- Finds an occurrence from a visible item on, through all waits.  What the surface has become
when the wait for an item is over is told by `settle`. -/
def landToEnd (t : Transcript) (kept : Option KeptCounts) (term : String) (settle : Nat → σ → σ)
    (surface : σ) (index occurrence : Nat) : NavOutcome × σ :=
  match _landing : land t kept term true surface index occurrence with
  | (.done outcome, surface) => (outcome, surface)
  | (.waiting next wanted, surface) =>
    landToEnd t kept term settle (endScroll (settle next surface)) next wanted
termination_by t.size - index
decreasing_by
  obtain ⟨later, inside⟩ := lt_of_land_waiting _landing
  omega

section Rounds

variable {t : Transcript} {kept : Option KeptCounts} {term : String} {settle : Nat → σ → σ}
  {s after : σ} {index occurrence : Nat}

theorem landToEnd_of_done {outcome : NavOutcome}
    (h : land t kept term true s index occurrence = (.done outcome, after)) :
    landToEnd t kept term settle s index occurrence = (outcome, after) := by
  rw [landToEnd]
  split
  · next hland =>
      obtain ⟨heq, rfl⟩ := Prod.mk.inj (h.symm.trans hland)
      rw [Landing.done.inj heq]
  · next hland => exact Landing.noConfusion (Prod.mk.inj (h.symm.trans hland)).1

theorem landToEnd_of_waiting {next wanted : Nat}
    (h : land t kept term true s index occurrence = (.waiting next wanted, after)) :
    landToEnd t kept term settle s index occurrence =
      landToEnd t kept term settle (endScroll (settle next after)) next wanted := by
  rw [landToEnd]
  split
  · next hland => exact Landing.noConfusion (Prod.mk.inj (h.symm.trans hland)).1
  · next hland =>
      obtain ⟨heq, rfl⟩ := Prod.mk.inj (h.symm.trans hland)
      obtain ⟨rfl, rfl⟩ := Landing.waiting.inj heq
      rfl

theorem landToEnd_congr {next wanted : Nat} (h : land t kept term true s index occurrence =
    land t kept term true after next wanted) :
    landToEnd t kept term settle s index occurrence =
      landToEnd t kept term settle after next wanted := by
  rcases hland : land t kept term true after next wanted with ⟨outcome | ⟨later, more⟩, last⟩
  · rw [landToEnd_of_done hland, landToEnd_of_done (h.trans hland)]
  · rw [landToEnd_of_waiting hland, landToEnd_of_waiting (h.trans hland)]

end Rounds

/-- The surface after an item has been brought into the window, where the wait for it is over if
there was one. -/
def reveal (t : Transcript) (settle : Nat → σ → σ) (surface : σ) (index : Nat) : σ :=
  match ensureVisible surface t index false with
  | (some _, surface) => surface
  | (none, surface) => endScroll (settle index surface)

theorem ensureVisible_ne_cancelled (s : σ) (t : Transcript) (index : Nat) :
    (ensureVisible s t index false).1 ≠ some .cancelled := by
  rw [ensureVisible, if_neg Bool.false_ne_true]
  split
  · simp
  · simp only
    split <;> simp

theorem landToEnd_eq (t : Transcript) (kept : Option KeptCounts) (term : String)
    (settle : Nat → σ → σ) (s : σ) (index occurrence : Nat) :
    landToEnd t kept term settle s index occurrence =
      match t.item? index with
      | none => (.notFound .reconciliationExhausted, s)
      | some item =>
        let (shown, s) := occurrenceCount s t item.id term
        if occurrence ≤ shown then
          match locate s t item.id term occurrence with
          | (some span, s) => (.found ⟨index, item.id, occurrence, span⟩, s)
          | (none, s) => (.notFound .renderedSpanMissing, s)
        else
          match t.itemFrom? kept term (index + 1) with
          | none => (.notFound .reconciliationExhausted, s)
          | some next =>
            landToEnd t kept term settle (reveal t settle s next) next (occurrence - shown) := by
  have hland := land_eq t kept term true s index occurrence
  cases hitem : t.item? index with
  | none =>
      rw [hitem] at hland
      exact landToEnd_of_done hland
  | some item =>
      rcases hcount : occurrenceCount s t item.id term with ⟨shown, counted⟩
      simp only [hitem, hcount] at hland ⊢
      split at hland
      · next hle =>
          rw [if_pos hle]
          rcases hlocate : locate counted t item.id term occurrence with ⟨_ | span, located⟩
          · rw [hlocate] at hland
            exact landToEnd_of_done hland
          · rw [hlocate] at hland
            exact landToEnd_of_done hland
      · next hgt =>
          rw [if_neg hgt]
          cases hnext : t.itemFrom? kept term (index + 1) with
          | none =>
              rw [hnext] at hland
              exact landToEnd_of_done hland
          | some next =>
              -- Nothing cancels a round that is live, so it goes on at once or waits.
              have hcancelled := ensureVisible_ne_cancelled counted t next
              simp only [hnext, Bool.not_true] at hland
              simp only [reveal]
              rcases hvisible : ensureVisible counted t next false with ⟨_ | how, seen⟩
              · rw [hvisible] at hland
                exact landToEnd_of_waiting hland
              · rw [hvisible] at hland hcancelled
                cases how with
                | cancelled => exact absurd rfl hcancelled
                | alreadyVisible => exact landToEnd_congr hland
                | scrolled => exact landToEnd_congr hland
                | timedOut => exact landToEnd_congr hland

end TranscriptSearch
