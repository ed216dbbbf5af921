import TranscriptSearch.Proofs.Screen.Measured

namespace TranscriptSearch.ScrollState

variable {s after : ScrollState} {lines viewport : Nat}

theorem offset_scrollUp (s : ScrollState) (lines viewport : Nat) :
    (s.scrollUp lines viewport).offset viewport = s.offset viewport - lines := by
  have hle : s.offset viewport - lines ≤ s.maxOffset viewport :=
    Nat.le_trans (Nat.sub_le _ _) (s.offset_le_maxOffset viewport)
  exact Nat.min_eq_left hle

theorem scrollDown?_of_isFollowing (h : s.isFollowing = true) (lines viewport : Nat) :
    s.scrollDown? lines viewport = some s :=
  if_pos h

theorem scrollDown?_eq_none_iff :
    s.scrollDown? lines viewport = none ↔
      s.isFollowing = false ∧ UInt64.size ≤ s.offset viewport + lines := by
  cases hfollowing : s.isFollowing with
  | true => simp [scrollDown?_of_isFollowing hfollowing]
  | false => simp [scrollDown?, hfollowing, addWords?_eq_none_iff]

theorem offset_of_scrollDown? (h : s.scrollDown? lines viewport = some after) :
    after.offset viewport = min (s.offset viewport + lines) (s.maxOffset viewport) ∨
      s.isFollowing = true ∧ after = s := by
  cases hfollowing : s.isFollowing with
  | true =>
      rw [scrollDown?_of_isFollowing hfollowing, Option.some.injEq] at h
      exact .inr ⟨rfl, h.symm⟩
  | false =>
      rw [scrollDown?, hfollowing, if_neg Bool.false_ne_true] at h
      obtain ⟨line, hline, hafter⟩ := Option.map_eq_some_iff.mp h
      obtain ⟨-, rfl⟩ := addWords?_eq_some_iff.mp hline
      left
      split at hafter
      · next hend =>
          rw [← hafter]
          exact (Nat.min_eq_right hend).symm
      · rw [← hafter]
        rfl

theorem maxOffset_of_scrollDown? (h : s.scrollDown? lines viewport = some after) :
    after.maxOffset viewport = s.maxOffset viewport := by
  rw [maxOffset, maxOffset, totalLines, totalLines, heights_of_scrollDown? h]

theorem offset_le_offset_of_scrollDown? (h : s.scrollDown? lines viewport = some after) :
    s.offset viewport ≤ after.offset viewport := by
  rcases offset_of_scrollDown? h with hoffset | ⟨-, rfl⟩
  · rw [hoffset]
    exact Nat.le_min.mpr ⟨Nat.le_add_right _ _, s.offset_le_maxOffset viewport⟩
  · exact Nat.le_refl _

theorem exists_scrollDown?_scrollUp (htotal : s.totalLines < UInt64.size)
    (hlines : lines ≤ s.offset viewport) :
    ∃ back, (s.scrollUp lines viewport).scrollDown? lines viewport = some back ∧
      back.offset viewport = s.offset viewport := by
  have hle := s.offset_le_maxOffset viewport
  have hmax : s.maxOffset viewport ≤ s.totalLines := Nat.sub_le _ _
  have hup := s.offset_scrollUp lines viewport
  have hmoves : (s.scrollUp lines viewport).scrollDown? lines viewport ≠ none := by
    rw [ne_eq, scrollDown?_eq_none_iff]
    omega
  obtain ⟨back, hback⟩ := Option.ne_none_iff_exists'.mp hmoves
  refine ⟨back, hback, ?_⟩
  rcases offset_of_scrollDown? hback with hoffset | ⟨hfollowing, -⟩
  · rw [hoffset, hup, Nat.sub_add_cancel hlines]
    exact Nat.min_eq_left hle
  · exact absurd hfollowing Bool.false_ne_true

/-- A move down fails just if the viewport does not follow the end and the line it should come to
is too large for a word.  Else it leads neither up nor below the end.  A move up never leads down,
and when it does not stop at the top, a move down over as many lines leads back. -/
theorem scrolls_within (s : ScrollState) (lines : UInt64) (viewport : Nat) :
    (s.scrollDown? lines.toNat viewport = none ↔
        s.isFollowing = false ∧ UInt64.size ≤ s.offset viewport + lines.toNat) ∧
      (∀ after, s.scrollDown? lines.toNat viewport = some after →
        s.offset viewport ≤ after.offset viewport ∧
          after.offset viewport ≤ s.totalLines - viewport) ∧
      (s.scrollUp lines.toNat viewport).offset viewport ≤ s.offset viewport ∧
      (s.totalLines < UInt64.size → lines.toNat ≤ s.offset viewport →
        ∃ back, (s.scrollUp lines.toNat viewport).scrollDown? lines.toNat viewport = some back ∧
          back.offset viewport = s.offset viewport) := by
  refine ⟨scrollDown?_eq_none_iff,
    fun after hafter => ⟨offset_le_offset_of_scrollDown? hafter, ?_⟩,
    ?_, fun htotal hlines => exists_scrollDown?_scrollUp htotal hlines⟩
  · have hle := after.offset_le_maxOffset viewport
    rwa [maxOffset_of_scrollDown? hafter] at hle
  · rw [offset_scrollUp]
    exact Nat.sub_le _ _

/-- Three items of nine lines, of which a viewport of four lines shows the last ones without
following the end. -/
def stoppedAtEnd : ScrollState :=
  (empty.setHeights [2, 3, 1]).stopFollowing 4

theorem scrolls_within_stoppedAtEnd :
    stoppedAtEnd.totalLines < UInt64.size ∧ (5 : UInt64).toNat ≤ stoppedAtEnd.offset 4 ∧
      (stoppedAtEnd.scrollUp 5 4).offset 4 = 0 ∧
      (∃ back, (stoppedAtEnd.scrollUp 5 4).scrollDown? 5 4 = some back ∧
        back.offset 4 = stoppedAtEnd.offset 4) ∧
      ∃ after, stoppedAtEnd.scrollDown? 5 4 = some after ∧
        stoppedAtEnd.offset 4 ≤ after.offset 4 ∧
          after.offset 4 ≤ stoppedAtEnd.totalLines - 4 := by
  obtain ⟨-, hdown, -, hback⟩ := scrolls_within stoppedAtEnd 5 4
  exact ⟨by decide, by decide, by decide, hback (by decide) (by decide), stoppedAtEnd.follow, rfl,
    hdown _ rfl⟩

/-- A move by the largest number of lines fails where the top is not at the first line. -/
theorem scrollDown?_stoppedAtEnd_last :
    stoppedAtEnd.isFollowing = false ∧ stoppedAtEnd.offset 4 = 5 ∧ stoppedAtEnd.totalLines = 9 ∧
      stoppedAtEnd.scrollDown? (18446744073709551615 : UInt64).toNat 4 = none := by
  decide

end TranscriptSearch.ScrollState
