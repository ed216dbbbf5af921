import TranscriptSearch.Text.Blank
import TranscriptSearch.Text.Case

namespace TranscriptSearch.Text

def blankCodes : List Nat :=
  [9, 10, 11, 12, 13, 0x20, 0x85, 0xA0, 0x1680, 0x2000, 0x2001, 0x2002, 0x2003, 0x2004,
    0x2005, 0x2006, 0x2007, 0x2008, 0x2009, 0x200A, 0x2028, 0x2029, 0x202F, 0x205F, 0x3000]

theorem isBlank_iff {c : Char} : isBlank c = true ↔ c.toNat ∈ blankCodes := by
  simp only [isBlank, blankCodes, Bool.or_eq_true, Bool.and_eq_true,
    decide_eq_true_eq, beq_iff_eq, List.mem_cons, List.not_mem_nil, or_false]
  omega

theorem mem_blankCodes_of_isBlank_ofNat {n : Nat} (h : isBlank (.ofNat n) = true) :
    n ∈ blankCodes := by
  rw [isBlank_iff] at h
  by_cases hvalid : n.isValidChar
  · have hcode : (Char.ofNat n).toNat = n := by
      rw [Char.ofNat, dif_pos hvalid]
      rfl
    rwa [hcode] at h
  · -- No character has the code, so it stands for the null character, which is no white space.
    have hnull : Char.ofNat n = '\x00' := dif_neg hvalid
    rw [hnull] at h
    exact absurd h (by decide)

theorem lower_ofNat_of_mem_blankCodes : ∀ n ∈ blankCodes, lower (.ofNat n) = [.ofNat n] := by
  decide +kernel

theorem contains_eq_false_of_mem_blankCodes :
    ∀ run ∈ caseRuns, ∀ n ∈ blankCodes, run.contains (n - run.shift).toNat = false := by
  decide +kernel

theorem lower_of_isBlank {c : Char} (h : isBlank c = true) : lower c = [c] := by
  have hlower := lower_ofNat_of_mem_blankCodes c.toNat (isBlank_iff.mp h)
  rwa [Char.ofNat_toNat] at hlower

theorem isBlank_asciiLower (c : Char) : isBlank (asciiLower c) = isBlank c := by
  rw [asciiLower]
  split
  · next hletter =>
      have hfirst : 65 ≤ c.toNat := hletter.1
      have hlast : c.toNat ≤ 90 := hletter.2
      have hc : isBlank c = false := by
        simp only [isBlank]
        simp
        omega
      have hlower : isBlank (.ofNat (c.toNat + 32)) ≠ true := by
        intro hblank
        have hcode := mem_blankCodes_of_isBlank_ofNat hblank
        simp only [blankCodes, List.mem_cons, List.not_mem_nil, or_false] at hcode
        omega
      rw [hc, Bool.eq_false_iff]
      exact hlower
  · rfl

theorem isBlank_of_mem_lower {c d : Char} (hd : d ∈ lower c) (hblank : isBlank d = true) :
    isBlank c = true := by
  rw [lower] at hd
  split at hd
  · rw [List.mem_singleton.mp hd, isBlank_asciiLower] at hblank
    exact hblank
  · split at hd
    · rcases List.mem_cons.mp hd with rfl | hd
      · exact absurd hblank (by decide)
      · rw [List.mem_singleton.mp hd] at hblank
        exact absurd hblank (by decide)
    · split at hd
      · next run hrun =>
          rw [List.mem_singleton.mp hd] at hblank
          have hcode := mem_blankCodes_of_isBlank_ofNat hblank
          have hnone :=
            contains_eq_false_of_mem_blankCodes run (List.mem_of_find?_eq_some hrun) _ hcode
          have hpos : (c.toNat + run.shift).toNat ≠ 0 := by
            intro hzero
            rw [hzero] at hcode
            exact absurd hcode (by decide)
          have hback : ((c.toNat + run.shift).toNat - run.shift).toNat = c.toNat := by omega
          have hcontains := List.find?_some hrun
          rw [hback] at hnone
          exact absurd (hcontains.symm.trans hnone) (by decide)
      · rw [List.mem_singleton.mp hd] at hblank
        exact hblank

end TranscriptSearch.Text
