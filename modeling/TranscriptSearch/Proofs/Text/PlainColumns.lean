import TranscriptSearch.Proofs.Text.ColumnRows

namespace TranscriptSearch.Text

/-- Whether a character is one of printable ASCII. -/
def isPrintable (c : Char) : Bool :=
  0x20 ≤ c.toNat && c.toNat < 0x7F

/-- Whether a character is printable, the marker of a header or an ellipsis. -/
def isPlain (c : Char) : Bool :=
  isPrintable c || c == '▸' || c == '…'

theorem isPlain_of_isPrintable {c : Char} (h : isPrintable c = true) : isPlain c = true := by
  simp [isPlain, h]

theorem isPlain_cases {c : Char} (h : isPlain c = true) :
    isPrintable c = true ∨ c = '▸' ∨ c = '…' := by
  simpa [isPlain, or_assoc] using h

theorem charColumns_of_isPlain {c : Char} (h : isPlain c = true) : charColumns c = 1 := by
  rcases isPlain_cases h with h | rfl | rfl
  · simp only [charColumns, isPrintable] at h ⊢
    rw [if_pos h]
  · decide +kernel
  · decide +kernel

theorem add_of_isPlain {c : Char} (h : isPlain c = true) : ({} : Following).add c = (1, {}) := by
  rcases isPlain_cases h with h | rfl | rfl
  · simp only [isPrintable, Bool.and_eq_true, decide_eq_true_eq] at h
    have hfeed : c ≠ '\n' := by
      rintro rfl
      exact absurd h.1 (by decide)
    simp only [Following.add, Behind.add]
    rw [if_pos (by omega), if_neg hfeed, if_neg (by simp)]
  · decide +kernel
  · decide +kernel

theorem measure_of_isPlain {cs : List Char} (h : ∀ c ∈ cs, isPlain c = true) :
    measure cs = ((cs.length : Int), {}) := by
  induction cs with
  | nil => rfl
  | cons c cs ih =>
      have hrest := ih fun c hc => h c (by simp [hc])
      simp only [measure, hrest, add_of_isPlain (h c (by simp)), List.length_cons]
      rfl

theorem columns_of_isPlain {cs : List Char} (h : ∀ c ∈ cs, isPlain c = true) :
    columns cs = cs.length := by
  rw [columns, measure_of_isPlain h, Int.toNat_natCast]

theorem columns_of_isPrintable {cs : List Char} (h : ∀ c ∈ cs, isPrintable c = true) :
    columns cs = cs.length :=
  columns_of_isPlain fun c hc => isPlain_of_isPrintable (h c hc)

theorem columnSum_of_isPlain {cs : List Char} (h : ∀ c ∈ cs, isPlain c = true) :
    columnSum charColumns cs = cs.length := by
  induction cs with
  | nil => rfl
  | cons c cs ih =>
      rw [columnSum_cons, charColumns_of_isPlain (h c (by simp)),
        ih fun c hc => h c (by simp [hc]), List.length_cons, Nat.add_comm]

theorem length_le_of_isWithin {width : Nat} (hwidth : 0 < width) {row : List Char}
    (hplain : ∀ c ∈ row, isPlain c = true) (h : IsWithin charColumns width row) :
    row.length ≤ width := by
  rcases h with h | h
  · rwa [columnSum_of_isPlain hplain] at h
  · have hall : row.countP (0 < charColumns ·) = row.length := by
      rw [List.countP_eq_length]
      intro c hc
      simp [charColumns_of_isPlain (hplain c hc)]
    omega

theorem clip_of_isPlain {cs : List Char} (h : ∀ c ∈ cs, isPlain c = true) (width : Nat) :
    clip width cs = cs.take width := by
  induction cs generalizing width with
  | nil => simp [clip]
  | cons c cs ih =>
      rw [clip, charColumns_of_isPlain (h c (by simp))]
      cases width with
      | zero => rfl
      | succ width =>
          rw [if_pos (by omega), ih fun c hc => h c (by simp [hc])]
          rfl

end TranscriptSearch.Text
