import Mathlib.Logic.Function.Iterate
import TranscriptSearch.Proofs.Find.SessionLabels

namespace TranscriptSearch

def Direction.opposite : Direction → Direction
  | .forward => .backward
  | .backward => .forward

section Step

variable {total c : Nat}

theorem step_forward (htotal : 0 < total) (c : Nat) :
    step (some c) total .forward = some (c % total + 1) :=
  if_neg (Nat.ne_of_gt htotal)

theorem step_backward (htotal : 0 < total) (c : Nat) :
    step (some c) total .backward = some (if c ≤ 1 ∨ total < c then total else c - 1) :=
  if_neg (Nat.ne_of_gt htotal)

theorem step_none_forward (htotal : 0 < total) : step none total .forward = some 1 :=
  if_neg (Nat.ne_of_gt htotal)

theorem step_none_backward (htotal : 0 < total) : step none total .backward = some total :=
  if_neg (Nat.ne_of_gt htotal)

theorem exists_step (htotal : 0 < total) (current : Option Nat) (direction : Direction) :
    ∃ index, step current total direction = some index := by
  rcases current with _ | c
  · cases direction with
    | forward => exact ⟨_, step_none_forward htotal⟩
    | backward => exact ⟨_, step_none_backward htotal⟩
  · cases direction with
    | forward => exact ⟨_, step_forward htotal c⟩
    | backward => exact ⟨_, step_backward htotal c⟩

theorem step_opposite (hpos : 0 < c) (hle : c ≤ total) (direction : Direction) :
    ((step (some c) total direction).bind fun index =>
      step (some index) total direction.opposite) = some c := by
  have htotal : 0 < total := Nat.lt_of_lt_of_le hpos hle
  cases direction with
  | forward =>
      rw [step_forward htotal, Option.bind_some]
      change step (some (c % total + 1)) total .backward = some c
      rw [step_backward htotal]
      apply congrArg some
      rcases Nat.eq_or_lt_of_le hle with rfl | hlt
      · rw [Nat.mod_self, if_pos (.inl (Nat.le_refl 1))]
      · rw [Nat.mod_eq_of_lt hlt, if_neg (by omega), Nat.add_sub_cancel]
  | backward =>
      rw [step_backward htotal, Option.bind_some]
      change step (some (if c ≤ 1 ∨ total < c then total else c - 1)) total .forward = some c
      rw [step_forward htotal]
      apply congrArg some
      split
      · next hfirst =>
          rw [Nat.mod_self]
          omega
      · next hlater =>
          rw [Nat.mod_eq_of_lt (by omega)]
          omega

theorem iterate_step_forward (htotal : 0 < total) (n : Nat) :
    (step · total .forward)^[n + 1] none = some (n % total + 1) := by
  induction n with
  | zero => rw [Function.iterate_one, step_none_forward htotal, Nat.zero_mod]
  | succ n ih => rw [Function.iterate_succ_apply', ih, step_forward htotal, Nat.mod_add_mod]

theorem step_backward_of_lt (htotal : 0 < total) (hstale : total < c) :
    step (some c) total .backward = step none total .backward := by
  rw [step_backward htotal, step_none_backward htotal, if_pos (.inr hstale)]

theorem step_forward_eq_none_iff (htotal : 0 < total) (c : Nat) :
    step (some c) total .forward = step none total .forward ↔ total ∣ c := by
  rw [step_forward htotal, step_none_forward htotal, Nat.dvd_iff_mod_eq_zero, Option.some_inj,
    Nat.add_eq_right]

end Step

/-- Whether the cursor of a session, if it has one, is at one of the occurrences. -/
def FindSession.CursorInRange (s : FindSession) : Prop :=
  ∀ c, s.current = some c → 0 < c ∧ c ≤ s.total

namespace SessionRun

variable {r : SessionRun}

theorem cursorInRange_updateTotal {s : FindSession} (h : s.CursorInRange) (total : Nat) :
    (s.updateTotal total).CursorInRange := by
  by_cases hterm : s.term = none
  · rwa [FindSession.updateTotal_of_none hterm]
  · intro c hc
    rw [FindSession.current_updateTotal hterm] at hc
    rw [FindSession.total_updateTotal hterm]
    split at hc
    · exact absurd hc (Option.some_ne_none c).symm
    · next hkept =>
        rw [hc, Option.any_some, decide_eq_true_eq] at hkept
        exact ⟨(h c hc).1, Nat.le_of_not_lt hkept⟩

theorem cursorInRange_next (h : r.session.CursorInRange) (step : SessionStep) :
    (r.next step).session.CursorInRange := by
  cases step with
  | input text now =>
      by_cases hterm : r.session.term = some text
      · simp only [next, FindSession.input_of_eq hterm]
        exact h
      · simp only [next, FindSession.input_of_ne hterm]
        exact h
  | poll now => exact h
  | commit term total =>
      intro c hc
      exact absurd hc (Option.some_ne_none c).symm
  | start direction =>
      cases hbegin : r.session.begin? direction with
      | none => rwa [next_start_of_none hbegin]
      | some begun =>
          obtain ⟨request, session⟩ := begun
          obtain ⟨term, index, -, hindex, -, rfl⟩ := FindSession.begin?_eq_some_iff.mp hbegin
          rw [next_start_of_some hbegin]
          intro c hc
          rw [Option.some.inj hc.symm]
          exact step_bounds hindex
  | finish number outcome =>
      cases hrequest : r.requests[number]? with
      | none => rwa [next_finish_of_none hrequest]
      | some request =>
          obtain ⟨state, hfinish⟩ := r.session.finish_snd_eq request.seq outcome
          rw [next_finish_of_some hrequest, hfinish]
          exact h
  | updateTotal total => exact cursorInRange_updateTotal h total
  | clear =>
      intro c hc
      exact absurd hc (Option.some_ne_none c).symm

theorem cursorInRange_run (h : r.session.CursorInRange) (steps : List SessionStep) :
    (r.run steps).session.CursorInRange := by
  induction steps generalizing r with
  | nil => exact h
  | cons step steps ih => exact ih (cursorInRange_next h step)

end SessionRun

/-- At the occurrences the two directions undo each other, steps forward from no cursor go round
all occurrences, and no step leaves them.  A step backward from a cursor behind the last
occurrence goes where it goes from none; a step forward does so just if the cursor is a multiple
of the total.  No run of a session leads to such a cursor. -/
theorem step_goes_round {total : Nat} (htotal : 0 < total) :
    (∀ c, 0 < c → c ≤ total → ∀ direction,
      ((step (some c) total direction).bind fun index =>
        step (some index) total direction.opposite) = some c) ∧
    (∀ n, (step · total .forward)^[n + 1] none = some (n % total + 1)) ∧
    (∀ current direction, ∃ index,
      step current total direction = some index ∧ 0 < index ∧ index ≤ total) ∧
    (∀ c, total < c →
      step (some c) total .backward = step none total .backward ∧
      step none total .backward = some total ∧
      step (some c) total .forward = some (c % total + 1) ∧
      (step (some c) total .forward = step none total .forward ↔ total ∣ c)) ∧
    ∀ delay steps, ((SessionRun.new delay).run steps).session.CursorInRange := by
  refine ⟨?_, iterate_step_forward htotal, ?_, ?_, ?_⟩
  · intro c hpos hle direction
    exact step_opposite hpos hle direction
  · intro current direction
    obtain ⟨index, hindex⟩ := exists_step htotal current direction
    exact ⟨index, hindex, step_bounds hindex⟩
  · intro c hstale
    exact ⟨step_backward_of_lt htotal hstale, step_none_backward htotal, step_forward htotal c,
      step_forward_eq_none_iff htotal c⟩
  · intro delay steps
    apply SessionRun.cursorInRange_run
    nofun

theorem step_goes_round_three :
    0 < 3 ∧ ((step (some 3) 3 .forward).bind fun index => step (some index) 3 .backward) =
      some 3 ∧
      (step · 3 .forward)^[5] none = some 2 ∧
      step (some 9) 3 .forward = step none 3 .forward ∧
      step (some 9) 3 .backward = some 3 ∧
      step (some 10) 3 .forward = some 2 := by
  obtain ⟨hopposite, hround, -, hstale, -⟩ := step_goes_round (show 0 < 3 by decide)
  obtain ⟨hback, hlast, -, hdvd⟩ := hstale 9 (by decide)
  obtain ⟨-, -, hforward, -⟩ := hstale 10 (by decide)
  exact ⟨by decide, hopposite 3 (by decide) (by decide) .forward, hround 4,
    hdvd.mpr (by decide), hback.trans hlast, hforward⟩

/-- A cursor that is left over from a list of four passes over the first of three occurrences. -/
theorem step_forward_stale : step (some 4) 3 .forward ≠ step none 3 .forward := by
  decide

end TranscriptSearch
