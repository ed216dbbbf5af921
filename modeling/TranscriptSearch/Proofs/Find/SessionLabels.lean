import TranscriptSearch.Proofs.Find.SessionRuns

namespace TranscriptSearch

theorem step_bounds {current : Option Nat} {total index : Nat} {direction : Direction}
    (h : step current total direction = some index) : 0 < index ∧ index ≤ total := by
  by_cases htotal : total = 0
  · rw [htotal] at h
    exact absurd h (Option.some_ne_none index).symm
  · have hpos : 0 < total := Nat.pos_of_ne_zero htotal
    replace h := (if_neg htotal).symm.trans h
    rcases direction with _ | _ <;> rcases current with _ | c
    · obtain rfl : 1 = index := Option.some.inj h
      omega
    · obtain rfl : c % total + 1 = index := Option.some.inj h
      have hlt := Nat.mod_lt c hpos
      omega
    · obtain rfl : total = index := Option.some.inj h
      omega
    · obtain rfl : (if c ≤ 1 ∨ total < c then total else c - 1) = index := Option.some.inj h
      split
      · omega
      · omega

namespace FindSession

/-- Whether what a session says it is doing agrees with its term, its total and its cursor. -/
structure IsLabelled (s : FindSession) : Prop where
  idle : s.state = .idle → s.term = none
  noMatches : s.state = .noMatches → s.term.isSome = true ∧ s.total = 0
  ready : s.state = .ready → s.term.isSome = true ∧ 0 < s.total
  highlighted : s.state = .highlighted →
    s.term.isSome = true ∧ 0 < s.total ∧ s.current.isSome = true

theorem input_of_eq {s : FindSession} {text : String} (h : s.term = some text) (now : Nat) :
    s.input text now = { s with debouncer := s.debouncer.input text now } := by
  simp only [input, h, if_true]

theorem input_of_ne {s : FindSession} {text : String} (h : s.term ≠ some text) (now : Nat) :
    s.input text now =
      { s with
        debouncer := s.debouncer.input text now
        seq := s.seq + 1
        state := .counting } := by
  simp only [input, h, if_false]

theorem updateTotal_of_none {s : FindSession} (h : s.term = none) (total : Nat) :
    s.updateTotal total = s :=
  if_pos h

@[simp] theorem term_updateTotal (s : FindSession) (total : Nat) :
    (s.updateTotal total).term = s.term := by
  rw [updateTotal]
  split
  · rfl
  · rfl

@[simp] theorem state_clear (s : FindSession) : s.clear.state = .idle :=
  rfl

section UpdateTotal

variable {s : FindSession} (hterm : s.term ≠ none) (total : Nat)
include hterm

theorem total_updateTotal : (s.updateTotal total).total = total :=
  congrArg FindSession.total (if_neg hterm)

theorem current_updateTotal : (s.updateTotal total).current =
    if s.current.any (total < ·) then none else s.current :=
  congrArg FindSession.current (if_neg hterm)

theorem state_updateTotal : (s.updateTotal total).state = match s.state with
    | .noMatches => if 0 < total then .ready else .noMatches
    | .ready => if total = 0 then .noMatches else .ready
    | .highlighted => if total = 0 then .noMatches else .highlighted
    | state => state :=
  congrArg FindSession.state (if_neg hterm)

theorem state_updateTotal_cases :
    total = 0 ∧ (s.updateTotal total).state = .noMatches ∨
      0 < total ∧ (s.updateTotal total).state = .ready ∨
      (s.updateTotal total).state = s.state ∧ (s.state = .noMatches → total = 0) ∧
        (s.state = .ready → 0 < total) := by
  rw [state_updateTotal hterm]
  rcases Nat.eq_zero_or_pos total with rfl | hpos
  · cases hstate : s.state <;> simp
  · cases hstate : s.state <;> simp [hpos, Nat.ne_of_gt hpos]

end UpdateTotal

end FindSession

/-- Whether a step changes the total so that the cursor is not among the occurrences any more. -/
def SessionStep.TakesCursor (s : FindSession) : SessionStep → Prop
  | .updateTotal total => ∃ c, s.current = some c ∧ total < c
  | _ => False

namespace SessionRun

/-- Whether the latest request is still in force. -/
def IsLive (r : SessionRun) : Prop :=
  ∃ request ∈ r.requests, request.seq = r.session.seq

/-- Whether no step takes the cursor away from a request that is in force. -/
def KeepsCursor (r : SessionRun) : List SessionStep → Prop
  | [] => True
  | step :: steps => ¬ (r.IsLive ∧ step.TakesCursor r.session) ∧ (r.next step).KeepsCursor steps

/-- What is true of every run. -/
structure IsGrounded (r : SessionRun) : Prop where
  seq_le : ∀ request ∈ r.requests, request.seq ≤ r.session.seq
  term : r.IsLive → r.session.term.isSome = true
  idle : r.session.state = .idle → r.session.term = none
  noMatches : r.session.state = .noMatches → r.session.term.isSome = true ∧ r.session.total = 0
  ready : r.session.state = .ready → r.session.term.isSome = true
  isLive : r.session.state = .navigating ∨ r.session.state = .highlighted → r.IsLive

/-- What is true in addition as long as requests that are in force keep the cursor. -/
structure HasCursor (r : SessionRun) : Prop where
  current : r.IsLive → ∃ c, r.session.current = some c ∧ 0 < c ∧ c ≤ r.session.total
  ready : r.session.state = .ready → 0 < r.session.total

theorem not_isLive_of_lt {r : SessionRun}
    (h : ∀ request ∈ r.requests, request.seq < r.session.seq) :
    ¬ r.IsLive := by
  rintro ⟨request, hmem, heq⟩
  exact Nat.ne_of_lt (h request hmem) heq

theorem isGrounded_new (delay : Nat) : (new delay).IsGrounded where
  seq_le := by simp [new]
  term := by simp [IsLive, new]
  idle _ := rfl
  noMatches := by simp [new, FindSession.new]
  ready := by simp [new, FindSession.new]
  isLive := by simp [new, FindSession.new]

theorem hasCursor_new (delay : Nat) : (new delay).HasCursor where
  current := by simp [IsLive, new]
  ready := by simp [new, FindSession.new]

section Replaced

variable {r : SessionRun} {s : FindSession}

theorem IsGrounded.not_isLive (h : r.IsGrounded) (hseq : s.seq = r.session.seq + 1) :
    ¬ (⟨s, r.requests⟩ : SessionRun).IsLive := by
  refine not_isLive_of_lt fun request hmem => ?_
  have hle := h.seq_le request hmem
  change request.seq < s.seq
  omega

theorem IsGrounded.replaced (h : r.IsGrounded) (hseq : s.seq = r.session.seq + 1)
    (hidle : s.state = .idle → s.term = none)
    (hnoMatches : s.state = .noMatches → s.term.isSome = true ∧ s.total = 0)
    (hready : s.state = .ready → s.term.isSome = true)
    (hnavigating : s.state ≠ .navigating) (hhighlighted : s.state ≠ .highlighted) :
    (⟨s, r.requests⟩ : SessionRun).IsGrounded where
  seq_le request hmem := Nat.le_trans (h.seq_le request hmem) (by rw [hseq]; exact Nat.le_succ _)
  term hlive := absurd hlive (h.not_isLive hseq)
  idle := hidle
  noMatches := hnoMatches
  ready := hready
  isLive hstate := hstate.elim (absurd · hnavigating) (absurd · hhighlighted)

theorem IsGrounded.hasCursor_of_replaced (h : r.IsGrounded) (hseq : s.seq = r.session.seq + 1)
    (hready : s.state = .ready → 0 < s.total) :
    (⟨s, r.requests⟩ : SessionRun).HasCursor where
  current hlive := absurd hlive (h.not_isLive hseq)
  ready := hready

end Replaced

theorem next_finish_cases {r : SessionRun} {number : Nat} {request : NavigationRequest}
    (hrequest : r.requests[number]? = some request) (outcome : NavOutcome) :
    r.next (.finish number outcome) = r ∨ r.IsLive ∧ r.next (.finish number outcome) =
      { r with session.state := if outcome.isFound then .highlighted else .ready } := by
  rw [next_finish_of_some hrequest]
  by_cases hfinish : (r.session.finish request.seq outcome).1 = true
  · have hseq := ((r.session.finish_fst_iff request.seq outcome).mp hfinish).1
    refine .inr ⟨⟨request, List.mem_of_getElem? hrequest, hseq⟩, ?_⟩
    rw [FindSession.finish_snd_of_fst hfinish]
  · refine .inl ?_
    rw [FindSession.finish_snd_of_not_fst (Bool.eq_false_iff.mpr hfinish)]

theorem IsGrounded.next_updateTotal {r : SessionRun} (h : r.IsGrounded) (total : Nat) :
    (r.next (.updateTotal total)).IsGrounded := by
  by_cases hterm : r.session.term = none
  · simp only [SessionRun.next, FindSession.updateTotal_of_none hterm]
    exact h
  · have hsome : (r.session.updateTotal total).term.isSome = true := by
      rw [FindSession.term_updateTotal]
      exact Option.isSome_iff_ne_none.mpr hterm
    have htotal := FindSession.total_updateTotal hterm total
    have hseq : ∀ request ∈ r.requests, request.seq ≤ (r.session.updateTotal total).seq := by
      rw [FindSession.seq_updateTotal]
      exact h.seq_le
    rcases FindSession.state_updateTotal_cases hterm total with
      ⟨hzero, hstate⟩ | ⟨-, hstate⟩ | ⟨hstate, hnone, -⟩
    · refine ⟨hseq, fun _ => hsome, ?_, fun _ => ⟨hsome, htotal.trans hzero⟩, fun _ => hsome, ?_⟩
      · simp [SessionRun.next, hstate]
      · simp [SessionRun.next, hstate]
    · refine ⟨hseq, fun _ => hsome, ?_, ?_, fun _ => hsome, ?_⟩
      · simp [SessionRun.next, hstate]
      · simp [SessionRun.next, hstate]
      · simp [SessionRun.next, hstate]
    · refine ⟨hseq, fun _ => hsome, ?_, ?_, fun _ => hsome, ?_⟩
      · intro hidle
        exact absurd (h.idle (hstate.symm.trans hidle)) hterm
      · intro hnoMatches
        exact ⟨hsome, htotal.trans (hnone (hstate.symm.trans hnoMatches))⟩
      · intro hafter
        obtain ⟨request, hmem, heq⟩ : r.IsLive := by
          apply h.isLive
          rwa [← hstate]
        exact ⟨request, hmem, heq.trans (r.session.seq_updateTotal total).symm⟩

theorem IsGrounded.next {r : SessionRun} (h : r.IsGrounded) (step : SessionStep) :
    (r.next step).IsGrounded := by
  cases step with
  | input text now =>
      by_cases hterm : r.session.term = some text
      · simp only [SessionRun.next, FindSession.input_of_eq hterm]
        exact ⟨h.seq_le, h.term, h.idle, h.noMatches, h.ready, h.isLive⟩
      · simp only [SessionRun.next, FindSession.input_of_ne hterm]
        exact h.replaced rfl (by simp) (by simp) (by simp) (by simp) (by simp)
  | poll now => exact ⟨h.seq_le, h.term, h.idle, h.noMatches, h.ready, h.isLive⟩
  | commit term total =>
      refine h.replaced rfl ?_ ?_ ?_ ?_ ?_ <;> simp only [FindSession.commit] <;> split
      all_goals grind
  | start direction =>
      rcases hbegin : r.session.begin? direction with _ | ⟨request, session⟩
      · rw [next_start_of_none hbegin]
        exact h
      · rw [next_start_of_some hbegin]
        obtain ⟨term, index, hterm, -, rfl, rfl⟩ := FindSession.begin?_eq_some_iff.mp hbegin
        refine ⟨?_, fun _ => Option.isSome_of_eq_some hterm, by simp, by simp, by simp,
          fun _ => ?_⟩
        · intro request hmem
          rcases List.mem_append.mp hmem with hbefore | hnew
          · exact Nat.le_succ_of_le (h.seq_le request hbefore)
          · exact Nat.le_of_eq (congrArg NavigationRequest.seq (List.mem_singleton.mp hnew))
        · exact ⟨_, List.mem_append_right _ (List.mem_singleton.mpr rfl), rfl⟩
  | finish number outcome =>
      rcases hrequest : r.requests[number]? with _ | request
      · rw [next_finish_of_none hrequest]
        exact h
      · rcases next_finish_cases hrequest outcome with hsame | ⟨hlive, hstate⟩
        · rw [hsame]
          exact h
        · rw [hstate]
          have hterm := h.term hlive
          refine ⟨h.seq_le, fun _ => hterm, ?_, ?_, fun _ => hterm, fun _ => hlive⟩ <;> grind
  | updateTotal total => exact h.next_updateTotal total
  | clear => exact h.replaced rfl (fun _ => rfl) (by simp) (by simp) (by simp) (by simp)

/-- A request that is in force keeps the cursor in range, so what its end makes of the session is
true of it. -/
theorem HasCursor.next {r : SessionRun} (h : r.HasCursor) (hgrounded : r.IsGrounded)
    {step : SessionStep} (hkeeps : ¬ (r.IsLive ∧ step.TakesCursor r.session)) :
    (r.next step).HasCursor := by
  cases step with
  | input text now =>
      by_cases hterm : r.session.term = some text
      · simp only [SessionRun.next, FindSession.input_of_eq hterm]
        exact ⟨h.current, h.ready⟩
      · simp only [SessionRun.next, FindSession.input_of_ne hterm]
        exact hgrounded.hasCursor_of_replaced rfl (by simp)
  | poll now => exact ⟨h.current, h.ready⟩
  | commit term total =>
      refine hgrounded.hasCursor_of_replaced rfl ?_
      simp only [FindSession.commit]
      grind
  | start direction =>
      rcases hbegin : r.session.begin? direction with _ | ⟨request, session⟩
      · rw [next_start_of_none hbegin]
        exact h
      · rw [next_start_of_some hbegin]
        obtain ⟨term, index, -, hindex, -, rfl⟩ := FindSession.begin?_eq_some_iff.mp hbegin
        exact ⟨fun _ => ⟨index, rfl, step_bounds hindex⟩, by simp⟩
  | finish number outcome =>
      rcases hrequest : r.requests[number]? with _ | request
      · rw [next_finish_of_none hrequest]
        exact h
      · rcases next_finish_cases hrequest outcome with hsame | ⟨hlive, hstate⟩
        · rw [hsame]
          exact h
        · rw [hstate]
          obtain ⟨c, hcurrent, hpos, hle⟩ := h.current hlive
          exact ⟨fun _ => ⟨c, hcurrent, hpos, hle⟩, fun _ => Nat.lt_of_lt_of_le hpos hle⟩
  | updateTotal total =>
      by_cases hterm : r.session.term = none
      · simp only [SessionRun.next, FindSession.updateTotal_of_none hterm]
        exact h
      · have htotal := FindSession.total_updateTotal hterm total
        constructor
        · rintro ⟨request, hmem, heq⟩
          have hlive : r.IsLive := ⟨request, hmem, heq.trans (r.session.seq_updateTotal total)⟩
          obtain ⟨c, hcurrent, hpos, -⟩ := h.current hlive
          have hle : ¬ total < c := fun hlt => hkeeps ⟨hlive, c, hcurrent, hlt⟩
          refine ⟨c, ?_, hpos, ?_⟩
          · refine (FindSession.current_updateTotal hterm total).trans ?_
            rw [hcurrent]
            simp [hle]
          · exact Nat.le_trans (Nat.le_of_not_lt hle) (Nat.le_of_eq htotal.symm)
        · intro hready
          rw [SessionRun.next, htotal]
          rcases FindSession.state_updateTotal_cases hterm total with
            ⟨-, hstate⟩ | ⟨hpos, -⟩ | ⟨hstate, -, hpos⟩
          · exact absurd (hstate.symm.trans hready) (by simp)
          · exact hpos
          · exact hpos (hstate.symm.trans hready)
  | clear => exact hgrounded.hasCursor_of_replaced rfl (by simp)

theorem IsGrounded.isLabelled {r : SessionRun} (h : r.IsGrounded) (hcursor : r.HasCursor) :
    r.session.IsLabelled where
  idle := h.idle
  noMatches := h.noMatches
  ready hready := ⟨h.ready hready, hcursor.ready hready⟩
  highlighted hstate := by
    have hlive := h.isLive (.inr hstate)
    obtain ⟨c, hcurrent, hpos, hle⟩ := hcursor.current hlive
    exact ⟨h.term hlive, Nat.lt_of_lt_of_le hpos hle, Option.isSome_of_eq_some hcurrent⟩

theorem IsGrounded.run {r : SessionRun} (h : r.IsGrounded) (steps : List SessionStep) :
    (r.run steps).IsGrounded := by
  induction steps generalizing r with
  | nil => exact h
  | cons step steps ih => exact ih (h.next step)

theorem HasCursor.run {r : SessionRun} (h : r.HasCursor) (hgrounded : r.IsGrounded)
    {steps : List SessionStep} (hkeeps : r.KeepsCursor steps) : (r.run steps).HasCursor := by
  induction steps generalizing r with
  | nil => exact h
  | cons step steps ih =>
      obtain ⟨hstep, hrest⟩ := hkeeps
      exact ih (h.next hgrounded hstep) (hgrounded.next step) hrest

theorem not_isLabelled_of_takesCursor {r : SessionRun} {number total : Nat}
    {request : NavigationRequest} (target : MatchTarget)
    (hrequest : r.requests[number]? = some request) (hseq : request.seq = r.session.seq)
    (hterm : r.session.term ≠ none)
    (htakes : (SessionStep.updateTotal total).TakesCursor r.session) :
    ¬ (r.run [.updateTotal total, .finish number (.found target)]).session.IsLabelled := by
  obtain ⟨c, hcurrent, hlt⟩ := htakes
  have hnone : (r.session.updateTotal total).current = none := by
    rw [FindSession.current_updateTotal hterm, hcurrent]
    simp [hlt]
  have hfinish : (r.run [.updateTotal total, .finish number (.found target)]).session =
      { r.session.updateTotal total with state := .highlighted } := by
    change ((r.next (.updateTotal total)).next (.finish number (.found target))).session = _
    have hsame : (r.next (.updateTotal total)).requests[number]? = some request := hrequest
    rw [next_finish_of_some hsame, hseq]
    change ((r.session.updateTotal total).finish r.session.seq (.found target)).2 = _
    rw [← r.session.seq_updateTotal total, FindSession.finish_seq _ (by simp)]
    rfl
  rw [hfinish]
  intro hlabelled
  have hsome := (hlabelled.highlighted rfl).2.2
  rw [hnone] at hsome
  exact Bool.noConfusion hsome

/-- In every run an idle session has no term, one that says that the term does not occur has a
term with total zero, and one that is ready or highlighted has a term.  Everything else that the
state says of the data is true as long as no change of the total takes the cursor away from a
request that is in force; and if one does, the end of the request can make it false. -/
theorem isLabelled_run (delay : Nat) (steps : List SessionStep) :
    let r := (new delay).run steps
    (r.session.state = .idle → r.session.term = none) ∧
      (r.session.state = .noMatches → r.session.term.isSome = true ∧ r.session.total = 0) ∧
      (r.session.state = .ready ∨ r.session.state = .highlighted →
        r.session.term.isSome = true) ∧
      ((new delay).KeepsCursor steps → r.session.IsLabelled) ∧
      ∀ number request total target, r.requests[number]? = some request →
        request.seq = r.session.seq → (SessionStep.updateTotal total).TakesCursor r.session →
          ¬ (r.run [.updateTotal total, .finish number (.found target)]).session.IsLabelled := by
  intro r
  have hgrounded : r.IsGrounded := (isGrounded_new delay).run steps
  refine ⟨hgrounded.idle, hgrounded.noMatches, ?_, ?_, ?_⟩
  · rintro (hready | hhighlighted)
    · exact hgrounded.ready hready
    · exact hgrounded.term (hgrounded.isLive (.inr hhighlighted))
  · intro hkeeps
    exact hgrounded.isLabelled ((hasCursor_new delay).run (isGrounded_new delay) hkeeps)
  · intro number request total target hrequest hseq htakes
    have hlive : r.IsLive := ⟨request, List.mem_of_getElem? hrequest, hseq⟩
    have hterm := Option.isSome_iff_ne_none.mp (hgrounded.term hlive)
    exact not_isLabelled_of_takesCursor target hrequest hseq hterm htakes

theorem isLabelled_run_shrunk :
    let steps : List SessionStep := [.commit "match" 3, .start .forward, .start .forward,
      .updateTotal 2, .finish 1 (.notFound .renderedSpanMissing)]
    let r := (new 100).run steps
    let found : NavOutcome := .found ⟨1, "event-1", 1, ⟨"event-1", 1, 1, 0, 5⟩⟩
    (new 100).KeepsCursor steps ∧ r.session.IsLabelled ∧
      r.requests[1]? = some ⟨"match", 2, 3⟩ ∧ r.session.seq = 3 ∧
      (SessionStep.updateTotal 1).TakesCursor r.session ∧
      ¬ (r.run [.updateTotal 1, .finish 1 found]).session.IsLabelled := by
  intro steps r found
  obtain ⟨-, -, -, hlabelled, hbroken⟩ := isLabelled_run 100 steps
  have hkeeps : (new 100).KeepsCursor steps := by
    refine ⟨And.right, And.right, And.right, ?_, And.right, trivial⟩
    rintro ⟨-, c, hcurrent, hlt⟩
    obtain rfl : 2 = c := Option.some.inj hcurrent
    exact Nat.lt_irrefl 2 hlt
  have htakes : (SessionStep.updateTotal 1).TakesCursor r.session := ⟨2, rfl, by decide⟩
  exact ⟨hkeeps, hlabelled hkeeps, rfl, rfl, htakes, hbroken 1 ⟨"match", 2, 3⟩ 1 _ rfl rfl htakes⟩

/-- The total becomes zero while a request is in force; the request then ends without finding
anything. -/
theorem not_isLabelled_run :
    let r := (new 100).run [.commit "match" 2, .start .forward, .updateTotal 0,
      .finish 0 (.notFound .noMatches)]
    r.session.state = .ready ∧ r.session.term = some "match" ∧ r.session.total = 0 ∧
      ¬ r.session.IsLabelled := by
  intro r
  refine ⟨rfl, rfl, rfl, fun hlabelled => ?_⟩
  exact Nat.lt_irrefl 0 (hlabelled.ready rfl).2

end SessionRun

end TranscriptSearch
