import TranscriptSearch.Find.Session

namespace TranscriptSearch

/-- Something that is asked of a session. -/
inductive SessionStep where
  | input (text : String) (now : Nat)
  | poll (now : Nat)
  | commit (term : String) (total : Nat)
  | start (direction : Direction)
  /-- A request ends; requests are numbered in the order in which they were made. -/
  | finish (number : Nat) (outcome : NavOutcome)
  | updateTotal (total : Nat)
  | clear

/-- Whether a step makes the requests obsolete that were made before it. -/
def SessionStep.Replaces (s : FindSession) : SessionStep → Prop
  | .input text _ => s.term ≠ some text
  | .commit .. => True
  | .start direction => (s.begin? direction).isSome = true
  | .clear => True
  | _ => False

namespace FindSession

theorem finish_of_ne {s : FindSession} {seq : Nat} (h : seq ≠ s.seq) (outcome : NavOutcome) :
    s.finish seq outcome = (false, s) :=
  if_pos h

theorem finish_seq (s : FindSession) {outcome : NavOutcome} (h : outcome ≠ .superseded) :
    s.finish s.seq outcome =
      (true, { s with state := if outcome.isFound then .highlighted else .ready }) := by
  refine (if_neg (not_not_intro rfl)).trans ?_
  cases outcome with
  | found target => rfl
  | notFound reason => rfl
  | superseded => exact absurd rfl h

theorem finish_superseded (s : FindSession) (seq : Nat) :
    s.finish seq .superseded = (false, s) := by
  by_cases h : seq = s.seq
  · exact if_neg (not_not_intro h)
  · exact finish_of_ne h .superseded

theorem finish_fst_iff (s : FindSession) (seq : Nat) (outcome : NavOutcome) :
    (s.finish seq outcome).1 = true ↔ seq = s.seq ∧ outcome ≠ .superseded := by
  constructor
  · intro hfinish
    constructor
    · refine Decidable.byContradiction fun hne => ?_
      rw [finish_of_ne hne] at hfinish
      exact Bool.noConfusion hfinish
    · rintro rfl
      rw [finish_superseded] at hfinish
      exact Bool.noConfusion hfinish
  · rintro ⟨rfl, houtcome⟩
    rw [s.finish_seq houtcome]

theorem finish_snd_of_fst {s : FindSession} {seq : Nat} {outcome : NavOutcome}
    (h : (s.finish seq outcome).1 = true) :
    (s.finish seq outcome).2 =
      { s with state := if outcome.isFound then .highlighted else .ready } := by
  obtain ⟨rfl, houtcome⟩ := (s.finish_fst_iff seq outcome).mp h
  rw [s.finish_seq houtcome]

theorem finish_snd_of_not_fst {s : FindSession} {seq : Nat} {outcome : NavOutcome}
    (h : (s.finish seq outcome).1 = false) : (s.finish seq outcome).2 = s := by
  by_cases hseq : seq = s.seq
  · cases outcome with
    | superseded => rw [finish_superseded]
    | found target =>
        rw [hseq, s.finish_seq (by simp)] at h
        exact Bool.noConfusion h
    | notFound reason =>
        rw [hseq, s.finish_seq (by simp)] at h
        exact Bool.noConfusion h
  · rw [finish_of_ne hseq]

theorem finish_snd_eq (s : FindSession) (seq : Nat) (outcome : NavOutcome) :
    ∃ state, (s.finish seq outcome).2 = { s with state } := by
  by_cases h : (s.finish seq outcome).1 = true
  · exact ⟨_, finish_snd_of_fst h⟩
  · exact ⟨s.state, finish_snd_of_not_fst (Bool.eq_false_iff.mpr h)⟩

theorem begin?_eq_some_iff {s after : FindSession} {direction : Direction}
    {request : NavigationRequest} :
    s.begin? direction = some (request, after) ↔
      ∃ term index, s.term = some term ∧ step s.current s.total direction = some index ∧
        request = ⟨term, index, s.seq + 1⟩ ∧
        after = { s with current := some index, seq := s.seq + 1, state := .navigating } := by
  simp only [begin?, Option.bind_eq_bind, Option.bind_eq_some_iff, Option.pure_def,
    Option.some.injEq, Prod.mk.injEq]
  constructor
  · rintro ⟨term, hterm, index, hindex, rfl, rfl⟩
    exact ⟨term, index, hterm, hindex, rfl, rfl⟩
  · rintro ⟨term, index, hterm, hindex, rfl, rfl⟩
    exact ⟨term, hterm, index, hindex, rfl, rfl⟩

theorem seq_input (s : FindSession) (text : String) (now : Nat) :
    (s.input text now).seq = if s.term = some text then s.seq else s.seq + 1 := by
  simp only [input]
  split
  · rfl
  · rfl

@[simp] theorem seq_updateTotal (s : FindSession) (total : Nat) :
    (s.updateTotal total).seq = s.seq := by
  rw [updateTotal]
  split
  · rfl
  · rfl

end FindSession

/-- A session, and the requests it has made. -/
structure SessionRun where
  session : FindSession
  requests : List NavigationRequest

namespace SessionRun

def new (delay : Nat) : SessionRun :=
  ⟨.new delay, []⟩

def next (r : SessionRun) : SessionStep → SessionRun
  | .input text now => { r with session := r.session.input text now }
  | .poll now => { r with session := (r.session.poll now).2 }
  | .commit term total => { r with session := r.session.commit term total }
  | .start direction =>
    match r.session.begin? direction with
    | some (request, session) => ⟨session, r.requests ++ [request]⟩
    | none => r
  | .finish number outcome =>
    match r.requests[number]? with
    | some request => { r with session := (r.session.finish request.seq outcome).2 }
    | none => r
  | .updateTotal total => { r with session := r.session.updateTotal total }
  | .clear => { r with session := r.session.clear }

def run (r : SessionRun) (steps : List SessionStep) : SessionRun :=
  steps.foldl next r

/-- Whether none of some steps makes earlier requests obsolete. -/
def Undisturbed (r : SessionRun) : List SessionStep → Prop
  | [] => True
  | step :: steps => ¬ step.Replaces r.session ∧ (r.next step).Undisturbed steps

theorem next_start_of_some {r : SessionRun} {direction : Direction} {request : NavigationRequest}
    {session : FindSession} (h : r.session.begin? direction = some (request, session)) :
    r.next (.start direction) = ⟨session, r.requests ++ [request]⟩ := by
  simp only [next, h]

theorem next_start_of_none {r : SessionRun} {direction : Direction}
    (h : r.session.begin? direction = none) : r.next (.start direction) = r := by
  simp only [next, h]

theorem next_finish_of_some {r : SessionRun} {number : Nat} {request : NavigationRequest}
    (h : r.requests[number]? = some request) (outcome : NavOutcome) :
    r.next (.finish number outcome) =
      { r with session := (r.session.finish request.seq outcome).2 } := by
  simp only [next, h]

theorem next_finish_of_none {r : SessionRun} {number : Nat} (h : r.requests[number]? = none)
    (outcome : NavOutcome) : r.next (.finish number outcome) = r := by
  simp only [next, h]

theorem seq_next_of_replaces {r : SessionRun} {step : SessionStep}
    (h : step.Replaces r.session) : (r.next step).session.seq = r.session.seq + 1 := by
  cases step with
  | input text now => exact (r.session.seq_input text now).trans (if_neg h)
  | poll now => exact h.elim
  | commit term total => rfl
  | start direction =>
      obtain ⟨⟨request, session⟩, hsome⟩ := Option.isSome_iff_exists.mp h
      obtain ⟨term, index, -, -, -, rfl⟩ := FindSession.begin?_eq_some_iff.mp hsome
      rw [next_start_of_some hsome]
  | finish number outcome => exact h.elim
  | updateTotal total => exact h.elim
  | clear => rfl

theorem seq_next_of_not_replaces {r : SessionRun} {step : SessionStep}
    (h : ¬ step.Replaces r.session) : (r.next step).session.seq = r.session.seq := by
  cases step with
  | input text now => exact (r.session.seq_input text now).trans (if_pos (Decidable.not_not.mp h))
  | poll now => rfl
  | commit term total => exact absurd trivial h
  | start direction => rw [next_start_of_none (Option.not_isSome_iff_eq_none.mp h)]
  | finish number outcome =>
      rcases hrequest : r.requests[number]? with _ | request
      · rw [next_finish_of_none hrequest]
      · rw [next_finish_of_some hrequest]
        obtain ⟨state, heq⟩ := r.session.finish_snd_eq request.seq outcome
        change (r.session.finish request.seq outcome).2.seq = r.session.seq
        rw [heq]
  | updateTotal total => exact r.session.seq_updateTotal total
  | clear => exact absurd trivial h

theorem seq_le_run (r : SessionRun) (steps : List SessionStep) :
    r.session.seq ≤ (r.run steps).session.seq := by
  induction steps generalizing r with
  | nil => exact Nat.le_refl _
  | cons step steps ih =>
      refine Nat.le_trans ?_ (ih (r.next step))
      by_cases h : step.Replaces r.session
      · rw [seq_next_of_replaces h]
        exact Nat.le_succ _
      · exact Nat.le_of_eq (seq_next_of_not_replaces h).symm

theorem seq_run_eq_iff (r : SessionRun) (steps : List SessionStep) :
    (r.run steps).session.seq = r.session.seq ↔ r.Undisturbed steps := by
  induction steps generalizing r with
  | nil => exact ⟨fun _ => trivial, fun _ => rfl⟩
  | cons step steps ih =>
      change ((r.next step).run steps).session.seq = _ ↔ _ ∧ (r.next step).Undisturbed steps
      by_cases h : step.Replaces r.session
      · have hgrows := (r.next step).seq_le_run steps
        rw [seq_next_of_replaces h] at hgrows
        constructor
        · intro heq
          omega
        · rintro ⟨hnot, -⟩
          exact absurd h hnot
      · rw [← ih (r.next step), seq_next_of_not_replaces h]
        exact ⟨fun heq => ⟨h, heq⟩, And.right⟩

/-- A session takes notice of the end of a request just if it does not end as superseded and
nothing since has made it obsolete: no commit, no clearing, no later request and no typing of a
text that is not the term.  What changes is the state alone, and nothing changes if the session
takes no notice. -/
theorem finish_iff_undisturbed (delay : Nat) (before later : List SessionStep)
    (direction : Direction) (outcome : NavOutcome) {request : NavigationRequest}
    {session : FindSession}
    (hrequest : ((new delay).run before).session.begin? direction = some (request, session)) :
    let r := ((new delay).run before).next (.start direction)
    let s := (r.run later).session
    ((s.finish request.seq outcome).1 = true ↔ outcome ≠ .superseded ∧ r.Undisturbed later) ∧
      ((s.finish request.seq outcome).1 = true → (s.finish request.seq outcome).2 =
        { s with state := if outcome.isFound then .highlighted else .ready }) ∧
      ((s.finish request.seq outcome).1 = false → (s.finish request.seq outcome).2 = s) := by
  intro r s
  have hseq : r.session.seq = request.seq := by
    obtain ⟨term, index, -, -, rfl, rfl⟩ := FindSession.begin?_eq_some_iff.mp hrequest
    change (((new delay).run before).next (.start direction)).session.seq = _
    rw [next_start_of_some hrequest]
  refine ⟨?_, FindSession.finish_snd_of_fst, FindSession.finish_snd_of_not_fst⟩
  calc (s.finish request.seq outcome).1 = true
      ↔ request.seq = s.seq ∧ outcome ≠ .superseded := s.finish_fst_iff request.seq outcome
    _ ↔ s.seq = r.session.seq ∧ outcome ≠ .superseded := by rw [hseq, eq_comm]
    _ ↔ outcome ≠ .superseded ∧ s.seq = r.session.seq := And.comm
    _ ↔ outcome ≠ .superseded ∧ r.Undisturbed later :=
      and_congr_right fun _ => r.seq_run_eq_iff later

theorem finish_iff_undisturbed_retyped :
    let r := ((new 100).run [.commit "match" 3]).next (.start .forward)
    let quiet : List SessionStep := [.input "match" 5, .poll 60, .updateTotal 1]
    let s := (r.run quiet).session
    let s' := (r.run (quiet ++ [.input "matches" 70])).session
    ((new 100).run [.commit "match" 3]).session.begin? .forward =
        some (⟨"match", 1, 2⟩, r.session) ∧
      (s.finish 2 (.notFound .renderedSpanMissing)).1 = true ∧
      (s.finish 2 (.notFound .renderedSpanMissing)).2 = { s with state := .ready } ∧
      (s'.finish 2 (.notFound .renderedSpanMissing)).1 = false ∧
      (s'.finish 2 (.notFound .renderedSpanMissing)).2 = s' := by
  intro r quiet s s'
  have hrequest : ((new 100).run [.commit "match" 3]).session.begin? .forward =
      some (⟨"match", 1, 2⟩, r.session) := by
    decide
  obtain ⟨hiff, hstate, -⟩ := finish_iff_undisturbed 100 [.commit "match" 3] quiet .forward
    (.notFound .renderedSpanMissing) hrequest
  obtain ⟨hiff', -, hsame⟩ := finish_iff_undisturbed 100 [.commit "match" 3]
    (quiet ++ [.input "matches" 70]) .forward (.notFound .renderedSpanMissing) hrequest
  have hquiet : r.Undisturbed quiet :=
    ⟨not_not_intro rfl, not_false, not_false, trivial⟩
  have hfinished := hiff.mpr ⟨by simp, hquiet⟩
  have hunfinished : ¬ (s'.finish 2 (.notFound .renderedSpanMissing)).1 = true := by
    intro hfinish
    obtain ⟨-, -, -, -, htyped, -⟩ := hiff'.mp hfinish
    apply htyped
    change (some "match" : Option String) ≠ some "matches"
    decide
  exact ⟨hrequest, hfinished, hstate hfinished, Bool.eq_false_iff.mpr hunfinished,
    hsame (Bool.eq_false_iff.mpr hunfinished)⟩

end SessionRun

end TranscriptSearch
