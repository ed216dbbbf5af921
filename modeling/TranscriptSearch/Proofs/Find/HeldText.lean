import TranscriptSearch.Proofs.Find.FinderSession
import TranscriptSearch.Proofs.Find.PanelRuns
import TranscriptSearch.Viewer.FindBar

namespace TranscriptSearch

/-- Something that is asked of a search or happens to it.  Tasks go on at any time and in any
order, and anything may happen to the panels. -/
inductive SearchStep (σ : Type) where
  | input (text : String) (now : Nat)
  | poll (now : Nat)
  | commit (term : String)
  | recount
  | clear
  | start (term : String) (direction : Direction)
  | goTo (id term : String) (n : Nat)
  | resume (number : Nat)
  | elsewhere (panels : List (FindPanel σ)) (registered : List (String × Nat))

namespace SearchStep

variable {σ : Type}

def IsInput : SearchStep σ → Prop
  | .input .. => True
  | _ => False

/-- Whether a step decides the term: the text that is held is dropped then, or becomes the
term. -/
def Decides (s : Schedule σ) : SearchStep σ → Prop
  | .poll now => (s.finder.session.poll now).1.isSome = true
  | .commit _ => True
  | .clear => True
  | .start term _ => s.finder.session.term ≠ some term
  | _ => False

end SearchStep

namespace Schedule

variable {σ : Type}

section Run

variable [RenderSurface σ]

def perform (s : Schedule σ) : SearchStep σ → Schedule σ
  | .input text now => s.withFinder (s.finder.input text now)
  | .poll now => s.withFinder (s.finder.poll now).2
  | .commit term => s.withFinder (s.finder.commit term).2
  | .recount => s.withFinder s.finder.recount.2
  | .clear => s.withFinder s.finder.clear
  | .start term direction => (s.startStep term direction).2
  | .goTo id term n => (s.startGoTo id term n).2
  | .resume number =>
    match s.tasks.find? (·.number = number) with
    | some task => s.resume task
    | none => s
  | .elsewhere panels registered => s.withFinder { s.finder with panels, registered }

def run (s : Schedule σ) (steps : List (SearchStep σ)) : Schedule σ :=
  steps.foldl perform s

/-- Whether none of some steps decides the term. -/
def HoldsThrough (s : Schedule σ) : List (SearchStep σ) → Prop
  | [] => True
  | step :: steps => ¬ step.Decides s ∧ (s.perform step).HoldsThrough steps

/-- Whether a task comes to a result by the last of some steps. -/
def Returns (s : Schedule σ) (number : Nat) (result : TaskResult) : List (SearchStep σ) → Prop
  | [] => s.results.lookup number = some result
  | step :: steps =>
    s.results.lookup number = none ∧ (s.perform step).Returns number result steps

end Run

/-- Whether the numbers of all tasks and results have been given out. -/
structure IsNumbered (s : Schedule σ) : Prop where
  tasks : ∀ task ∈ s.tasks, task.number < s.next
  results : ∀ result ∈ s.results, result.1 < s.next

theorem isNumbered_new (f : Finder σ) : (new f).IsNumbered :=
  ⟨fun _ htask => absurd htask List.not_mem_nil, fun _ hresult => absurd hresult List.not_mem_nil⟩

theorem IsNumbered.lookup_next {s : Schedule σ} (h : s.IsNumbered) :
    s.results.lookup s.next = none := by
  refine List.lookup_eq_none_iff.mpr fun result hresult => ?_
  have hlt := h.results result hresult
  exact bne_iff_ne.mpr (by omega)

theorem IsNumbered.issued {s : Schedule σ} (h : s.IsNumbered) : s.issue.2.IsNumbered :=
  ⟨fun task htask => Nat.lt_succ_of_lt (h.tasks task htask),
    fun result hresult => Nat.lt_succ_of_lt (h.results result hresult)⟩

theorem IsNumbered.withFinder {s : Schedule σ} (h : s.IsNumbered) (finder : Finder σ) :
    (s.withFinder finder).IsNumbered :=
  ⟨h.tasks, h.results⟩

theorem Proceeds.isNumbered {s t : Schedule σ} {number : Nat} (h : s.Proceeds number t)
    (hnumbered : s.IsNumbered) (hnumber : number < s.next) : t.IsNumbered := by
  cases h with
  | waits panel pursuit heq =>
      rw [heq]
      refine ⟨fun task htask => ?_, hnumbered.results⟩
      rcases List.mem_append.mp htask with hbefore | hnew
      · exact hnumbered.tasks task hbefore
      · rw [List.mem_singleton.mp hnew]
        exact hnumber
  | ends finder result htyping hstate heq =>
      rw [heq]
      exact ⟨hnumbered.tasks, List.forall_mem_cons.mpr ⟨hnumber, hnumbered.results⟩⟩

variable [RenderSurface σ]

theorem IsNumbered.beginStep {s : Schedule σ} (h : s.IsNumbered) {step : AskedStep}
    (hnumber : step.number < s.next) : (s.beginStep step).IsNumbered := by
  obtain ⟨finder, -, hproceeds⟩ := s.proceeds_beginStep step
  exact hproceeds.isNumbered ⟨h.tasks, h.results⟩ hnumber

theorem IsNumbered.resume {s : Schedule σ} (h : s.IsNumbered) {task : FindTask}
    (htask : task ∈ s.tasks) : (s.resume task).IsNumbered := by
  obtain ⟨finder, -, hproceeds⟩ := s.proceeds_resume task
  refine hproceeds.isNumbered ⟨?_, h.results⟩ (h.tasks task htask)
  intro other hother
  exact h.tasks other (List.mem_filter.mp hother).1

theorem IsNumbered.perform {s : Schedule σ} (h : s.IsNumbered) (step : SearchStep σ) :
    (s.perform step).IsNumbered := by
  cases step with
  | start term direction => exact h.issued.beginStep (Nat.lt_succ_self s.next)
  | goTo id term n =>
      have hproceeds := proceeds_follow
        (s.issue.2.withFinder (s.finder.goTo id term n).2) s.next (.registered id)
        (s.finder.goTo id term n).1.panel (s.finder.goTo id term n).1.progress
      exact hproceeds.isNumbered (h.issued.withFinder _) (Nat.lt_succ_self s.next)
  | resume number =>
      rw [Schedule.perform]
      split
      · next task htask => exact h.resume (List.mem_of_find?_eq_some htask)
      · exact h
  | _ => exact h.withFinder _

theorem IsNumbered.run {s : Schedule σ} (h : s.IsNumbered) (steps : List (SearchStep σ)) :
    (s.run steps).IsNumbered := by
  induction steps generalizing s with
  | nil => exact h
  | cons step steps ih => exact ih (h.perform step)

section Held

variable {s : Schedule σ} {step : SearchStep σ} {steps : List (SearchStep σ)}

theorem debouncer_of_decides (h : step.Decides s) :
    (s.perform step).finder.session.debouncer = s.finder.session.debouncer.cancel := by
  cases step with
  | input text now => exact h.elim
  | poll now =>
      obtain ⟨text, htext⟩ := Option.isSome_iff_exists.mp h
      obtain ⟨total, hpoll⟩ := Finder.session_poll_of_some htext
      exact congrArg FindSession.debouncer hpoll
  | commit term =>
      obtain ⟨total, hcommit⟩ := s.finder.session_commit term
      exact congrArg FindSession.debouncer hcommit
  | recount => exact h.elim
  | clear => exact congrArg FindSession.debouncer s.finder.session_clear
  | start term direction =>
      have htyping := typing_beginStep s.issue.2 ⟨s.next, term, direction⟩
      rw [Finder.typing_committed] at htyping
      exact congrArg Prod.snd (htyping.trans (if_neg h))
  | goTo id term n => exact h.elim
  | resume number => exact h.elim
  | elsewhere panels registered => exact h.elim

theorem debouncer_of_not_decides (hinput : ¬ step.IsInput) (h : ¬ step.Decides s) :
    (s.perform step).finder.session.debouncer = s.finder.session.debouncer := by
  cases step with
  | input text now => exact absurd trivial hinput
  | poll now =>
      have hnone := Option.not_isSome_iff_eq_none.mp h
      change (s.finder.poll now).2.session.debouncer = _
      rw [Finder.poll_of_none hnone]
  | commit term => exact absurd trivial h
  | recount =>
      obtain ⟨total, hrecount⟩ := s.finder.session_recount
      have htyping := s.finder.session.typing_updateTotal total
      rw [← hrecount] at htyping
      exact congrArg Prod.snd htyping
  | clear => exact absurd trivial h
  | start term direction =>
      have htyping := typing_beginStep s.issue.2 ⟨s.next, term, direction⟩
      rw [Finder.typing_committed] at htyping
      exact congrArg Prod.snd (htyping.trans (if_pos (Decidable.not_not.mp h)))
  | goTo id term n =>
      have htyping : (s.startGoTo id term n).2.finder.session.typing = s.finder.session.typing :=
        (proceeds_follow _ _ _ _ _).typing_eq.trans
          (congrArg FindSession.typing (s.finder.session_goTo _ _ _))
      exact congrArg Prod.snd htyping
  | resume number =>
      rw [perform]
      split
      · next task _ => exact congrArg Prod.snd (s.typing_resume task)
      · rfl
  | elsewhere panels registered => rfl

theorem pending_run_of_none (hinput : ∀ step ∈ steps, ¬ step.IsInput)
    (hnone : s.finder.session.debouncer.pending = none) :
    (s.run steps).finder.session.debouncer.pending = none := by
  induction steps generalizing s with
  | nil => exact hnone
  | cons step steps ih =>
      obtain ⟨hstep, hrest⟩ := List.forall_mem_cons.mp hinput
      apply ih hrest
      by_cases hdecides : step.Decides s
      · rw [debouncer_of_decides hdecides]
        rfl
      · rw [debouncer_of_not_decides hstep hdecides]
        exact hnone

theorem debouncer_run (hinput : ∀ step ∈ steps, ¬ step.IsInput) :
    (s.HoldsThrough steps →
        (s.run steps).finder.session.debouncer = s.finder.session.debouncer) ∧
      (¬ s.HoldsThrough steps → (s.run steps).finder.session.debouncer.pending = none) := by
  induction steps generalizing s with
  | nil => exact ⟨fun _ => rfl, fun hnot => absurd trivial hnot⟩
  | cons step steps ih =>
      obtain ⟨hstep, hrest⟩ := List.forall_mem_cons.mp hinput
      by_cases hdecides : step.Decides s
      · constructor
        · rintro ⟨hnot, -⟩
          exact absurd hdecides hnot
        · intro _
          apply pending_run_of_none hrest
          rw [debouncer_of_decides hdecides]
          rfl
      · obtain ⟨hheld, htaken⟩ := ih (s := s.perform step) hrest
        constructor
        · rintro ⟨-, hholds⟩
          exact (hheld hholds).trans (debouncer_of_not_decides hstep hdecides)
        · intro hnot
          exact htaken fun hholds => hnot ⟨hdecides, hholds⟩

end Held

theorem state_of_perform {s : Schedule σ} {number : Nat} {step : SearchStep σ}
    (hnone : s.results.lookup number = none)
    (hfound : (s.perform step).results.lookup number = some (.stepped true)) :
    (s.perform step).finder.session.state = .highlighted := by
  have hsame : s.results.lookup number ≠ some (.stepped true) := by
    rw [hnone]
    exact (Option.some_ne_none _).symm
  cases step with
  | start term direction =>
      obtain ⟨finder, -, hproceeds⟩ := s.issue.2.proceeds_beginStep ⟨s.next, term, direction⟩
      exact hproceeds.state_of_found hnone hfound
  | goTo id term n =>
      have hproceeds : Proceeds _ s.next (s.perform (.goTo id term n)) :=
        proceeds_follow _ _ _ _ _
      exact hproceeds.state_of_found hnone hfound
  | resume task =>
      revert hfound
      rw [perform]
      split
      · next task _ =>
          obtain ⟨finder, -, hproceeds⟩ := s.proceeds_resume task
          exact hproceeds.state_of_found hnone
      · exact fun hfound => absurd hfound hsame
  | _ => exact absurd hfound hsame

theorem state_of_returns {s : Schedule σ} {number : Nat} {step : SearchStep σ}
    {steps : List (SearchStep σ)} (hnone : s.results.lookup number = none)
    (hreturns : (s.perform step).Returns number (.stepped true) steps) :
    ((s.perform step).run steps).finder.session.state = .highlighted := by
  induction steps generalizing s step with
  | nil => exact state_of_perform hnone hreturns
  | cons later steps ih => exact ih hreturns.1 hreturns.2

theorem run_polls_of_not_pending {s : Schedule σ}
    (h : s.finder.session.debouncer.pending = none) (times : List Nat) :
    s.run (times.map .poll) = s := by
  have hpoll : ∀ now, s.perform (.poll now) = s := by
    intro now
    have hnone : (s.finder.session.poll now).1 = none :=
      congrArg Prod.fst (Debouncer.poll_of_not_pending h now)
    change s.withFinder (s.finder.poll now).2 = s
    rw [Finder.poll_of_none hnone]
    rfl
  induction times with
  | nil => rfl
  | cons now times ih =>
      change (s.perform (.poll now)).run (times.map .poll) = s
      rw [hpoll]
      exact ih

theorem session_poll_of_due {s : Schedule σ} {text : String} {typed now : Nat}
    (h : s.finder.session.debouncer.pending = some (text, typed))
    (hdue : typed + s.finder.session.debouncer.delay ≤ now) :
    (s.perform (.poll now)).finder.session.state ≠ .highlighted ∧
      (s.perform (.poll now)).finder.session.current = none := by
  have hpoll : (s.finder.session.poll now).1 = some text := Debouncer.poll_due h hdue
  obtain ⟨total, hcommit⟩ := Finder.session_poll_of_some hpoll
  change (s.finder.poll now).2.session.state ≠ _ ∧ (s.finder.poll now).2.session.current = _
  rw [hcommit]
  refine ⟨?_, rfl⟩
  change (if text = "" then SearchState.idle else if total = 0 then .noMatches else .ready) ≠ _
  split
  · decide
  · split <;> decide

theorem delay_perform (s : Schedule σ) (step : SearchStep σ) :
    (s.perform step).finder.session.debouncer.delay = s.finder.session.debouncer.delay := by
  by_cases hinput : step.IsInput
  · cases step with
    | input text now =>
        have htyping := s.finder.session.typing_input text now
        exact congrArg (·.2.delay) htyping
    | _ => exact hinput.elim
  · by_cases hdecides : step.Decides s
    · rw [debouncer_of_decides hdecides]
      rfl
    · rw [debouncer_of_not_decides hinput hdecides]

theorem delay_run (s : Schedule σ) (steps : List (SearchStep σ)) :
    (s.run steps).finder.session.debouncer.delay = s.finder.session.debouncer.delay := by
  induction steps generalizing s with
  | nil => rfl
  | cons step steps ih => exact (ih (s.perform step)).trans (s.delay_perform step)

/-- A text is typed last, and then a step with the same text finds an occurrence.  If something
has decided the term since the text was typed, polling changes nothing any more.  If nothing has,
because the text was the term already, the text is still held, and once the pause is over polling
gives the occurrence up. -/
theorem polls_keep_found (active : String) (settings : FindSettings)
    (before between meanwhile : List (SearchStep σ)) (text : String) (now : Nat)
    (direction : Direction) :
    let typed := ((new (.new active settings)).run before).perform (.input text now)
    let asked := typed.run between
    let begun := asked.perform (.start text direction)
    let r := begun.run meanwhile
    let since := between ++ .start text direction :: meanwhile
    (∀ step ∈ between ++ meanwhile, ¬ step.IsInput) →
      begun.Returns asked.next (.stepped true) meanwhile →
        r.finder.session.state = .highlighted ∧
          (¬ typed.HoldsThrough since → ∀ times : List Nat, r.run (times.map .poll) = r) ∧
          (typed.HoldsThrough since → ∀ time, now + settings.debounce ≤ time →
            (r.perform (.poll time)).finder.session.state ≠ .highlighted ∧
              (r.perform (.poll time)).finder.session.current = none) := by
  intro typed asked begun r since hinput hreturns
  have hnumbered : asked.IsNumbered :=
    (((isNumbered_new _).run before).perform _).run between
  have hsince : ∀ step ∈ since, ¬ step.IsInput := by
    intro step hstep
    rcases List.mem_append.mp hstep with hbetween | hlater
    · exact hinput step (List.mem_append_left _ hbetween)
    · rcases List.mem_cons.mp hlater with rfl | hmeanwhile
      · exact not_false
      · exact hinput step (List.mem_append_right _ hmeanwhile)
  have hrun : r = typed.run since := by
    change begun.run meanwhile =
      (between ++ .start text direction :: meanwhile).foldl perform typed
    rw [List.foldl_append]
    rfl
  obtain ⟨hheld, htaken⟩ := debouncer_run (s := typed) hsince
  rw [← hrun] at hheld htaken
  refine ⟨state_of_returns hnumbered.lookup_next hreturns, ?_, ?_⟩
  · intro hdecided
    exact run_polls_of_not_pending (htaken hdecided)
  · intro hholds time hdue
    have hdebouncer : typed.finder.session.debouncer =
        ((new (.new active settings)).run before).finder.session.debouncer.input text now :=
      congrArg Prod.snd (FindSession.typing_input _ text now)
    have hdelay : r.finder.session.debouncer.delay = settings.debounce := by
      rw [hheld hholds, hdebouncer]
      exact (new (.new active settings)).delay_run before
    have hpending : r.finder.session.debouncer.pending = some (text, now) := by
      rw [hheld hholds, hdebouncer]
      rfl
    apply session_poll_of_due hpending
    rw [hdelay]
    exact hdue

/-- The panel of the runs below, registered under the identifier to step in; all three items are
in its window. -/
def threeShown : SearchStep PagedSurface :=
  .elsewhere [.new threeMatches (.new threeMatches 3) {}] [("main", 0)]

theorem polls_keep_found_committed :
    let asked := ((new (.new "main" {})).run [threeShown]).run [.input "match" 0, .poll 100]
    let r := asked.perform (.start "match" .forward)
    r.Returns asked.next (.stepped true) [] ∧ r.finder.session.state = .highlighted ∧
      ∀ times : List Nat, r.run (times.map .poll) = r := by
  intro asked r
  have hreturns : r.results.lookup asked.next = some (.stepped true) := by
    decide +kernel
  have hinput : ∀ step ∈ [(.poll 100 : SearchStep PagedSurface)] ++ [], ¬ step.IsInput := by
    intro step hstep
    rw [List.mem_singleton.mp hstep]
    exact not_false
  obtain ⟨hstate, hkept, -⟩ := polls_keep_found "main" {} [threeShown] [.poll 100] [] "match" 0
    .forward hinput hreturns
  refine ⟨hreturns, hstate, hkept ?_⟩
  rintro ⟨hheld, -⟩
  apply hheld
  change (((asked.finder.session.input "match" 0).poll 100).1.isSome = true)
  decide +kernel

/-- The text is typed again that is searched for already, and then a step finds its first
occurrence.  The pause after the typing takes the cursor and the highlight of the occurrence
away. -/
theorem polls_lose_found_retyped :
    let asked := (new (.new "main" {})).run [threeShown, .commit "match", .input "match" 0]
    let r := asked.perform (.start "match" .forward)
    let s := r.perform (.poll 100)
    let current (q : Schedule PagedSurface) := q.finder.panels.map (·.surface.currentSpans)
    r.results.lookup asked.next = some (.stepped true) ∧
      r.finder.session.status = ⟨.highlighted, some "match", some 1, 3⟩ ∧
      current r = [[⟨"event-0", 0, 1, 0, 5⟩]] ∧
      s.finder.session.status = ⟨.ready, some "match", none, 3⟩ ∧ current s = [[]] := by
  decide +kernel

end Schedule

end TranscriptSearch
