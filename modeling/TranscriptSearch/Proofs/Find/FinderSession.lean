import TranscriptSearch.Find.Schedule
import TranscriptSearch.Proofs.Find.SessionRuns

namespace TranscriptSearch

namespace Debouncer

theorem poll_of_none {d : Debouncer} {now : Nat} (h : (d.poll now).1 = none) :
    (d.poll now).2 = d := by
  rw [poll] at h ⊢
  split at h
  · split at h
    · exact absurd h (Option.some_ne_none _)
    · next hearly => exact congrArg Prod.snd (if_neg hearly)
  · rfl

theorem poll_of_some {d : Debouncer} {now : Nat} {text : String}
    (h : (d.poll now).1 = some text) :
    (∃ typed, d.pending = some (text, typed)) ∧ (d.poll now).2 = d.cancel := by
  rw [poll] at h ⊢
  split at h
  · next text' typed hpending =>
      split at h
      · next hdue =>
          obtain rfl : text' = text := Option.some.inj h
          exact ⟨⟨typed, hpending⟩, congrArg Prod.snd (if_pos hdue)⟩
      · exact absurd h.symm (Option.some_ne_none text)
  · exact absurd h.symm (Option.some_ne_none text)

theorem poll_of_not_pending {d : Debouncer} (h : d.pending = none) (now : Nat) :
    d.poll now = (none, d) := by
  simp only [poll, h]

theorem poll_due {d : Debouncer} {text : String} {typed now : Nat}
    (h : d.pending = some (text, typed)) (hdue : typed + d.delay ≤ now) :
    (d.poll now).1 = some text := by
  simp only [poll, h]
  rw [if_pos (by omega)]

end Debouncer

namespace FindSession

/-- The term that is searched for, and the text that is typed. -/
def typing (s : FindSession) : Option String × Debouncer :=
  (s.term, s.debouncer)

theorem poll_of_none {s : FindSession} {now : Nat} (h : (s.poll now).1 = none) :
    s.poll now = (none, s) :=
  Prod.ext h (congrArg (fun debouncer => { s with debouncer }) (Debouncer.poll_of_none h))

theorem typing_commit (s : FindSession) (term : String) (total : Nat) :
    (s.commit term total).typing =
      (if term = "" then none else some term, s.debouncer.cancel) :=
  rfl

theorem typing_finish (s : FindSession) (seq : Nat) (outcome : NavOutcome) :
    (s.finish seq outcome).2.typing = s.typing := by
  obtain ⟨state, heq⟩ := s.finish_snd_eq seq outcome
  rw [heq]
  rfl

theorem typing_of_begin? {s after : FindSession} {direction : Direction}
    {request : NavigationRequest} (h : s.begin? direction = some (request, after)) :
    after.typing = s.typing := by
  obtain ⟨term, index, -, -, -, rfl⟩ := begin?_eq_some_iff.mp h
  rfl

theorem typing_updateTotal (s : FindSession) (total : Nat) :
    (s.updateTotal total).typing = s.typing := by
  rw [updateTotal]
  split
  · rfl
  · rfl

theorem typing_input (s : FindSession) (text : String) (now : Nat) :
    (s.input text now).typing = (s.term, s.debouncer.input text now) := by
  simp only [input]
  split
  · rfl
  · rfl

end FindSession

namespace Finder

variable {σ : Type}

@[simp] theorem session_modify (f : Finder σ) (panel : Nat) (change : FindPanel σ → FindPanel σ) :
    (f.modify panel change).session = f.session :=
  rfl

@[simp] theorem session_modifyGet {α : Type} (f : Finder σ) (panel : Nat)
    (change : FindPanel σ → α × FindPanel σ) :
    (f.modifyGet panel change).2.session = f.session := by
  rw [modifyGet]
  split
  · rfl
  · rfl

@[simp] theorem session_modifyRegistered (f : Finder σ) (change : FindPanel σ → FindPanel σ) :
    (f.modifyRegistered change).session = f.session := by
  have hfold : ∀ (entries : List (String × Nat)) (g : Finder σ),
      (entries.foldl (fun g entry => g.modify entry.2 change) g).session = g.session := by
    intro entries
    induction entries with
    | nil => intro g; rfl
    | cons entry entries ih => intro g; exact ih (g.modify entry.2 change)
  exact hfold f.registered f

@[simp] theorem session_countFor (f : Finder σ) (id term : String) :
    (f.countFor id term).2.session = f.session := by
  rw [countFor]
  split
  · rfl
  · exact f.session_modifyGet _ _

@[simp] theorem session_countAll (f : Finder σ) (term : String) :
    (f.countAll term).2.session = f.session := by
  have hfold : ∀ (entries : List (String × Nat)) (start : Nat × Finder σ),
      (entries.foldl (fun counted entry =>
        (counted.1 + (counted.2.modifyGet entry.2 (·.count term)).1.getD 0,
          (counted.2.modifyGet entry.2 (·.count term)).2)) start).2.session =
            start.2.session := by
    intro entries
    induction entries with
    | nil => intro start; rfl
    | cons entry entries ih =>
        intro start
        exact (ih _).trans (start.2.session_modifyGet entry.2 (·.count term))
  exact hfold f.registered (0, f)

@[simp] theorem session_totals (f : Finder σ) (term : String) :
    (f.totals term).2.2.session = f.session :=
  (session_countFor _ _ _).trans (f.session_countAll term)

theorem session_recount_of_some {f : Finder σ} {term : String} (h : f.session.term = some term) :
    f.recount.2.session = f.session.updateTotal (f.totals term).2.1 := by
  simp only [recount, h, session_totals]

theorem session_recount (f : Finder σ) :
    ∃ total, f.recount.2.session = f.session.updateTotal total := by
  cases hterm : f.session.term with
  | none =>
      refine ⟨0, ?_⟩
      rw [recount, hterm]
      exact (if_pos hterm).symm
  | some term => exact ⟨_, session_recount_of_some hterm⟩

variable [RenderSurface σ]

@[simp] theorem session_clearAll (f : Finder σ) : f.clearAll.session = f.session :=
  f.session_modifyRegistered _

@[simp] theorem session_highlightAll (f : Finder σ) (term : String) :
    (f.highlightAll term).session = f.session :=
  f.session_modifyRegistered _

theorem session_commit_eq (f : Finder σ) (term : String) :
    (f.commit term).2.session = f.session.commit term (f.clearAll.totals term).2.1 := by
  have hsession : (f.clearAll.totals term).2.2.session = f.session :=
    (session_totals _ _).trans f.session_clearAll
  rw [← hsession, commit]
  simp only
  split
  · rfl
  · rw [session_highlightAll]

theorem session_commit (f : Finder σ) (term : String) :
    ∃ total, (f.commit term).2.session = f.session.commit term total :=
  ⟨_, f.session_commit_eq term⟩

@[simp] theorem session_clear (f : Finder σ) : f.clear.session = f.session.clear :=
  session_clearAll _

@[simp] theorem session_goTo (f : Finder σ) (id term : String) (n : Nat) :
    (f.goTo id term n).2.session = f.session := by
  rw [goTo]
  split
  · rfl
  · exact f.session_modifyGet _ _

theorem poll_of_none {f : Finder σ} {now : Nat} (h : (f.session.poll now).1 = none) :
    f.poll now = (none, f) := by
  rw [poll, FindSession.poll_of_none h]

theorem poll_of_some {f : Finder σ} {now : Nat} {text : String}
    (h : (f.session.poll now).1 = some text) :
    (f.poll now).2 =
      ({ f with session.debouncer := f.session.debouncer.cancel }.commit text).2 := by
  have hpoll : f.session.poll now =
      (some text, { f.session with debouncer := f.session.debouncer.cancel }) :=
    Prod.ext h
      (congrArg (fun debouncer => { f.session with debouncer }) (Debouncer.poll_of_some h).2)
  rw [poll, hpoll]

theorem session_poll_of_some {f : Finder σ} {now : Nat} {text : String}
    (h : (f.session.poll now).1 = some text) :
    ∃ total, (f.poll now).2.session =
      { f.session with debouncer := f.session.debouncer.cancel }.commit text total := by
  rw [poll_of_some h]
  exact session_commit _ text

/-- The finder that a step begins with, in which its term is the one searched for. -/
def committed (f : Finder σ) (term : String) : Finder σ :=
  if f.session.term = some term then f else (f.commit term).2

theorem typing_committed (f : Finder σ) (term : String) :
    (f.committed term).session.typing = if f.session.term = some term then f.session.typing
      else (if term = "" then none else some term, f.session.debouncer.cancel) := by
  rw [committed]
  split
  · rfl
  · obtain ⟨total, hcommit⟩ := f.session_commit term
    rw [hcommit, FindSession.typing_commit]

theorem step_eq (f : Finder σ) (term : String) (direction : Direction) :
    f.step term direction = match (f.committed term).session.begin? direction with
      | none => (none, f.committed term)
      | some (request, session) =>
        let moved := { f.committed term with session }.goTo (f.committed term).active request.term
          request.index
        (some (request, moved.1), moved.2) :=
  rfl

theorem step_of_none {f : Finder σ} {term : String} {direction : Direction}
    (h : (f.committed term).session.begin? direction = none) :
    f.step term direction = (none, f.committed term) := by
  rw [step_eq, h]

theorem step_of_some {f : Finder σ} {term : String} {direction : Direction}
    {request : NavigationRequest} {session : FindSession}
    (h : (f.committed term).session.begin? direction = some (request, session)) :
    ∃ navigation after, f.step term direction = (some (request, navigation), after) ∧
      after.session = session := by
  rw [step_eq, h]
  exact ⟨_, _, rfl, session_goTo _ _ _ _⟩

end Finder

namespace Schedule

variable {σ : Type}

/-- What becomes of a search that begins or goes on: it waits, or it comes to a result.  A step
that comes to an occurrence leaves the session with the occurrence highlighted. -/
inductive Proceeds (s : Schedule σ) (number : Nat) (t : Schedule σ) : Prop
  | waits (panel : Nat) (pursuit : Pursuit) (heq : t = s.wait number panel pursuit)
  | ends (finder : Finder σ) (result : TaskResult)
      (htyping : finder.session.typing = s.finder.session.typing)
      (hstate : result = .stepped true → finder.session.state = .highlighted)
      (heq : t = (s.withFinder finder).finish number result)

theorem proceeds_finish (s : Schedule σ) (number : Nat) {result : TaskResult}
    (h : result ≠ .stepped true) : s.Proceeds number (s.finish number result) :=
  .ends s.finder result rfl (absurd · h) rfl

theorem proceeds_follow (s : Schedule σ) (number : Nat) (requester : Requester) (panel : Nat)
    (progress : Progress) : s.Proceeds number (s.follow number requester panel progress) := by
  cases progress with
  | waiting wait => exact .waits panel _ rfl
  | done outcome =>
      cases requester with
      | panel => exact s.proceeds_finish number (by simp)
      | registered id => exact s.proceeds_finish number (by simp)
      | session seq =>
          refine .ends (s.finder.finishStep seq panel outcome).2
            (.stepped (s.finder.finishStep seq panel outcome).1) ?_ ?_ rfl
          · exact FindSession.typing_finish _ _ _
          · intro hfound
            obtain ⟨happlied, hisFound⟩ := Bool.and_eq_true_iff.mp (TaskResult.stepped.inj hfound)
            change (s.finder.session.finish seq
              (s.finder.confirm s.finder.active panel outcome)).2.state = _
            rw [FindSession.finish_snd_of_fst happlied]
            exact if_pos hisFound

theorem proceeds_followLanding (s : Schedule σ) (number panel : Nat) (term : String)
    (landing : Landing) : s.Proceeds number (s.followLanding number panel term landing) := by
  cases landing with
  | done outcome => exact s.proceeds_finish number (by simp)
  | waiting index occurrence => exact .waits panel _ rfl

namespace Proceeds

variable {s t : Schedule σ} {number : Nat}

theorem typing_eq (h : s.Proceeds number t) :
    t.finder.session.typing = s.finder.session.typing := by
  cases h with
  | waits panel pursuit heq => rw [heq]; rfl
  | ends finder result htyping hstate heq => rw [heq]; exact htyping

theorem asked_eq (h : s.Proceeds number t) : t.asked = s.asked := by
  cases h with
  | waits panel pursuit heq => rw [heq]; rfl
  | ends finder result htyping hstate heq => rw [heq]; rfl

theorem state_of_found (h : s.Proceeds number t) {other : Nat}
    (hnone : s.results.lookup other = none)
    (hfound : t.results.lookup other = some (.stepped true)) :
    t.finder.session.state = .highlighted := by
  cases h with
  | waits panel pursuit heq =>
      rw [heq] at hfound
      exact absurd (hfound.symm.trans hnone) (Option.some_ne_none _)
  | ends finder result htyping hstate heq =>
      rw [heq] at hfound ⊢
      change ((number, result) :: s.results).lookup other = _ at hfound
      rw [List.lookup_cons] at hfound
      split at hfound
      · exact hstate (Option.some.inj hfound)
      · exact absurd (hfound.symm.trans hnone) (Option.some_ne_none _)

end Proceeds

variable [RenderSurface σ]

theorem proceeds_resume (s : Schedule σ) (task : FindTask) :
    ∃ finder : Finder σ, finder.session = s.finder.session ∧
      Proceeds { s with finder, tasks := s.tasks.filter (·.number ≠ task.number) } task.number
        (s.resume task) := by
  rw [resume]
  simp only
  split
  · exact ⟨_, Finder.session_modifyGet _ _ _, proceeds_follow _ _ _ _ _⟩
  · refine ⟨_, ?_, proceeds_finish _ _ ?_⟩
    · exact Finder.session_modify _ _ _
    · simp
  · exact ⟨_, Finder.session_modifyGet _ _ _, proceeds_followLanding _ _ _ _ _⟩

theorem proceeds_beginStep (s : Schedule σ) (step : AskedStep) :
    ∃ finder : Finder σ,
      finder.session.typing = (s.finder.committed step.term).session.typing ∧
        Proceeds { s with finder, asked := s.asked.filter (·.number ≠ step.number) } step.number
          (s.beginStep step) := by
  rw [beginStep]
  rcases hbegin : (s.finder.committed step.term).session.begin? step.direction with
    _ | ⟨request, session⟩
  · rw [Finder.step_of_none hbegin]
    exact ⟨_, rfl, proceeds_finish _ _ (by simp)⟩
  · obtain ⟨navigation, after, hstep, hsession⟩ := Finder.step_of_some hbegin
    rw [hstep]
    refine ⟨after, ?_, proceeds_follow _ _ _ _ _⟩
    rw [hsession, FindSession.typing_of_begin? hbegin]

theorem typing_resume (s : Schedule σ) (task : FindTask) :
    (s.resume task).finder.session.typing = s.finder.session.typing := by
  obtain ⟨finder, hsession, hproceeds⟩ := s.proceeds_resume task
  exact hproceeds.typing_eq.trans (congrArg FindSession.typing hsession)

theorem typing_beginStep (s : Schedule σ) (step : AskedStep) :
    (s.beginStep step).finder.session.typing = (s.finder.committed step.term).session.typing := by
  obtain ⟨finder, htyping, hproceeds⟩ := s.proceeds_beginStep step
  exact hproceeds.typing_eq.trans htyping

end Schedule

end TranscriptSearch
