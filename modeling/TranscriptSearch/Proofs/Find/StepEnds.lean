import TranscriptSearch.Proofs.Find.OverlappingSteps

namespace TranscriptSearch

/-- How a step has ended. -/
inductive StepEnd where
  /-- The term did not occur, so there was no request. -/
  | declined
  /-- A request has come to an outcome, and was the latest one of the session still or not. -/
  | ended (request : Nat) (outcome : NavOutcome) (isLatest : Bool)
deriving DecidableEq

namespace StepEnd

/-- Whether the step has come to an occurrence that still counts. -/
def hasLanded : StepEnd → Bool
  | declined => false
  | ended _ outcome isLatest => isLatest && outcome.isFound

/-- Whether the occurrence was not found, although it was still being gone to. -/
def IsMissed (e : StepEnd) : Prop :=
  ∃ request reason, e = ended request (.notFound reason) true

/-- Whether the request was not the latest one any more. -/
def IsOvertaken (e : StepEnd) : Prop :=
  ∃ request outcome, e = ended request outcome false

/-- What is known of an end in a session that has come to a number. -/
def IsProper (seq : Nat) : StepEnd → Prop
  | declined => True
  | ended request outcome isLatest => request ≤ seq ∧
      if isLatest = true then outcome ≠ .superseded else request < seq

theorem IsProper.mono {seq later : Nat} {e : StepEnd} (h : e.IsProper seq) (hle : seq ≤ later) :
    e.IsProper later := by
  cases e with
  | declined => exact trivial
  | ended request outcome isLatest =>
      refine ⟨Nat.le_trans h.1 hle, ?_⟩
      cases isLatest with
      | true => exact h.2
      | false => exact Nat.lt_of_lt_of_le h.2 hle

theorem IsProper.hasLanded_eq_false_iff {seq : Nat} {e : StepEnd} (h : e.IsProper seq) :
    e.hasLanded = false ↔ e = declined ∨ e.IsMissed ∨ e.IsOvertaken := by
  constructor
  · intro hlanded
    cases e with
    | declined => exact .inl rfl
    | ended request outcome isLatest =>
        cases isLatest with
        | false => exact .inr (.inr ⟨request, outcome, rfl⟩)
        | true =>
            cases outcome with
            | found target => exact Bool.noConfusion hlanded
            | notFound reason => exact .inr (.inl ⟨request, reason, rfl⟩)
            | superseded => exact absurd rfl h.2
  · rintro (rfl | ⟨request, reason, rfl⟩ | ⟨request, outcome, rfl⟩)
    · rfl
    · rfl
    · rfl

end StepEnd

namespace Finder

variable {σ : Type}

/-- The end of a step whose request has come to something in a panel; there is none as long as it
waits. -/
def endOf (f : Finder σ) (request panel : Nat) : Progress → Option StepEnd
  | .waiting _ => none
  | .done outcome =>
    some (.ended request (f.confirm f.active panel outcome) (request = f.session.seq))

theorem hasLanded_finishStep (f : Finder σ) (request panel : Nat) (outcome : NavOutcome) :
    (f.finishStep request panel outcome).1 =
      (StepEnd.ended request (f.confirm f.active panel outcome)
        (request = f.session.seq)).hasLanded := by
  change ((f.session.finish request (f.confirm f.active panel outcome)).1 && _) = (decide _ && _)
  by_cases hlatest : request = f.session.seq
  · rw [decide_eq_true hlatest, hlatest]
    cases f.confirm f.active panel outcome <;> simp [FindSession.finish, NavOutcome.isFound]
  · rw [FindSession.finish_of_ne hlatest, decide_eq_false hlatest]

theorem isProper_ended {f : Finder σ} {request panel : Nat} {outcome : NavOutcome}
    (hseq : request ≤ f.session.seq) (hserved : f.IsServedBy request panel (.done outcome)) :
    (StepEnd.ended request (f.confirm f.active panel outcome) (request = f.session.seq)).IsProper
      f.session.seq := by
  refine ⟨hseq, ?_⟩
  split
  · next hlatest => exact confirm_ne_superseded (of_decide_eq_true hlatest) hserved
  · next hlatest => exact Nat.lt_of_le_of_ne hseq fun heq => hlatest (decide_eq_true heq)

end Finder

namespace Schedule

variable {σ : Type}

section Queued

variable {s t : Schedule σ} {number : Nat} {ending : Option StepEnd}

/-- How a schedule stands in which the steps that are to begin have numbers of their own. -/
structure IsQueued (s : Schedule σ) : Prop where
  isSteady : s.IsSteady
  nodup : (s.asked.map AskedStep.number).Nodup
  isFree : ∀ step ∈ s.asked, s.IsFree step.number

theorem isQueued_new {f : Finder σ} (h : f.IsSound) : (new f).IsQueued :=
  ⟨isSteady_new h, List.nodup_nil, nofun⟩

theorem IsQueued.of_follows (h : s.IsQueued) {g : Finder σ}
    (hfollows : Finder.Follows s.IsBusy s.finder g) (now : Nat) :
    IsQueued { s with finder := g, now } where
  isSteady := h.isSteady.of_sublist (List.Sublist.refl s.tasks) rfl (Nat.le_refl s.next) hfollows
  nodup := h.nodup
  isFree step hstep := ⟨(h.isFree step hstep).lt_next, (h.isFree step hstep).not_waiting,
    (h.isFree step hstep).unanswered⟩

theorem IsQueued.withoutResults (h : s.IsQueued) : IsQueued { s with results := [] } where
  isSteady := ⟨h.isSteady.isSound, ⟨h.isSteady.isNumbered.tasks, nofun⟩, h.isSteady.nodup,
    fun _ _ => rfl, h.isSteady.agrees⟩
  nodup := h.nodup
  isFree step hstep := ⟨(h.isFree step hstep).lt_next, (h.isFree step hstep).not_waiting, rfl⟩

theorem IsFree.issued {number : Nat} (h : s.IsFree number) (asked : List AskedStep) :
    IsFree { s.issue.2 with asked } number :=
  ⟨Nat.lt_succ_of_lt h.lt_next, h.not_waiting, h.unanswered⟩

theorem IsQueued.askStep (h : s.IsQueued) (term : String) (direction : Direction) :
    (s.askStep term direction).2.IsQueued := by
  refine ⟨?_, ?_, ?_⟩
  · exact h.isSteady.of_sublist (List.Sublist.refl s.tasks) rfl (Nat.le_succ s.next)
      (.refl h.isSteady.isSound)
  · change ((s.asked ++ [_]).map AskedStep.number).Nodup
    rw [List.map_append, List.nodup_append]
    refine ⟨h.nodup, List.nodup_singleton _, ?_⟩
    intro other hother _ hnew
    obtain ⟨step, hstep, rfl⟩ := List.mem_map.mp hother
    rw [List.mem_singleton.mp hnew]
    exact Nat.ne_of_lt (h.isFree step hstep).lt_next
  · refine List.forall_mem_append.mpr ⟨fun step hstep => (h.isFree step hstep).issued _, ?_⟩
    exact List.forall_mem_singleton.mpr (h.isSteady.isFree_next s.finder _)

/-- What a step can do when it begins or goes on, in a schedule in which it is not to begin and
does not wait. -/
inductive Continues (s : Schedule σ) (number : Nat) : Option StepEnd → Schedule σ → Prop
  | declines : Continues s number (some .declined) (s.finish number (.stepped false))
  | pursues {request panel : Nat} {progress : Progress} (hseq : request ≤ s.finder.session.seq)
      (hserved : s.finder.IsServedBy request panel progress) :
      Continues s number (s.finder.endOf request panel progress)
        (s.follow number (.session request) panel progress)

namespace Continues

theorem isSteady (h : s.Continues number ending t) (hsteady : s.IsSteady)
    (hfree : s.IsFree number) :
    t.IsSteady := by
  cases h with
  | declines => exact hsteady.finish hfree _
  | pursues hseq hserved => exact hsteady.follow hfree hserved

theorem asked_eq (h : s.Continues number ending t) : t.asked = s.asked := by
  cases h with
  | declines => rfl
  | @pursues request panel progress hseq hserved => cases progress <;> rfl

theorem seq_eq (h : s.Continues number ending t) :
    t.finder.session.seq = s.finder.session.seq := by
  cases h with
  | declines => rfl
  | @pursues request panel progress hseq hserved =>
      cases progress with
      | waiting wait => rfl
      | done outcome =>
          obtain ⟨state, heq⟩ := s.finder.finishStep_snd_eq request panel outcome
          exact congrArg (·.session.seq) heq

theorem results_eq (h : s.Continues number ending t) :
    t.results = ending.toList.map (fun e => (number, .stepped e.hasLanded)) ++ s.results := by
  cases h with
  | declines => rfl
  | @pursues request panel progress hseq hserved =>
      cases progress with
      | waiting wait => rfl
      | done outcome =>
          change (number, TaskResult.stepped (s.finder.finishStep request panel outcome).1) ::
            s.results = _
          rw [s.finder.hasLanded_finishStep request panel outcome]
          rfl

theorem length_tasks (h : s.Continues number ending t) :
    t.tasks.length + ending.toList.length = s.tasks.length + 1 := by
  cases h with
  | declines => rfl
  | @pursues request panel progress hseq hserved =>
      cases progress with
      | waiting wait => exact List.length_append
      | done outcome => rfl

theorem isProper (h : s.Continues number ending t) {e : StepEnd} (he : e ∈ ending) :
    e.IsProper t.finder.session.seq := by
  rw [h.seq_eq]
  cases h with
  | declines =>
      obtain rfl := Option.some.inj he
      exact trivial
  | @pursues request panel progress hseq hserved =>
      cases progress with
      | waiting wait => exact absurd he nofun
      | done outcome =>
          obtain rfl := Option.some.inj he
          exact Finder.isProper_ended hseq hserved

theorem isFree (h : s.Continues number ending t) {other : Nat} (hother : s.IsFree other)
    (hne : other ≠ number) : t.IsFree other := by
  have hfinish : ∀ (finder : Finder σ) (result : TaskResult),
      ((s.withFinder finder).finish number result).IsFree other := fun _ _ =>
    ⟨hother.lt_next, hother.not_waiting, (lookup_cons_of_ne hne).trans hother.unanswered⟩
  cases h with
  | declines => exact hfinish s.finder _
  | @pursues request panel progress hseq hserved =>
      cases progress with
      | done outcome => exact hfinish _ _
      | waiting wait =>
          refine ⟨hother.lt_next, ?_, hother.unanswered⟩
          exact List.forall_mem_append.mpr
            ⟨hother.not_waiting, List.forall_mem_singleton.mpr (Ne.symm hne)⟩

theorem isQueued (h : s.Continues number ending t) (hqueued : s.IsQueued)
    (hfree : s.IsFree number)
    (hnumber : ∀ step ∈ s.asked, step.number ≠ number) : t.IsQueued := by
  refine ⟨h.isSteady hqueued.isSteady hfree, ?_, ?_⟩
  · rw [h.asked_eq]
    exact hqueued.nodup
  · rw [h.asked_eq]
    exact fun step hstep => h.isFree (hqueued.isFree step hstep) (hnumber step hstep)

end Continues

theorem length_filter_ne {α : Type} {values : List α} {key : α → Nat}
    (hnodup : (values.map key).Nodup)
    {a : α} (ha : a ∈ values) : (values.filter (key · ≠ key a)).length + 1 = values.length := by
  have hmapped : (values.filter (key · ≠ key a)).map key = (values.map key).erase (key a) := by
    rw [hnodup.erase_eq_filter, List.filter_map]
    congr 1
    exact List.filter_congr fun b _ => by simp [bne, beq_eq_decide]
  have hlength := congrArg List.length hmapped
  rw [List.length_map, List.length_erase_of_mem (List.mem_map_of_mem ha),
    List.length_map] at hlength
  have hpos : 0 < values.length := List.length_pos_of_mem ha
  omega

theorem IsQueued.withoutAsked (h : s.IsQueued) {g : Finder σ}
    (hfollows : Finder.Follows s.IsBusy s.finder g) {step : AskedStep} (hstep : step ∈ s.asked) :
    let t := { s with finder := g, asked := s.asked.filter (·.number ≠ step.number) }
    t.IsQueued ∧ t.IsFree step.number := by
  have hfollowed := h.of_follows hfollows s.now
  constructor
  · refine ⟨hfollowed.isSteady.of_sublist (List.Sublist.refl _) rfl (Nat.le_refl _) ?_, ?_, ?_⟩
    · exact .refl hfollows.isSound
    · exact h.nodup.sublist (List.filter_sublist.map _)
    · intro other hother
      have hfree := hfollowed.isFree other (List.mem_filter.mp hother).1
      exact ⟨hfree.lt_next, hfree.not_waiting, hfree.unanswered⟩
  · have hfree := hfollowed.isFree step hstep
    exact ⟨hfree.lt_next, hfree.not_waiting, hfree.unanswered⟩

theorem IsQueued.withoutTask (h : s.IsQueued) {g : Finder σ}
    (hfollows : Finder.Follows s.IsBusy s.finder g) {task : FindTask} (htask : task ∈ s.tasks) :
    let t := { s with finder := g, tasks := s.tasks.filter (·.number ≠ task.number) }
    t.IsQueued ∧ t.IsFree task.number := by
  constructor
  · refine ⟨h.isSteady.of_sublist List.filter_sublist rfl (Nat.le_refl _) hfollows, h.nodup, ?_⟩
    intro step hstep
    have hfree := h.isFree step hstep
    refine ⟨hfree.lt_next, ?_, hfree.unanswered⟩
    exact fun other hother => hfree.not_waiting other (List.mem_filter.mp hother).1
  · exact h.isSteady.isFree_resumed htask g

end Queued

section Ends

variable [RenderSurface σ] {s : Schedule σ}

/-- How a step that begins ends at once, if it does. -/
def endOfStart (s : Schedule σ) (step : AskedStep) : Option StepEnd :=
  match s.finder.step step.term step.direction with
  | (none, _) => some .declined
  | (some (request, navigation), finder) =>
    finder.endOf request.seq navigation.panel navigation.progress

/-- How a step that goes on ends, if it does. -/
def endOfResume (s : Schedule σ) (task : FindTask) : Option StepEnd :=
  match task.pursuit with
  | .navigation (.session request) wait =>
    let (progress, finder) := s.finder.modifyGet task.panel (·.resume wait)
    finder.endOf request task.panel (progress.getD (.done (.notFound .panelUnavailable)))
  | _ => none

theorem continues_beginStep (h : s.finder.IsSound) (step : AskedStep) :
    ∃ g, Finder.Follows s.IsBusy s.finder g ∧
      Continues
        { s with finder := g, asked := s.asked.filter (·.number ≠ step.number) } step.number
        (s.endOfStart step) (s.beginStep step) := by
  have hstarted : Finder.Started s.IsBusy s.finder (s.finder.step step.term step.direction) :=
    Finder.started_step h step.term step.direction
  rw [beginStep, endOfStart]
  generalize s.finder.step step.term step.direction = begun at hstarted
  cases hstarted with
  | declines hfollows hstays => exact ⟨_, hfollows, .declines⟩
  | requests hfollows hnewer hlatest hserved =>
      exact ⟨_, hfollows, .pursues (Nat.le_of_eq hlatest) hserved⟩

theorem continues_resume (h : s.IsSteady) {task : FindTask} (htask : task ∈ s.tasks) :
    ∃ g, Finder.Follows s.IsBusy s.finder g ∧ g.session = s.finder.session ∧
      Continues
        { s with finder := g, tasks := s.tasks.filter (·.number ≠ task.number) } task.number
        (s.endOfResume task) (s.resume task) := by
  obtain ⟨request, wait, hpursuit, hagrees⟩ := h.agrees task htask
  have hsession : (s.finder.modifyGet task.panel (·.resume wait)).2.session = s.finder.session :=
    s.finder.session_modifyGet task.panel _
  rw [resume, endOfResume, hpursuit]
  refine ⟨_, Finder.follows_resume h.isSound task.panel wait, hsession, ?_⟩
  exact .pursues (hsession ▸ hagrees.seq_le) (Finder.isServedBy_resume hagrees)

/-- What becomes of the steps of a schedule when one of them begins or goes on: it may come to an
end, and what it reports is no more than whether it has landed. -/
structure Ends (s : Schedule σ) (number : Nat) (ending : Option StepEnd) (t : Schedule σ) :
    Prop where
  isQueued : t.IsQueued
  results_eq :
    t.results = ending.toList.map (fun e => (number, .stepped e.hasLanded)) ++ s.results
  length_eq : t.asked.length + t.tasks.length + ending.toList.length =
    s.asked.length + s.tasks.length
  seq_le : s.finder.session.seq ≤ t.finder.session.seq
  isProper : ∀ e ∈ ending, e.IsProper t.finder.session.seq

theorem IsQueued.ends_beginStep (h : s.IsQueued) {step : AskedStep} (hstep : step ∈ s.asked) :
    s.Ends step.number (s.endOfStart step) (s.beginStep step) := by
  obtain ⟨g, hfollows, hcontinues⟩ := continues_beginStep h.isSteady.isSound step
  obtain ⟨hqueued, hfree⟩ := h.withoutAsked hfollows hstep
  have hlength : (s.asked.filter (·.number ≠ step.number)).length + 1 = s.asked.length :=
    length_filter_ne h.nodup hstep
  refine ⟨?_, hcontinues.results_eq, ?_, ?_, fun e he => hcontinues.isProper he⟩
  · exact hcontinues.isQueued hqueued hfree fun other hother =>
      of_decide_eq_true (List.mem_filter.mp hother).2
  · have htasks : _ = s.tasks.length + 1 := hcontinues.length_tasks
    rw [hcontinues.asked_eq]
    change (s.asked.filter (·.number ≠ step.number)).length + _ + _ = _
    omega
  · rw [hcontinues.seq_eq]
    exact hfollows.seq_le

theorem IsQueued.ends_resume (h : s.IsQueued) {task : FindTask} (htask : task ∈ s.tasks) :
    s.Ends task.number (s.endOfResume task) (s.resume task) ∧
      (s.resume task).finder.session.seq = s.finder.session.seq := by
  obtain ⟨g, hfollows, hsession, hcontinues⟩ := continues_resume h.isSteady htask
  obtain ⟨hqueued, hfree⟩ := h.withoutTask hfollows htask
  have hlength : (s.tasks.filter (·.number ≠ task.number)).length + 1 = s.tasks.length :=
    length_filter_ne h.isSteady.nodup htask
  have hseq : (s.resume task).finder.session.seq = s.finder.session.seq :=
    hcontinues.seq_eq.trans (congrArg FindSession.seq hsession)
  refine ⟨⟨?_, hcontinues.results_eq, ?_, Nat.le_of_eq hseq.symm,
    fun e he => hcontinues.isProper he⟩, hseq⟩
  · exact hcontinues.isQueued hqueued hfree fun step hstep =>
      Ne.symm ((h.isFree step hstep).not_waiting task htask)
  · have htasks : _ = (s.tasks.filter (·.number ≠ task.number)).length + 1 :=
      hcontinues.length_tasks
    rw [hcontinues.asked_eq]
    change s.asked.length + _ + _ = _
    omega

end Ends

end Schedule

end TranscriptSearch
