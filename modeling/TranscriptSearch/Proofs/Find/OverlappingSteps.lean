import Mathlib.Data.List.Nodup
import TranscriptSearch.Proofs.Find.HeldText
import TranscriptSearch.Proofs.Find.StepTickets

namespace TranscriptSearch

namespace Schedule

variable {σ : Type}

/-- Whether a task waits in a panel. -/
def IsBusy (s : Schedule σ) (panel : Nat) : Prop :=
  ∃ task ∈ s.tasks, task.panel = panel

/-- Whether a number is given out to a search that neither waits nor has a result. -/
structure IsFree (s : Schedule σ) (number : Nat) : Prop where
  lt_next : number < s.next
  not_waiting : ∀ task ∈ s.tasks, task.number ≠ number
  unanswered : s.results.lookup number = none

/-- How a schedule stands in which nothing but steps of the session is under way. -/
structure IsSteady (s : Schedule σ) : Prop where
  isSound : s.finder.IsSound
  isNumbered : s.IsNumbered
  nodup : (s.tasks.map FindTask.number).Nodup
  unanswered : ∀ task ∈ s.tasks, s.results.lookup task.number = none
  agrees : ∀ task ∈ s.tasks, ∃ seq wait, task.pursuit = .navigation (.session seq) wait ∧
    s.finder.AgreesOn seq task.panel wait.ticket

theorem isSteady_new {f : Finder σ} (h : f.IsSound) : (new f).IsSteady :=
  ⟨h, isNumbered_new f, List.nodup_nil, by simp [new], by simp [new]⟩

/-- Whether the latest request of the session is pursued by the task with a number. -/
def IsPursued (s : Schedule σ) (latest : Option Nat) : Prop :=
  ∃ task ∈ s.tasks, latest = some task.number ∧
    ∃ wait, task.pursuit = .navigation (.session s.finder.session.seq) wait

/-- Whether a step can never come to an occurrence: it has ended without one, or it does not count
any more. -/
structure IsGivenUp (s : Schedule σ) (number : Nat) : Prop where
  lt_next : number < s.next
  outdated : ∀ task ∈ s.tasks, task.number = number → ∀ seq wait,
    task.pursuit = .navigation (.session seq) wait → seq < s.finder.session.seq
  unfound : s.results.lookup number ≠ some (.stepped true)

section Tasks

variable {s t : Schedule σ} {number : Nat}

theorem lookup_cons_of_ne {results : List (Nat × TaskResult)} {other : Nat} {result : TaskResult}
    (h : other ≠ number) : ((number, result) :: results).lookup other = results.lookup other := by
  rw [List.lookup_cons, beq_eq_false_iff_ne.mpr h]

theorem IsSteady.eq_of_number_eq (h : s.IsSteady) {a b : FindTask} (ha : a ∈ s.tasks)
    (hb : b ∈ s.tasks) (heq : a.number = b.number) : a = b :=
  List.inj_on_of_nodup_map h.nodup ha hb heq

theorem IsSteady.of_sublist (h : s.IsSteady) (htasks : t.tasks.Sublist s.tasks)
    (hresults : t.results = s.results) (hnext : s.next ≤ t.next)
    (hfollows : Finder.Follows s.IsBusy s.finder t.finder) : t.IsSteady := by
  refine ⟨hfollows.isSound, ⟨?_, ?_⟩, h.nodup.sublist (htasks.map _), ?_, ?_⟩
  · intro task htask
    exact Nat.lt_of_lt_of_le (h.isNumbered.tasks task (htasks.subset htask)) hnext
  · rw [hresults]
    intro result hresult
    exact Nat.lt_of_lt_of_le (h.isNumbered.results result hresult) hnext
  · rw [hresults]
    exact fun task htask => h.unanswered task (htasks.subset htask)
  · intro task htask
    obtain ⟨seq, wait, hpursuit, hagrees⟩ := h.agrees task (htasks.subset htask)
    exact ⟨seq, wait, hpursuit, hagrees.of_follows hfollows ⟨task, htasks.subset htask, rfl⟩⟩

theorem IsSteady.finish (h : s.IsSteady) (hfree : s.IsFree number) (result : TaskResult) :
    (s.finish number result).IsSteady := by
  refine ⟨h.isSound, ⟨h.isNumbered.tasks, ?_⟩, h.nodup, ?_, h.agrees⟩
  · exact List.forall_mem_cons.mpr ⟨hfree.lt_next, h.isNumbered.results⟩
  · intro task htask
    exact (lookup_cons_of_ne (hfree.not_waiting task htask)).trans (h.unanswered task htask)

theorem IsSteady.wait (h : s.IsSteady) (hfree : s.IsFree number) {seq panel : Nat}
    {wait : Waiting}
    (hagrees : s.finder.AgreesOn seq panel wait.ticket) :
    (s.wait number panel (.navigation (.session seq) wait)).IsSteady := by
  refine ⟨h.isSound, ⟨?_, h.isNumbered.results⟩, ?_, ?_, ?_⟩
  · exact List.forall_mem_append.mpr
      ⟨h.isNumbered.tasks, List.forall_mem_singleton.mpr hfree.lt_next⟩
  · change ((s.tasks ++ [_]).map FindTask.number).Nodup
    rw [List.map_append, List.nodup_append]
    refine ⟨h.nodup, List.nodup_singleton _, ?_⟩
    intro other hother _ hnew
    obtain ⟨task, htask, rfl⟩ := List.mem_map.mp hother
    rw [List.mem_singleton.mp hnew]
    exact hfree.not_waiting task htask
  · exact List.forall_mem_append.mpr
      ⟨h.unanswered, List.forall_mem_singleton.mpr hfree.unanswered⟩
  · exact List.forall_mem_append.mpr
      ⟨h.agrees, List.forall_mem_singleton.mpr ⟨seq, wait, rfl, hagrees⟩⟩

theorem follows_finishStep (h : s.finder.IsSound) (seq panel : Nat) (outcome : NavOutcome) :
    Finder.Follows s.IsBusy s.finder (s.finder.finishStep seq panel outcome).2 := by
  obtain ⟨state, heq⟩ := s.finder.finishStep_snd_eq seq panel outcome
  rw [heq]
  exact .of_keepsTickets h (.withSession s.finder _) rfl

theorem IsSteady.follow (h : s.IsSteady) (hfree : s.IsFree number) {seq panel : Nat}
    {progress : Progress} (hserved : s.finder.IsServedBy seq panel progress) :
    (s.follow number (.session seq) panel progress).IsSteady := by
  cases progress with
  | waiting wait => exact h.wait hfree hserved
  | done outcome =>
      have hended : (s.withFinder (s.finder.finishStep seq panel outcome).2).IsSteady :=
        h.of_sublist (List.Sublist.refl s.tasks) rfl (Nat.le_refl s.next)
          (follows_finishStep h.isSound seq panel outcome)
      exact hended.finish ⟨hfree.lt_next, hfree.not_waiting, hfree.unanswered⟩ _

/-- A navigation that begins or goes on either is the one that the session waits for, or leaves
that one to wait. -/
theorem isPursued_follow {latest : Option Nat} {seq panel : Nat} {progress : Progress}
    (hserved : s.finder.IsServedBy seq panel progress)
    (hpursued : s.finder.session.state = .navigating →
      s.IsPursued latest ∨ seq = s.finder.session.seq ∧ latest = some number)
    (hstate : (s.follow number (.session seq) panel progress).finder.session.state =
      .navigating) :
    (s.follow number (.session seq) panel progress).IsPursued latest := by
  cases progress with
  | waiting wait =>
      rcases hpursued hstate with ⟨task, htask, hlatest, hpursuit⟩ | ⟨rfl, hlatest⟩
      · exact ⟨task, List.mem_append_left _ htask, hlatest, hpursuit⟩
      · exact ⟨_, List.mem_append_right _ (List.mem_singleton_self _), hlatest, wait, rfl⟩
  | done outcome =>
      change (s.finder.finishStep seq panel outcome).2.session.state = .navigating at hstate
      by_cases hseq : seq = s.finder.session.seq
      · exact absurd hstate (Finder.state_finishStep_ne hseq hserved)
      · have hsame := congrArg Prod.snd (Finder.finishStep_of_seq_ne hseq panel outcome)
        rw [hsame] at hstate
        obtain ⟨task, htask, hlatest, hpursuit⟩ :=
          (hpursued hstate).resolve_right fun hright => hseq hright.1
        refine ⟨task, htask, hlatest, ?_⟩
        change ∃ wait, task.pursuit =
          .navigation (.session (s.finder.finishStep seq panel outcome).2.session.seq) wait
        rwa [hsame]

theorem IsGivenUp.of_sublist (h : s.IsGivenUp number) (htasks : t.tasks.Sublist s.tasks)
    (hresults : t.results = s.results) (hnext : s.next ≤ t.next)
    (hseq : s.finder.session.seq ≤ t.finder.session.seq) : t.IsGivenUp number := by
  refine ⟨Nat.lt_of_lt_of_le h.lt_next hnext, ?_, hresults ▸ h.unfound⟩
  intro task htask hnumber seq wait hpursuit
  exact Nat.lt_of_lt_of_le (h.outdated task (htasks.subset htask) hnumber seq wait hpursuit) hseq

theorem IsGivenUp.finish (h : s.IsGivenUp number) {other : Nat} {result : TaskResult}
    (hresult : other = number → result ≠ .stepped true) :
    (s.finish other result).IsGivenUp number := by
  refine ⟨h.lt_next, h.outdated, ?_⟩
  change ((other, result) :: s.results).lookup number ≠ _
  by_cases hother : other = number
  · rw [hother, List.lookup_cons_self]
    exact fun hfound => hresult hother (Option.some.inj hfound)
  · rw [lookup_cons_of_ne (Ne.symm hother)]
    exact h.unfound

theorem IsGivenUp.follow (h : s.IsGivenUp number) {other seq panel : Nat}
    (hother : other = number → seq < s.finder.session.seq) (progress : Progress) :
    (s.follow other (.session seq) panel progress).IsGivenUp number := by
  cases progress with
  | waiting wait =>
      refine ⟨h.lt_next, List.forall_mem_append.mpr ⟨h.outdated, ?_⟩, h.unfound⟩
      refine List.forall_mem_singleton.mpr fun hnumber other wait hpursuit => ?_
      obtain ⟨⟨rfl⟩, -⟩ := Pursuit.navigation.inj hpursuit
      exact hother hnumber
  | done outcome =>
      obtain ⟨state, heq⟩ := s.finder.finishStep_snd_eq seq panel outcome
      have hended :
          (s.withFinder (s.finder.finishStep seq panel outcome).2).IsGivenUp number := by
        refine h.of_sublist (List.Sublist.refl s.tasks) rfl (Nat.le_refl s.next) ?_
        exact Nat.le_of_eq (congrArg (·.session.seq) heq).symm
      refine hended.finish fun hnumber hfound => ?_
      have hunnoticed : (s.finder.finishStep seq panel outcome).1 = false :=
        congrArg Prod.fst
          (Finder.finishStep_of_seq_ne (Nat.ne_of_lt (hother hnumber)) panel outcome)
      exact Bool.false_ne_true (hunnoticed.symm.trans (TaskResult.stepped.inj hfound))

end Tasks

section Steps

variable [RenderSurface σ]

/-- Whether a step is one of the session, or something that may happen to the panels meanwhile. -/
def Allows (s : Schedule σ) : SearchStep σ → Prop
  | .goTo .. => False
  | .elsewhere panels registered =>
    Finder.Meanwhile s.IsBusy s.finder { s.finder with panels, registered }
  | _ => True

def AllowsAll (s : Schedule σ) : List (SearchStep σ) → Prop
  | [] => True
  | step :: steps => s.Allows step ∧ (s.perform step).AllowsAll steps

/-- The number of the task that a step begins for a new request of the session. -/
def begun? (s : Schedule σ) : SearchStep σ → Option Nat
  | .start term direction =>
    if ((s.finder.committed term).session.begin? direction).isSome then some s.next else none
  | _ => none

/-- The number of the task that was begun last by one of some steps, or that is the last one
before them. -/
def latestBegun (s : Schedule σ) (latest : Option Nat) : List (SearchStep σ) → Option Nat
  | [] => latest
  | step :: steps => (s.perform step).latestBegun ((s.begun? step).or latest) steps

/-- What a step to another occurrence can do at its start, and the number of the task that it
begins. -/
inductive Starts (s : Schedule σ) : Option Nat → Schedule σ → Prop
  /-- The term does not occur, and so there is no request. -/
  | declines {g : Finder σ} {asked : List AskedStep}
      (hfollows : Finder.Follows s.IsBusy s.finder g)
      (hstays : Finder.StaysNavigating s.finder g) :
      Starts s none ({ s.issue.2 with finder := g, asked }.finish s.next (.stepped false))
  | requests {g : Finder σ} {asked : List AskedStep} {seq panel : Nat} {progress : Progress}
      (hfollows : Finder.Follows s.IsBusy s.finder g) (hnewer : s.finder.session.seq < seq)
      (hlatest : seq = g.session.seq) (hserved : g.IsServedBy seq panel progress) :
      Starts s (some s.next)
        ({ s.issue.2 with finder := g, asked }.follow s.next (.session seq) panel progress)

/-- What a step can do while nothing but steps of the session is under way. -/
inductive Performs (s : Schedule σ) : Option Nat → Schedule σ → Prop
  /-- No task begins or goes on. -/
  | passes {g : Finder σ} (hfollows : Finder.Follows s.IsBusy s.finder g)
      (hstays : Finder.StaysNavigating s.finder g) : Performs s none (s.withFinder g)
  | starts {begun : Option Nat} {t : Schedule σ} (hstarts : s.Starts begun t) : Performs s begun t
  | resumes {g : Finder σ} {task : FindTask} {seq : Nat} {wait : Waiting} {progress : Progress}
      (htask : task ∈ s.tasks) (hpursuit : task.pursuit = .navigation (.session seq) wait)
      (hfollows : Finder.Follows s.IsBusy s.finder g) (hsession : g.session = s.finder.session)
      (hserved : g.IsServedBy seq task.panel progress) :
      Performs s none
        ({ s with finder := g, tasks := s.tasks.filter (·.number ≠ task.number) }.follow
        task.number (.session seq) task.panel progress)

variable {s t : Schedule σ} {begun latest : Option Nat}

theorem starts_start (h : s.IsSteady) (term : String) (direction : Direction) :
    s.Starts (s.begun? (.start term direction)) (s.perform (.start term direction)) := by
  have hstarted : Finder.Started s.IsBusy s.finder (s.finder.step term direction) :=
    Finder.started_step h.isSound term direction
  change s.Starts (if _ then _ else _) (s.issue.2.beginStep ⟨s.next, term, direction⟩)
  rw [← Finder.isSome_fst_step, beginStep]
  simp only [issue]
  generalize s.finder.step term direction = begun at hstarted
  cases hstarted with
  | declines hfollows hstays => exact .declines hfollows hstays
  | requests hfollows hnewer hlatest hserved => exact .requests hfollows hnewer hlatest hserved

theorem performs_resume (h : s.IsSteady) {task : FindTask} (htask : task ∈ s.tasks) :
    s.Performs none (s.resume task) := by
  obtain ⟨seq, wait, hpursuit, hagrees⟩ := h.agrees task htask
  rw [resume, hpursuit]
  exact .resumes htask hpursuit (Finder.follows_resume h.isSound task.panel wait)
    (s.finder.session_modifyGet task.panel _) (Finder.isServedBy_resume hagrees)

theorem performs_perform (h : s.IsSteady) {step : SearchStep σ} (hstep : s.Allows step) :
    s.Performs (s.begun? step) (s.perform step) := by
  have hpasses : ∀ {g : Finder σ}, Finder.Follows s.IsBusy s.finder g ∧
      Finder.StaysNavigating s.finder g → s.Performs none (s.withFinder g) :=
    fun hpassed => .passes hpassed.1 hpassed.2
  cases step with
  | input text now => exact hpasses (Finder.follows_input h.isSound text now)
  | poll now => exact hpasses (Finder.follows_poll h.isSound now)
  | commit term => exact hpasses (Finder.follows_commit h.isSound term)
  | recount => exact hpasses (Finder.follows_recount h.isSound)
  | clear => exact hpasses (Finder.follows_clear h.isSound)
  | start term direction => exact .starts (starts_start h term direction)
  | goTo id term n => exact hstep.elim
  | resume number =>
      rw [perform]
      split
      · next task htask => exact performs_resume h (List.mem_of_find?_eq_some htask)
      · exact hpasses ⟨.refl h.isSound, fun hstate => ⟨rfl, hstate⟩⟩
  | elsewhere panels registered => exact hpasses (Finder.follows_meanwhile h.isSound hstep)

omit [RenderSurface σ] in
theorem IsSteady.isFree_next (h : s.IsSteady) (finder : Finder σ) (asked : List AskedStep) :
    IsFree { s.issue.2 with finder, asked } s.next :=
  ⟨Nat.lt_succ_self s.next, fun task htask => Nat.ne_of_lt (h.isNumbered.tasks task htask),
    h.isNumbered.lookup_next⟩

omit [RenderSurface σ] in
theorem IsSteady.isFree_resumed (h : s.IsSteady) {task : FindTask} (htask : task ∈ s.tasks)
    (finder : Finder σ) :
    IsFree { s with finder, tasks := s.tasks.filter (·.number ≠ task.number) } task.number :=
  ⟨h.isNumbered.tasks task htask,
    fun _ hother => of_decide_eq_true (List.mem_filter.mp hother).2, h.unanswered task htask⟩

omit [RenderSurface σ] in
theorem IsSteady.of_starts (h : s.IsSteady) (hstarts : s.Starts begun t) : t.IsSteady := by
  have hissued : ∀ {g : Finder σ} (asked : List AskedStep), Finder.Follows s.IsBusy s.finder g →
      IsSteady { s.issue.2 with finder := g, asked } :=
    fun _ hfollows => h.of_sublist (List.Sublist.refl s.tasks) rfl (Nat.le_succ s.next) hfollows
  cases hstarts with
  | @declines g asked hfollows hstays =>
    exact (hissued asked hfollows).finish (h.isFree_next g asked) _
  | @requests g asked seq panel progress hfollows hnewer hlatest hserved =>
      exact (hissued asked hfollows).follow (h.isFree_next g asked) hserved

omit [RenderSurface σ] in
theorem IsSteady.of_performs (h : s.IsSteady) (hperforms : s.Performs begun t) : t.IsSteady := by
  cases hperforms with
  | passes hfollows hstays =>
      exact h.of_sublist (List.Sublist.refl s.tasks) rfl (Nat.le_refl s.next) hfollows
  | starts hstarts => exact h.of_starts hstarts
  | @resumes g task seq wait progress htask hpursuit hfollows hsession hserved =>
      have hresumed :
          IsSteady { s with finder := g, tasks := s.tasks.filter (·.number ≠ task.number) } :=
        h.of_sublist List.filter_sublist rfl (Nat.le_refl s.next) hfollows
      exact hresumed.follow (h.isFree_resumed htask g) hserved

omit [RenderSurface σ] in
theorem IsPursued.of_stays (hpursued : s.finder.session.state = .navigating → s.IsPursued latest)
    (hstays : Finder.StaysNavigating s.finder t.finder) (htasks : t.tasks = s.tasks)
    (hstate : t.finder.session.state = .navigating) : t.IsPursued latest := by
  obtain ⟨hseq, hbefore⟩ := hstays hstate
  rw [IsPursued, htasks, hseq]
  exact hpursued hbefore

omit [RenderSurface σ] in
theorem IsPursued.of_performs (h : s.IsSteady) (hperforms : s.Performs begun t)
    (hpursued : s.finder.session.state = .navigating → s.IsPursued latest)
    (hstate : t.finder.session.state = .navigating) : t.IsPursued (begun.or latest) := by
  cases hperforms with
  | passes hfollows hstays => exact .of_stays hpursued hstays rfl hstate
  | starts hstarts =>
      cases hstarts with
      | declines hfollows hstays => exact .of_stays hpursued hstays rfl hstate
      | requests hfollows hnewer hlatest hserved =>
          exact isPursued_follow hserved (fun _ => .inr ⟨hlatest, rfl⟩) hstate
  | @resumes g task seq wait progress htask hpursuit hfollows hsession hserved =>
      refine isPursued_follow hserved (fun hnavigating => ?_) hstate
      change g.session.state = .navigating at hnavigating
      rw [hsession] at hnavigating
      obtain ⟨awaited, hawaited, hlatest, hawaiting⟩ := hpursued hnavigating
      by_cases hsame : awaited.number = task.number
      · obtain rfl := h.eq_of_number_eq hawaited htask hsame
        obtain ⟨last, hlast⟩ := hawaiting
        obtain ⟨⟨rfl⟩, -⟩ := Pursuit.navigation.inj (hpursuit.symm.trans hlast)
        exact .inr ⟨congrArg FindSession.seq hsession.symm, hlatest⟩
      · refine .inl ⟨awaited, List.mem_filter.mpr ⟨hawaited, decide_eq_true hsame⟩, hlatest, ?_⟩
        change ∃ last, awaited.pursuit = .navigation (.session g.session.seq) last
        rwa [hsession]

omit [RenderSurface σ] in
theorem IsGivenUp.issued {number : Nat} (h : s.IsGivenUp number) {g : Finder σ}
    (hfollows : Finder.Follows s.IsBusy s.finder g) (asked : List AskedStep) :
    IsGivenUp { s.issue.2 with finder := g, asked } number :=
  h.of_sublist (List.Sublist.refl s.tasks) rfl (Nat.le_succ s.next) hfollows.seq_le

omit [RenderSurface σ] in
theorem IsGivenUp.of_performs {number : Nat} (h : s.IsGivenUp number)
    (hperforms : s.Performs begun t) :
    t.IsGivenUp number := by
  have hother : s.next ≠ number := Nat.ne_of_gt h.lt_next
  cases hperforms with
  | passes hfollows hstays =>
      exact h.of_sublist (List.Sublist.refl s.tasks) rfl (Nat.le_refl s.next) hfollows.seq_le
  | starts hstarts =>
      cases hstarts with
      | @declines g asked hfollows hstays =>
          exact (h.issued hfollows asked).finish fun hsame => absurd hsame hother
      | @requests g asked seq panel progress hfollows hnewer hlatest hserved =>
          exact (h.issued hfollows asked).follow (fun hsame => absurd hsame hother) progress
  | @resumes g task seq wait progress htask hpursuit hfollows hsession hserved =>
      have hresumed :
        IsGivenUp { s with finder := g, tasks := s.tasks.filter (·.number ≠ task.number) }
          number :=
        h.of_sublist List.filter_sublist rfl (Nat.le_refl s.next) hfollows.seq_le
      refine hresumed.follow (fun hsame => ?_) progress
      exact Nat.lt_of_lt_of_le (h.outdated task htask hsame seq wait hpursuit) hfollows.seq_le

omit [RenderSurface σ] in
theorem isGivenUp_of_starts (h : s.IsSteady) {task : FindTask} (htask : task ∈ s.tasks)
    (hstarts : s.Starts begun t) : t.IsGivenUp task.number ∨ t.IsGivenUp s.next := by
  obtain ⟨seq, wait, hpursuit, hagrees⟩ := h.agrees task htask
  have hunanswered : s.results.lookup task.number ≠ some (.stepped true) := by
    rw [h.unanswered task htask]
    exact (Option.some_ne_none _).symm
  cases hstarts with
  | @declines g asked hfollows hstays =>
      refine .inr ⟨Nat.lt_succ_self s.next, ?_, ?_⟩
      · intro other hother hnumber
        exact absurd hnumber (Nat.ne_of_lt (h.isNumbered.tasks other hother))
      · change ((s.next, TaskResult.stepped false) :: s.results).lookup s.next ≠ _
        rw [List.lookup_cons_self]
        simp
  | @requests g asked newer panel progress hfollows hnewer hlatest hserved =>
      have hissued : IsGivenUp { s.issue.2 with finder := g, asked } task.number := by
        refine ⟨Nat.lt_succ_of_lt (h.isNumbered.tasks task htask), ?_, hunanswered⟩
        intro other hother hnumber old oldWait hold
        obtain rfl := h.eq_of_number_eq hother htask hnumber
        obtain ⟨⟨rfl⟩, -⟩ := Pursuit.navigation.inj (hpursuit.symm.trans hold)
        exact Nat.lt_of_le_of_lt hagrees.seq_le (hlatest ▸ hnewer)
      refine .inl (hissued.follow (fun hsame => ?_) progress)
      exact absurd hsame (Nat.ne_of_gt (h.isNumbered.tasks task htask))

variable {steps : List (SearchStep σ)}

theorem IsSteady.run (h : s.IsSteady) (hsteps : s.AllowsAll steps) : (s.run steps).IsSteady := by
  induction steps generalizing s with
  | nil => exact h
  | cons step steps ih => exact ih (h.of_performs (performs_perform h hsteps.1)) hsteps.2

theorem IsPursued.run (h : s.IsSteady) (hsteps : s.AllowsAll steps)
    (hpursued : s.finder.session.state = .navigating → s.IsPursued latest)
    (hstate : (s.run steps).finder.session.state = .navigating) :
    (s.run steps).IsPursued (s.latestBegun latest steps) := by
  induction steps generalizing s latest with
  | nil => exact hpursued hstate
  | cons step steps ih =>
      have hperforms := performs_perform h hsteps.1
      exact ih (h.of_performs hperforms) hsteps.2 (.of_performs h hperforms hpursued) hstate

theorem IsGivenUp.run {number : Nat} (h : s.IsGivenUp number) (hsteady : s.IsSteady)
    (hsteps : s.AllowsAll steps) : (s.run steps).IsGivenUp number := by
  induction steps generalizing s with
  | nil => exact h
  | cons step steps ih =>
      have hperforms := performs_perform hsteady hsteps.1
      exact ih (h.of_performs hperforms) (hsteady.of_performs hperforms) hsteps.2

/-- Steps of the session begin, go on and end in any order, while texts are typed, terms are
committed, counted anew and dropped, and panels are changed and registered elsewhere.  As long as
the session says that an occurrence is being gone to, the step that it began last is under way; so
when no step is under way, it does not say so.  Of two steps of which one begins while the other
is under way, at most one comes to an occurrence. -/
theorem latest_pursued_while_navigating (f : Finder σ) (hsound : f.IsSound)
    (hidle : f.session.state ≠ .navigating) (before : List (SearchStep σ))
    (hbefore : (new f).AllowsAll before) :
    let r := (new f).run before
    (r.finder.session.state = .navigating → r.IsPursued ((new f).latestBegun none before)) ∧
      (r.tasks = [] → r.finder.session.state ≠ .navigating) ∧
      ∀ task ∈ r.tasks, ∀ term direction later,
        (r.perform (.start term direction)).AllowsAll later →
          let q := (r.perform (.start term direction)).run later
          ¬ (q.results.lookup task.number = some (.stepped true) ∧
            q.results.lookup r.next = some (.stepped true)) := by
  intro r
  have hnew : (new f).IsSteady := isSteady_new hsound
  have hsteady : r.IsSteady := hnew.run hbefore
  have hpursued : r.finder.session.state = .navigating →
      r.IsPursued ((new f).latestBegun none before) :=
    IsPursued.run hnew hbefore fun hnavigating => absurd hnavigating hidle
  refine ⟨hpursued, ?_, ?_⟩
  · intro hnone hnavigating
    obtain ⟨task, htask, -⟩ := hpursued hnavigating
    rw [hnone] at htask
    exact List.not_mem_nil htask
  · rintro task htask term direction later hlater q ⟨hfirst, hsecond⟩
    have hstarts := starts_start hsteady term direction
    have hstarted : (r.perform (.start term direction)).IsSteady := hsteady.of_starts hstarts
    rcases isGivenUp_of_starts hsteady htask hstarts with hgivenUp | hgivenUp
    · exact (hgivenUp.run hstarted hlater).unfound hfirst
    · exact (hgivenUp.run hstarted hlater).unfound hsecond

end Steps

/-- A panel with the first of three items in its window, whose scrolls wait until they are
settled, is stepped in. -/
def heldSteps : Finder PagedSurface :=
  ⟨[heldPanel], [("main", 0)], "main", .new 100⟩

/-- The second step waits.  A step back finds the first occurrence meanwhile, and then the second
one ends without. -/
theorem latest_pursued_while_navigating_back :
    let r := (new heldSteps).run [.start "match" .forward, .start "match" .forward]
    let q := (r.perform (.start "match" .backward)).run [.resume 1]
    r.finder.session.state = .navigating ∧ r.IsPursued (some 1) ∧ r.next = 2 ∧
      q.results.lookup 2 = some (.stepped true) ∧ q.results.lookup 1 ≠ some (.stepped true) := by
  intro r q
  have hsound : heldSteps.IsSound :=
    .of_registered (by simp [heldSteps, heldPanel, FindPanel.new]) rfl
  have hstate : r.finder.session.state = .navigating := by decide +kernel
  have hlatest : (new heldSteps).latestBegun none
      [.start "match" .forward, .start "match" .forward] = some 1 := by decide +kernel
  have hnext : r.next = 2 := by decide +kernel
  have hfound : q.results.lookup 2 = some (.stepped true) := by decide +kernel
  obtain ⟨hpursued, -, honce⟩ := latest_pursued_while_navigating heldSteps hsound (by decide)
    [.start "match" .forward, .start "match" .forward] ⟨trivial, trivial, trivial⟩
  rw [hlatest] at hpursued
  obtain ⟨task, htask, hnumber, -⟩ := hpursued hstate
  refine ⟨hstate, hpursued hstate, hnext, hfound, fun hfirst => ?_⟩
  have hnever := honce task htask "match" .backward [.resume 1] ⟨trivial, trivial⟩
  rw [← Option.some.inj hnumber, hnext] at hnever
  exact hnever ⟨hfirst, hfound⟩

end Schedule

end TranscriptSearch
