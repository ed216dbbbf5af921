import TranscriptSearch.Proofs.Find.StepTickets

namespace TranscriptSearch

open RenderSurface

/-- Whether a panel has come from another one by nothing but a search in its transcript. -/
structure FindPanel.Searched {σ : Type} (p after : FindPanel σ) : Prop where
  transcript_eq : after.transcript = p.transcript
  unmounted_eq : after.unmounted = p.unmounted
  kept : (∀ counts ∈ p.kept, counts.IsRightOf p.transcript) →
    ∀ counts ∈ after.kept, counts.IsRightOf p.transcript

namespace FindPanel.Searched

variable {σ : Type} {p after last : FindPanel σ}

theorem of_eq (htranscript : after.transcript = p.transcript)
    (hunmounted : after.unmounted = p.unmounted) (hkept : after.kept = p.kept) :
    p.Searched after :=
  ⟨htranscript, hunmounted, fun h => hkept ▸ h⟩

theorem refl (p : FindPanel σ) : p.Searched p :=
  of_eq rfl rfl rfl

theorem trans (h : p.Searched after) (h' : after.Searched last) : p.Searched last where
  transcript_eq := h'.transcript_eq.trans h.transcript_eq
  unmounted_eq := h'.unmounted_eq.trans h.unmounted_eq
  kept hright := by
    have hlast := h'.kept
    rw [h.transcript_eq] at hlast
    exact hlast (h.kept hright)

theorem withSurface (p : FindPanel σ) (surface : σ) : p.Searched { p with surface } :=
  of_eq rfl rfl rfl

theorem count (p : FindPanel σ) (term : String) : p.Searched (p.count term).2 :=
  ⟨rfl, rfl, fun hright => (Transcript.countAll_of_isRightOf hright term).2⟩

variable [RenderSurface σ]

theorem suppressFollowing (p : FindPanel σ) : p.Searched p.suppressFollowing :=
  of_eq rfl rfl rfl

theorem conclude (p : FindPanel σ) (term : String) (ticket : Nat) (outcome : NavOutcome) :
    p.Searched (p.conclude term ticket outcome).2 := by
  rw [FindPanel.conclude]
  split
  · cases outcome with
    | found target => exact of_eq rfl rfl rfl
    | notFound reason => exact of_eq rfl rfl rfl
    | superseded => exact of_eq rfl rfl rfl
  · exact refl p

theorem advance (p : FindPanel σ) (term : String) (ticket : Nat) (landing : Landing × σ) :
    p.Searched (p.advance term ticket landing).2 := by
  obtain ⟨outcome | ⟨index, occurrence⟩, surface⟩ := landing
  · exact (withSurface p surface).trans (conclude _ term ticket outcome)
  · exact withSurface p surface

theorem goTo (p : FindPanel σ) (term : String) (n : Nat) : p.Searched (p.goTo term n).2 := by
  have hissued : p.Searched { p with tickets := p.tickets.issue.2 } := of_eq rfl rfl rfl
  have hcounted := hissued.trans (count _ term)
  obtain ⟨-, heq⟩ | ⟨reason, -, heq⟩ | ⟨location, heq⟩ := p.goTo_cases term n
  · rw [heq]
    exact hissued
  · rw [heq]
    exact hcounted.trans (of_eq rfl rfl rfl)
  · rw [heq]
    have hsuppressed := hcounted.trans (suppressFollowing _)
    exact hsuppressed.trans (advance _ term _ _)

theorem resume (p : FindPanel σ) (wait : Waiting) : p.Searched (p.resume wait).2 := by
  rw [FindPanel.resume]
  simp only
  split
  · exact (withSurface p _).trans (advance _ wait.term wait.ticket _)
  · exact withSurface p _

theorem highlightTerm (p : FindPanel σ) (term : String) : p.Searched (p.highlightTerm term) :=
  of_eq rfl rfl rfl

theorem watch (p : FindPanel σ) : p.Searched p.watch :=
  of_eq rfl rfl rfl

theorem clear (p : FindPanel σ) : p.Searched p.clear :=
  of_eq rfl rfl rfl

end FindPanel.Searched

namespace Finder

variable {σ : Type}

/-- Whether a finder has come from another one by nothing but searches in the panels. -/
structure Searched (f g : Finder σ) : Prop where
  registered_eq : g.registered = f.registered
  active_eq : g.active = f.active
  length_eq : g.panels.length = f.panels.length
  panel : ∀ (n : Nat) (p : FindPanel σ), f.panels[n]? = some p →
    ∃ q, g.panels[n]? = some q ∧ p.Searched q

namespace Searched

variable {f g h : Finder σ}

theorem of_panels_eq (hregistered : g.registered = f.registered) (hactive : g.active = f.active)
    (hpanels : g.panels = f.panels) : f.Searched g where
  registered_eq := hregistered
  active_eq := hactive
  length_eq := congrArg List.length hpanels
  panel _ p hp := ⟨p, hpanels ▸ hp, .refl p⟩

theorem refl (f : Finder σ) : f.Searched f :=
  of_panels_eq rfl rfl rfl

theorem trans (hfirst : f.Searched g) (hsecond : g.Searched h) : f.Searched h where
  registered_eq := hsecond.registered_eq.trans hfirst.registered_eq
  active_eq := hsecond.active_eq.trans hfirst.active_eq
  length_eq := hsecond.length_eq.trans hfirst.length_eq
  panel n p hp := by
    obtain ⟨q, hq, hpq⟩ := hfirst.panel n p hp
    obtain ⟨r, hr, hqr⟩ := hsecond.panel n q hq
    exact ⟨r, hr, hpq.trans hqr⟩

theorem panels_eq_singleton {p : FindPanel σ} (hsearched : f.Searched g)
    (hpanels : f.panels = [p]) :
    ∃ q, g.panels = [q] ∧ p.Searched q := by
  obtain ⟨q, hq, hpq⟩ := hsearched.panel 0 p (by rw [hpanels]; rfl)
  have hlength := hsearched.length_eq
  rw [hpanels] at hlength
  obtain ⟨q', hpanels'⟩ := List.length_eq_one_iff.mp hlength
  rw [hpanels'] at hq
  obtain rfl := Option.some.inj hq
  exact ⟨q', hpanels', hpq⟩

theorem withSession (f : Finder σ) (session : FindSession) : f.Searched { f with session } :=
  of_panels_eq rfl rfl rfl

theorem modify (f : Finder σ) (panel : Nat) {update : FindPanel σ → FindPanel σ}
    (hupdate : ∀ p : FindPanel σ, p.Searched (update p)) :
    f.Searched (f.modify panel update) where
  registered_eq := rfl
  active_eq := rfl
  length_eq := List.length_modify _ _ _
  panel n p hp := by
    simp only [Finder.modify, List.getElem?_modify, hp]
    split
    · exact ⟨update p, rfl, hupdate p⟩
    · exact ⟨p, rfl, .refl p⟩

theorem modifyGet {α : Type} (f : Finder σ) (panel : Nat) {update : FindPanel σ → α × FindPanel σ}
    (hupdate : ∀ p : FindPanel σ, p.Searched (update p).2) :
    f.Searched (f.modifyGet panel update).2 := by
  rw [modifyGet_snd]
  exact modify f panel hupdate

theorem modifyRegistered (f : Finder σ) {update : FindPanel σ → FindPanel σ}
    (hupdate : ∀ p : FindPanel σ, p.Searched (update p)) :
    f.Searched (f.modifyRegistered update) := by
  rw [Finder.modifyRegistered]
  generalize f.registered = entries
  induction entries generalizing f with
  | nil => exact refl f
  | cons entry entries ih => exact (modify f entry.2 hupdate).trans (ih _)

theorem countFor (f : Finder σ) (id term : String) : f.Searched (f.countFor id term).2 := by
  rw [Finder.countFor]
  split
  · exact refl f
  · exact modifyGet f _ fun p => .count p term

theorem countAll (f : Finder σ) (term : String) : f.Searched (f.countAll term).2 := by
  have hfold : ∀ (entries : List (String × Nat)) (counted : Nat × Finder σ),
      counted.2.Searched (entries.foldl (countEntry term) counted).2 := by
    intro entries
    induction entries with
    | nil => exact fun counted => refl counted.2
    | cons entry entries ih =>
        intro counted
        exact (modifyGet counted.2 entry.2 fun p => .count p term).trans
          (ih (countEntry term counted entry))
  exact hfold f.registered (0, f)

theorem totals (f : Finder σ) (term : String) : f.Searched (f.totals term).2.2 :=
  (countAll f term).trans (countFor _ _ term)

theorem recount (f : Finder σ) : f.Searched f.recount.2 := by
  rw [Finder.recount]
  split
  · exact refl f
  · next term hterm => exact (totals f term).trans (withSession _ _)

theorem input (f : Finder σ) (term : String) (now : Nat) : f.Searched (f.input term now) :=
  withSession f _

variable [RenderSurface σ]

theorem clearAll (f : Finder σ) : f.Searched f.clearAll :=
  modifyRegistered f .clear

theorem commit (f : Finder σ) (term : String) : f.Searched (f.commit term).2 := by
  have hcounted := (clearAll f).trans (totals f.clearAll term)
  have hcommitted := hcounted.trans (withSession _
    ((f.clearAll.totals term).2.2.session.commit term (f.clearAll.totals term).2.1))
  simp only [Finder.commit]
  split
  · exact hcommitted
  · exact hcommitted.trans (modifyRegistered _ fun p => .highlightTerm p term)

theorem committed (f : Finder σ) (term : String) : f.Searched (f.committed term) := by
  rw [Finder.committed]
  split
  · exact refl f
  · exact commit f term

theorem poll (f : Finder σ) (now : Nat) : f.Searched (f.poll now).2 := by
  rw [Finder.poll]
  split
  · exact withSession f _
  · exact (withSession f _).trans (commit _ _)

theorem clear (f : Finder σ) : f.Searched f.clear :=
  (withSession f f.session.clear).trans (clearAll _)

theorem goTo (f : Finder σ) (id term : String) (n : Nat) : f.Searched (f.goTo id term n).2 := by
  rw [Finder.goTo]
  split
  · exact refl f
  · exact modifyGet f _ fun p => .goTo p term n

theorem step (f : Finder σ) (term : String) (direction : Direction) :
    f.Searched (f.step term direction).2 := by
  rw [step_eq]
  split
  · exact committed f term
  · exact ((committed f term).trans (withSession _ _)).trans (goTo _ _ _ _)

omit [RenderSurface σ] in
theorem finishStep (f : Finder σ) (seq panel : Nat) (outcome : NavOutcome) :
    f.Searched (f.finishStep seq panel outcome).2 :=
  withSession f _

theorem watch (f : Finder σ) : f.Searched f.watch where
  registered_eq := rfl
  active_eq := rfl
  length_eq := List.length_map _
  panel n p hp := by
    refine ⟨p.watch, ?_, .watch p⟩
    simp only [Finder.watch, List.getElem?_map, hp, Option.map_some]

end Searched

end Finder

namespace Schedule

variable {σ : Type}

theorem searched_follow {f : Finder σ} {s : Schedule σ} (h : f.Searched s.finder) (number : Nat)
    (requester : Requester) (panel : Nat) (progress : Progress) :
    f.Searched (s.follow number requester panel progress).finder := by
  cases progress with
  | waiting wait => exact h
  | done outcome =>
      cases requester with
      | panel => exact h
      | registered id => exact h
      | session seq => exact h.trans (.finishStep s.finder seq panel outcome)

theorem searched_followLanding {f : Finder σ} {s : Schedule σ} (h : f.Searched s.finder)
    (number panel : Nat) (term : String) (landing : Landing) :
    f.Searched (s.followLanding number panel term landing).finder := by
  cases landing with
  | done outcome => exact h
  | waiting index occurrence => exact h

variable [RenderSurface σ]

theorem searched_beginStep (s : Schedule σ) (step : AskedStep) :
    s.finder.Searched (s.beginStep step).finder := by
  have hstep := Finder.Searched.step s.finder step.term step.direction
  rw [beginStep]
  simp only
  split
  · exact hstep
  · exact searched_follow hstep _ _ _ _

theorem searched_resume (s : Schedule σ) (task : FindTask) :
    s.finder.Searched (s.resume task).finder := by
  rw [resume]
  simp only
  split
  · next requester wait hpursuit =>
      refine searched_follow ?_ _ _ _ _
      exact .modifyGet s.finder task.panel fun p => .resume p wait
  · exact .modify s.finder task.panel fun p => .withSurface p _
  · refine searched_followLanding ?_ _ _ _ _
    exact .modifyGet s.finder task.panel fun p => .withSurface p _

end Schedule

end TranscriptSearch
