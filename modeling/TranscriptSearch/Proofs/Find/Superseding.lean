import TranscriptSearch.Proofs.Find.Recording

/-!
Navigations that a newer one, or a cancellation, has taken the place of.  What a navigation does
to a surface is known from the requests that the surface records.  A superseded navigation makes
none but the one that ends its own scroll.  What is marked as the current occurrence comes from
the latest navigation, or the task that looks out for announcements has marked again what was
marked before.
-/

namespace TranscriptSearch

open RenderSurface

namespace PanelStep

variable {σ : Type}

/-- Whether a step takes the place of the navigations before it. -/
def Supersedes : PanelStep σ → Prop
  | .start .. => True
  | .clear => True
  | .unmount => True
  | _ => False

end PanelStep

/-- What becomes of the mark of the current occurrence when a navigation has gone on.  One that
has found an occurrence marks it, and any other one leaves the mark or takes it away. -/
def Progress.LeavesMark (progress : Progress) (before after : Option (String × Nat)) : Prop :=
  match progress with
  | .done (.found target) => after = some (target.itemId, target.occurrence)
  | _ => after = before ∨ after = none

namespace Progress.LeavesMark

variable {progress : Progress} {first before after : Option (String × Nat)}

theorem found_or_kept (h : progress.LeavesMark before after) :
    (∃ target, progress = .done (.found target) ∧
      after = some (target.itemId, target.occurrence)) ∨
      (∀ target, progress ≠ .done (.found target)) ∧ (after = before ∨ after = none) := by
  cases progress with
  | waiting wait => exact .inr ⟨fun _ heq => Progress.noConfusion heq, h⟩
  | done outcome =>
      cases outcome with
      | found target => exact .inl ⟨target, rfl, h⟩
      | notFound reason =>
          exact .inr ⟨fun _ heq => NavOutcome.noConfusion (Progress.done.inj heq), h⟩
      | superseded => exact .inr ⟨fun _ heq => NavOutcome.noConfusion (Progress.done.inj heq), h⟩

theorem of_before (h : progress.LeavesMark before after)
    (hbefore : before = first ∨ before = none) :
    progress.LeavesMark first after := by
  have hkept : after = before ∨ after = none → after = first ∨ after = none := by
    rintro (rfl | rfl)
    · exact hbefore
    · exact .inr rfl
  cases progress with
  | waiting wait => exact hkept h
  | done outcome =>
      cases outcome with
      | found target => exact h
      | notFound reason => exact hkept h
      | superseded => exact hkept h

end Progress.LeavesMark

namespace FindPanel

variable {σ : Type} [RenderSurface σ]

theorem leavesMark_conclude (p : FindPanel σ) (term : String) (ticket : Nat)
    (outcome : NavOutcome) :
    (Progress.done (p.conclude term ticket outcome).1).LeavesMark p.highlighting.anchor
      (p.conclude term ticket outcome).2.highlighting.anchor := by
  rw [conclude]
  split
  · cases outcome with
    | found target => rfl
    | notFound reason => exact .inr rfl
    | superseded => exact .inl rfl
  · exact .inl rfl

theorem leavesMark_advance (p : FindPanel σ) (term : String) (ticket : Nat)
    (landing : Landing × σ) : (p.advance term ticket landing).1.LeavesMark p.highlighting.anchor
      (p.advance term ticket landing).2.highlighting.anchor := by
  rcases landing with ⟨outcome | ⟨index, occurrence⟩, surface⟩
  · exact leavesMark_conclude { p with surface } term ticket outcome
  · exact .inl rfl

theorem leavesMark_goTo (p : FindPanel σ) (term : String) (n : Nat) :
    (p.goTo term n).1.LeavesMark p.highlighting.anchor (p.goTo term n).2.highlighting.anchor := by
  obtain ⟨-, heq⟩ | ⟨reason, -, heq⟩ | ⟨location, heq⟩ := p.goTo_cases term n
  · rw [heq]
    exact .inl rfl
  · rw [heq]
    exact .inl rfl
  · rw [heq]
    exact leavesMark_advance _ term _ _

theorem leavesMark_resume (p : FindPanel σ) (wait : Waiting) :
    (p.resume wait).1.LeavesMark p.highlighting.anchor (p.resume wait).2.highlighting.anchor := by
  rw [resume]
  simp only
  split
  · exact leavesMark_advance _ wait.term wait.ticket _
  · exact .inl rfl

theorem anchor_watch (p : FindPanel σ) : p.watch.highlighting.anchor = p.highlighting.anchor := by
  simp only [watch, Highlighting.watch]
  split <;> rfl

theorem calls_refresh (h : Highlighting) (s : Recorded σ) (t : Transcript) (limit : Nat) :
    ∃ more, (h.refresh s t limit).calls = s.calls ++ more ∧
      (h.anchor = none → ∀ spans, .applyHighlight .current spans ∉ more) := by
  rcases h with ⟨_ | term, _ | ⟨itemId, occurrence⟩, seen⟩
  · exact ⟨[], (List.append_nil _).symm, by simp⟩
  · exact ⟨[], (List.append_nil _).symm, by simp⟩
  · refine ⟨[.applyHighlight .all (visibleOccurrences s t term limit).1,
      .clearHighlight .current], ?_, by simp⟩
    exact List.append_assoc _ _ _
  · rw [Highlighting.refresh]
    simp only
    generalize hpainted : applyHighlight (visibleOccurrences s t term limit).2 .all
      (visibleOccurrences s t term limit).1 = painted
    let all : SurfaceCall := .applyHighlight .all (visibleOccurrences s t term limit).1
    have hcalls : painted.calls = s.calls ++ [all] := by
      rw [← hpainted]
      rfl
    have hlocated : (locate painted t itemId term occurrence).2.calls = painted.calls := rfl
    split
    · next span located hlocate =>
        rw [hlocate, hcalls] at hlocated
        refine ⟨[all, .applyHighlight .current [span]], ?_, fun hnone => ?_⟩
        · change located.calls ++ [.applyHighlight .current [span]] = _
          rw [hlocated, List.append_assoc]
          rfl
        · exact absurd hnone (Option.some_ne_none _)
    · next located hlocate =>
        rw [hlocate, hcalls] at hlocated
        refine ⟨[all, .clearHighlight .current], ?_, fun hnone => ?_⟩
        · change located.calls ++ [.clearHighlight .current] = _
          rw [hlocated, List.append_assoc]
          rfl
        · exact absurd hnone (Option.some_ne_none _)

theorem calls_watch (p : FindPanel (Recorded σ)) :
    ∃ more, p.watch.surface.calls = p.surface.calls ++ more ∧
      (p.highlighting.anchor = none → ∀ spans, .applyHighlight .current spans ∉ more) := by
  simp only [watch, Highlighting.watch]
  split
  · exact calls_refresh p.highlighting p.surface p.transcript p.settings.maxHighlightSpans
  · exact ⟨[], (List.append_nil _).symm, by simp⟩

theorem calls_highlightTerm (p : FindPanel (Recorded σ)) (term : String) :
    ∃ more, (p.highlightTerm term).surface.calls = p.surface.calls ++ more ∧
      ∀ spans, .applyHighlight .current spans ∉ more := by
  obtain ⟨more, hcalls, hmore⟩ := calls_refresh
    { p.highlighting with term := some term, anchor := none } (clearHighlight p.surface .current)
    p.transcript p.settings.maxHighlightSpans
  refine ⟨.clearHighlight .current :: more, ?_, fun spans hmem => ?_⟩
  · refine hcalls.trans ?_
    exact List.append_assoc p.surface.calls [.clearHighlight .current] more
  · rcases List.mem_cons.mp hmem with heq | hmem
    · exact SurfaceCall.noConfusion heq
    · exact hmore rfl spans hmem

theorem calls_clear (p : FindPanel (Recorded σ)) :
    ∃ more, p.clear.surface.calls = p.surface.calls ++ more ∧
      ∀ spans, .applyHighlight .current spans ∉ more := by
  have hcleared : ∀ q : FindPanel (Recorded σ), q.restoreFollowing.surface.calls =
    q.surface.calls ∨
      q.restoreFollowing.surface.calls = q.surface.calls ++ [.setFollowing true] := by
    intro q
    simp only [restoreFollowing, FollowHold.restore]
    split
    · exact .inr rfl
    · exact .inl rfl
  rcases hcleared { p with
      tickets := p.tickets.cancelAll
      highlighting := .none
      surface := clearHighlight (clearHighlight p.surface .all) .current } with hcalls | hcalls
  · refine ⟨[.clearHighlight .all, .clearHighlight .current], ?_, by simp⟩
    rw [clear]
    refine hcalls.trans ?_
    simp [clearHighlight]
  · refine ⟨[.clearHighlight .all, .clearHighlight .current, .setFollowing true], ?_, by simp⟩
    rw [clear]
    refine hcalls.trans ?_
    simp [clearHighlight]

end FindPanel

namespace PanelRun

variable {σ : Type}

/-- The navigation that a step is part of. -/
def actor? (r : PanelRun (Recorded σ)) : PanelStep σ → Option Nat
  | .start .. => some r.navigations.length
  | .resume number => some number
  | _ => none

variable [RenderSurface σ]

/-- The requests of a step. -/
def callsOf (r : PanelRun (Recorded σ)) (step : PanelStep σ) : List SurfaceCall :=
  (r.next step.recorded).panel.surface.calls.drop r.panel.surface.calls.length

/-- The requests of some steps, with the navigations that they come from. -/
def trace (r : PanelRun (Recorded σ)) :
    List (PanelStep σ) → List (Option Nat × SurfaceCall)
  | [] => []
  | step :: steps =>
    (r.callsOf step).map (r.actor? step, ·) ++ (r.next step.recorded).trace steps

/-- Whether a navigation has ended as superseded, or waits and is going to. -/
def IsSuperseded (r : PanelRun σ) (number : Nat) (wait : Waiting) : Prop :=
  r.Returned number .superseded ∨ r.Waits number wait ∧ r.panel.tickets.IsStale wait.ticket

namespace IsSuperseded

variable {r : PanelRun σ} {number : Nat} {wait : Waiting}

omit [RenderSurface σ] in
theorem lt_length (h : r.IsSuperseded number wait) : number < r.navigations.length := by
  rcases h with hreturned | ⟨hwait, -⟩
  · exact (List.getElem?_eq_some_iff.mp hreturned).1
  · exact hwait.lt_length

theorem of_supersedes (hticketed : r.IsTicketed) (hwait : r.Waits number wait)
    {newer : PanelStep σ} (hnewer : newer.Supersedes) :
    (r.next newer).IsSuperseded number wait := by
  have hissued := hticketed number wait hwait
  cases newer with
  | start term n =>
      refine .inr ⟨?_, ?_⟩
      · have hnumber : number < r.navigations.length := hwait.lt_length
        exact (List.getElem?_append_left hnumber).trans hwait
      · change (r.panel.goTo term n).2.tickets.IsStale wait.ticket
        rw [FindPanel.tickets_goTo]
        exact hissued.isStale_issue
  | clear => exact .inr ⟨hwait, hissued.isStale_cancelAll⟩
  | unmount => exact .inr ⟨hwait, hissued.isStale_cancelAll⟩
  | resume other => exact hnewer.elim
  | highlightTerm other => exact hnewer.elim
  | watch => exact hnewer.elim
  | moveSurface move => exact hnewer.elim
  | setTranscript t => exact hnewer.elim

theorem next_resume (hwait : r.Waits number wait) (hstale : r.panel.tickets.IsStale wait.ticket) :
    r.next (.resume number) =
      ⟨{ r.panel with surface := endScroll r.panel.surface },
        r.navigations.set number (.done .superseded)⟩ := by
  rw [next_resume_of_waits hwait, FindPanel.resume_of_not_isCurrent hstale.isCurrent]

theorem next (h : r.IsSuperseded number wait) (step : PanelStep σ) :
    (r.next step).IsSuperseded number wait := by
  have hnumber := h.lt_length
  cases step with
  | start term n =>
      -- The new navigation is put behind the others and makes their tickets stale.
      have hsame : (r.next (.start term n)).navigations[number]? = r.navigations[number]? :=
        List.getElem?_append_left hnumber
      rcases h with hreturned | ⟨hwait, hstale⟩
      · exact .inl (hsame.trans hreturned)
      · refine .inr ⟨hsame.trans hwait, ?_⟩
        change (r.panel.goTo term n).2.tickets.IsStale wait.ticket
        rw [FindPanel.tickets_goTo]
        exact hstale.isIssued.isStale_issue
  | resume resumed =>
      obtain ⟨old, hold, hnext⟩ | ⟨-, hsame⟩ := r.next_resume_cases resumed
      · by_cases heq : resumed = number
        · subst heq
          rcases h with hreturned | ⟨hwait, hstale⟩
          · exact absurd (hreturned.symm.trans hold) (by simp)
          · rw [next_resume hwait hstale]
            exact .inl (List.getElem?_set_self hnumber)
        · rw [hnext]
          have hsame : (r.navigations.set resumed (r.panel.resume old).1)[number]? =
              r.navigations[number]? := List.getElem?_set_ne heq
          rcases h with hreturned | ⟨hwait, hstale⟩
          · exact .inl (hsame.trans hreturned)
          · refine .inr ⟨hsame.trans hwait, ?_⟩
            rw [FindPanel.tickets_resume]
            exact hstale
      · rw [hsame]
        exact h
  | clear => exact h.imp_right fun ⟨hwait, hstale⟩ => ⟨hwait, hstale.isIssued.isStale_cancelAll⟩
  | unmount => exact h.imp_right fun ⟨hwait, hstale⟩ => ⟨hwait, hstale.isIssued.isStale_cancelAll⟩
  | highlightTerm term => exact h
  | watch => exact h
  | moveSurface move => exact h
  | setTranscript t => exact h

theorem run (h : r.IsSuperseded number wait) (steps : List (PanelStep σ)) :
    (r.run steps).IsSuperseded number wait := by
  induction steps generalizing r with
  | nil => exact h
  | cons step steps ih => exact ih (h.next step)

theorem returned_or_isReady (h : r.IsSuperseded number wait) :
    r.Returned number .superseded ∨ r.Waits number wait ∧ r.panel.isReady wait = true ∧
      (r.next (.resume number)).Returned number .superseded := by
  rcases h with hreturned | ⟨hwait, hstale⟩
  · exact .inl hreturned
  · refine .inr ⟨hwait, ?_, ?_⟩
    · rw [FindPanel.isReady, hstale.isCancelled]
      rfl
    · rw [next_resume hwait hstale]
      exact List.getElem?_set_self hwait.lt_length

end IsSuperseded

section Requests

variable {r : PanelRun (Recorded σ)} {number : Nat} {wait : Waiting} {call : SurfaceCall}

theorem eq_of_mem_callsOf_resume_of_isStale (hwait : r.Waits number wait)
    (hstale : r.panel.tickets.IsStale wait.ticket)
    (hcall : call ∈ r.callsOf (.resume number)) : call = .setProgrammatic false := by
  have hnext := IsSuperseded.next_resume hwait hstale
  have hcalls : r.callsOf (.resume number) = [.setProgrammatic false] := by
    rw [callsOf, PanelStep.recorded, hnext]
    exact List.drop_left
  rw [hcalls] at hcall
  exact List.mem_singleton.mp hcall

theorem callsOf_resume_of_not_waits (h : ∀ wait, ¬ r.Waits number wait) :
    r.callsOf (.resume number) = [] := by
  rw [callsOf, PanelStep.recorded, next_resume_of_not_waits h]
  exact List.drop_length

/-- All that a superseded navigation asks of a surface is to end its scroll. -/
theorem eq_of_mem_callsOf_of_isSuperseded (h : r.IsSuperseded number wait) {step : PanelStep σ}
    (hactor : r.actor? step = some number) (hcall : call ∈ r.callsOf step) :
    call = .setProgrammatic false := by
  cases step with
  | start term n =>
      have hnumber := h.lt_length
      rw [actor?, Option.some.injEq] at hactor
      omega
  | resume resumed =>
      obtain rfl : resumed = number := Option.some.inj hactor
      rcases h with hreturned | ⟨hwait, hstale⟩
      · rw [callsOf_resume_of_not_waits] at hcall
        · simp at hcall
        · intro other hother
          exact absurd (hreturned.symm.trans hother) (by simp)
      · exact eq_of_mem_callsOf_resume_of_isStale hwait hstale hcall
  | clear => simp [actor?] at hactor
  | unmount => simp [actor?] at hactor
  | highlightTerm term => simp [actor?] at hactor
  | watch => simp [actor?] at hactor
  | moveSurface move => simp [actor?] at hactor
  | setTranscript t => simp [actor?] at hactor

theorem eq_of_mem_trace_of_isSuperseded (h : r.IsSuperseded number wait)
    (steps : List (PanelStep σ)) (hcall : (some number, call) ∈ r.trace steps) :
    call = .setProgrammatic false := by
  induction steps generalizing r with
  | nil => simp [trace] at hcall
  | cons step steps ih =>
      rw [trace, List.mem_append] at hcall
      rcases hcall with hnow | hlater
      · obtain ⟨other, hother, heq⟩ := List.mem_map.mp hnow
        obtain ⟨hactor, rfl⟩ := Prod.mk.inj heq
        exact eq_of_mem_callsOf_of_isSuperseded h hactor hother
      · exact ih (h.next step.recorded) hlater

/-- Whether every navigation that waits, except one, is superseded. -/
def IsLatest (r : PanelRun σ) (latest : Nat) : Prop :=
  ∀ number wait, r.Waits number wait → number ≠ latest → r.IsSuperseded number wait

theorem isLatest_next_start {r : PanelRun σ} (hticketed : r.IsTicketed)
    (term : String) (n : Nat) :
    (r.next (.start term n)).IsLatest r.navigations.length := by
  intro number wait hwait hne
  rcases waits_next_start_iff.mp hwait with hbefore | ⟨heq, -⟩
  · exact .of_supersedes hticketed hbefore trivial
  · exact absurd heq hne

theorem IsLatest.next {r : PanelRun σ} {latest : Nat} (h : r.IsLatest latest) {step : PanelStep σ}
    (hstep : ¬ step.IsStart) : (r.next step).IsLatest latest := by
  intro number wait hwait hne
  cases step with
  | start term n => exact absurd trivial hstep
  | resume resumed =>
      obtain ⟨old, hold, -⟩ | ⟨-, hsame⟩ := r.next_resume_cases resumed
      · have hbefore : r.Waits number wait := by
          rcases (waits_next_resume_iff hold).mp hwait with ⟨-, hbefore⟩ | ⟨rfl, hprogress⟩
          · exact hbefore
          · rcases h number old hold hne with hreturned | ⟨-, hstale⟩
            · exact absurd (hreturned.symm.trans hold) (by simp)
            · rw [FindPanel.resume_of_not_isCurrent hstale.isCurrent] at hprogress
              simp at hprogress
        exact (h number wait hbefore hne).next _
      · rw [hsame] at hwait ⊢
        exact h number wait hwait hne
  | clear => exact (h number wait hwait hne).next .clear
  | unmount => exact (h number wait hwait hne).next .unmount
  | highlightTerm term => exact h number wait hwait hne
  | watch => exact h number wait hwait hne
  | moveSurface move => exact h number wait hwait hne
  | setTranscript t => exact h number wait hwait hne

theorem callsOf_eq (r : PanelRun (Recorded σ)) (step : PanelStep σ) {more : List SurfaceCall}
    (h : (r.next step.recorded).panel.surface.calls = r.panel.surface.calls ++ more) :
    r.callsOf step = more := by
  rw [callsOf, h]
  exact List.drop_left

/-- An occurrence is marked as the current one by the latest navigation, or marked again by the
task that looks out for announcements. -/
theorem actor?_of_mem_callsOf {latest : Nat} (h : r.IsLatest latest) {step : PanelStep σ}
    (hstep : ¬ step.IsStart) {spans : List RenderedSpan}
    (hcall : .applyHighlight .current spans ∈ r.callsOf step) :
    r.actor? step = some latest ∨ step = .watch ∧ r.panel.highlighting.anchor ≠ none := by
  cases step with
  | start term n => exact absurd trivial hstep
  | resume resumed =>
      by_cases heq : resumed = latest
      · exact .inl (congrArg some heq)
      · obtain ⟨old, hold, -⟩ | ⟨hnone, -⟩ := r.next_resume_cases resumed
        · have hsuperseded := h resumed old hold heq
          exact absurd (eq_of_mem_callsOf_of_isSuperseded hsuperseded rfl hcall) (by simp)
        · rw [callsOf_resume_of_not_waits hnone] at hcall
          simp at hcall
  | clear =>
      obtain ⟨more, hcalls, hmore⟩ := r.panel.calls_clear
      exact absurd (callsOf_eq r .clear hcalls ▸ hcall) (hmore spans)
  | unmount =>
      obtain ⟨more, hcalls, hmore⟩ := FindPanel.calls_clear { r.panel with unmounted := true }
      exact absurd (callsOf_eq r .unmount hcalls ▸ hcall) (hmore spans)
  | highlightTerm term =>
      obtain ⟨more, hcalls, hmore⟩ := r.panel.calls_highlightTerm term
      exact absurd (callsOf_eq r (.highlightTerm term) hcalls ▸ hcall) (hmore spans)
  | watch =>
      obtain ⟨more, hcalls, hmore⟩ := r.panel.calls_watch
      exact .inr ⟨rfl, fun hnone => hmore hnone spans (callsOf_eq r .watch hcalls ▸ hcall)⟩
  | moveSurface move =>
      have hnone : r.callsOf (.moveSurface move) = [] := List.drop_length
      rw [hnone] at hcall
      simp at hcall
  | setTranscript t =>
      have hnone : r.callsOf (.setTranscript t) = [] := List.drop_length
      rw [hnone] at hcall
      simp at hcall

end Requests

section Marks

variable {r : PanelRun σ}

/-- Whether an occurrence is the one that a navigation has returned. -/
def Found (r : PanelRun σ) (number : Nat) (anchor : String × Nat) : Prop :=
  ∃ target, r.Returned number (.found target) ∧ anchor = (target.itemId, target.occurrence)

theorem Found.next {number : Nat} {anchor : String × Nat} (h : r.Found number anchor)
    (step : PanelStep σ) : (r.next step).Found number anchor := by
  obtain ⟨target, hreturned, hanchor⟩ := h
  refine ⟨target, ?_, hanchor⟩
  cases step with
  | start term n =>
      exact (List.getElem?_append_left (List.getElem?_eq_some_iff.mp hreturned).1).trans hreturned
  | resume resumed =>
      obtain ⟨old, hold, hnext⟩ | ⟨-, hsame⟩ := r.next_resume_cases resumed
      · have hne : resumed ≠ number := by
          rintro rfl
          exact absurd (hold.symm.trans hreturned) (by simp)
        rw [hnext]
        exact (List.getElem?_set_ne hne).trans hreturned
      · rw [hsame]
        exact hreturned
  | _ => exact hreturned

/-- Whether the mark of the current occurrence is on what a navigation has found or, as long as it
has found nothing, where it was. -/
def KeepsMark (r : PanelRun σ) (latest : Nat) (old : Option (String × Nat)) : Prop :=
  ∀ anchor, r.panel.highlighting.anchor = some anchor →
    r.Found latest anchor ∨ old = some anchor ∧ ∀ target, ¬ r.Returned latest (.found target)

omit [RenderSurface σ] in
theorem keepsMark_of_leavesMark {latest : Nat} {old : Option (String × Nat)} {progress : Progress}
    (h : progress.LeavesMark old r.panel.highlighting.anchor)
    (hprogress : r.navigations[latest]? = some progress) : r.KeepsMark latest old := by
  intro anchor hanchor
  rcases h.found_or_kept with ⟨target, rfl, hafter⟩ | ⟨hne, hafter⟩
  · exact .inl ⟨target, hprogress, Option.some.inj (hanchor.symm.trans hafter)⟩
  · refine .inr ⟨?_, fun target hreturned => ?_⟩
    · rcases hafter with hsame | hnone
      · exact hsame.symm.trans hanchor
      · exact absurd (hanchor.symm.trans hnone) (Option.some_ne_none anchor)
    · exact hne target (Option.some.inj (hprogress.symm.trans hreturned))

theorem keepsMark_next_start (r : PanelRun σ) (term : String) (n : Nat) :
    (r.next (.start term n)).KeepsMark r.navigations.length r.panel.highlighting.anchor :=
  keepsMark_of_leavesMark (r.panel.leavesMark_goTo term n) List.getElem?_concat_length

namespace KeepsMark

variable {latest : Nat} {old : Option (String × Nat)}

omit [RenderSurface σ] in
theorem of_eq {after : PanelRun σ} (h : r.KeepsMark latest old)
    (hnavigations : after.navigations = r.navigations)
    (hanchor : after.panel.highlighting.anchor = r.panel.highlighting.anchor) :
    after.KeepsMark latest old := by
  intro anchor hmark
  have hbefore := h anchor (hanchor.symm.trans hmark)
  simp only [Found, Returned, hnavigations] at hbefore ⊢
  exact hbefore

omit [RenderSurface σ] in
theorem of_eq_none (hnone : r.panel.highlighting.anchor = none) : r.KeepsMark latest old :=
  fun anchor hanchor => absurd (hanchor.symm.trans hnone) (Option.some_ne_none anchor)

theorem next_resume (h : r.KeepsMark latest old) (hlatest : r.IsLatest latest) {resumed : Nat}
    {wait : Waiting} (hwait : r.Waits resumed wait) :
    (r.next (.resume resumed)).KeepsMark latest old := by
  have hnumber := hwait.lt_length
  by_cases heq : resumed = latest
  · subst heq
    -- It has found nothing so far, so the mark is where it was.
    have hbefore : r.panel.highlighting.anchor = old ∨ r.panel.highlighting.anchor = none := by
      cases hanchor : r.panel.highlighting.anchor with
      | none => exact .inr rfl
      | some anchor =>
          rcases h anchor hanchor with ⟨target, hreturned, -⟩ | ⟨hold, -⟩
          · exact absurd (hreturned.symm.trans hwait) (by simp)
          · exact .inl hold.symm
    have hleaves := (r.panel.leavesMark_resume wait).of_before hbefore
    rw [next_resume_of_waits hwait]
    exact keepsMark_of_leavesMark hleaves (List.getElem?_set_self hnumber)
  · rcases hlatest resumed wait hwait heq with hreturned | ⟨-, hstale⟩
    · exact absurd (hreturned.symm.trans hwait) (by simp)
    · rw [IsSuperseded.next_resume hwait hstale]
      intro anchor hanchor
      have hsame : (r.navigations.set resumed (.done .superseded))[latest]? =
          r.navigations[latest]? := List.getElem?_set_ne heq
      have hbefore := h anchor hanchor
      simp only [Found, Returned, hsame] at hbefore ⊢
      exact hbefore

theorem next (h : r.KeepsMark latest old) (hlatest : r.IsLatest latest) {step : PanelStep σ}
    (hstep : ¬ step.IsStart) : (r.next step).KeepsMark latest old := by
  cases step with
  | start term n => exact absurd trivial hstep
  | resume resumed =>
      obtain ⟨wait, hwait, -⟩ | ⟨-, hsame⟩ := r.next_resume_cases resumed
      · exact h.next_resume hlatest hwait
      · rw [hsame]
        exact h
  | clear => exact of_eq_none rfl
  | unmount => exact of_eq_none rfl
  | highlightTerm term => exact of_eq_none rfl
  | watch => exact h.of_eq rfl r.panel.anchor_watch
  | moveSurface move => exact h.of_eq rfl rfl
  | setTranscript t => exact h.of_eq rfl rfl

theorem run (h : r.KeepsMark latest old) (hlatest : r.IsLatest latest)
    {steps : List (PanelStep σ)}
    (hsteps : ∀ step ∈ steps, ¬ step.IsStart) :
    (r.run steps).IsLatest latest ∧ (r.run steps).KeepsMark latest old := by
  induction steps generalizing r with
  | nil => exact ⟨hlatest, h⟩
  | cons step steps ih =>
      have hstep := hsteps step List.mem_cons_self
      exact ih (h.next hlatest hstep) (hlatest.next hstep) fun later hmem =>
        hsteps later (List.mem_cons_of_mem step hmem)

end KeepsMark

/-- Whether the mark of the current occurrence is where it was at first, or on what some
navigation has found. -/
def MarksFound (r : PanelRun σ) (first : Option (String × Nat)) : Prop :=
  ∀ anchor, r.panel.highlighting.anchor = some anchor →
    first = some anchor ∨ ∃ number, r.Found number anchor

theorem marksFound_of_leavesMark {after : PanelRun σ} {first : Option (String × Nat)}
    (h : r.MarksFound first) (step : PanelStep σ) (hnext : r.next step = after) {number : Nat}
    {progress : Progress}
    (hleaves : progress.LeavesMark r.panel.highlighting.anchor after.panel.highlighting.anchor)
    (hprogress : after.navigations[number]? = some progress) : after.MarksFound first := by
  intro anchor hanchor
  rcases keepsMark_of_leavesMark hleaves hprogress anchor hanchor with hfound | ⟨hbefore, -⟩
  · exact .inr ⟨number, hfound⟩
  · exact (h anchor hbefore).imp_right fun ⟨other, hfound⟩ => ⟨other, hnext ▸ hfound.next step⟩

theorem MarksFound.next {first : Option (String × Nat)} (h : r.MarksFound first)
    (step : PanelStep σ) : (r.next step).MarksFound first := by
  cases step with
  | start term n =>
      exact marksFound_of_leavesMark h _ rfl (r.panel.leavesMark_goTo term n)
        List.getElem?_concat_length
  | resume resumed =>
      obtain ⟨wait, hwait, hnext⟩ | ⟨-, hsame⟩ := r.next_resume_cases resumed
      · have hnext := hnext
        rw [hnext]
        exact marksFound_of_leavesMark h _ hnext (r.panel.leavesMark_resume wait)
          (List.getElem?_set_self hwait.lt_length)
      · rw [hsame]
        exact h
  | clear => exact fun anchor hanchor => absurd hanchor.symm (Option.some_ne_none anchor)
  | unmount => exact fun anchor hanchor => absurd hanchor.symm (Option.some_ne_none anchor)
  | highlightTerm term =>
    exact fun anchor hanchor => absurd hanchor.symm (Option.some_ne_none anchor)
  | watch => exact fun anchor hanchor => h anchor (r.panel.anchor_watch.symm.trans hanchor)
  | moveSurface move => exact h
  | setTranscript t => exact h

theorem marksFound_run (r : PanelRun σ) (steps : List (PanelStep σ)) :
    (r.run steps).MarksFound r.panel.highlighting.anchor := by
  have hrun : ∀ {r : PanelRun σ} {first}, r.MarksFound first →
      (r.run steps).MarksFound first := by
    induction steps with
    | nil => exact fun h => h
    | cons step steps ih => exact fun h => ih (h.next step)
  exact hrun fun anchor hanchor => .inl hanchor

end Marks

/-- A navigation that has not ended when another one begins, or when the search is cleared,
returns as superseded, and it may return at once.  From then on it asks for no scroll, touches no
highlights and does not change whether the surface follows; all it asks for is that its own scroll
be over.  So after the last navigation has begun, what is marked as the current occurrence comes
from that navigation, or it is marked again because the surface has changed: what the navigation
has found or, as long as it has found nothing, what had been marked before it began. -/
theorem superseded_and_silent (panel : FindPanel σ) (before : List (PanelStep σ)) :
    let r := (new panel.recorded).record before
    r.forget = (new panel).run before ∧
      (∀ (newer : PanelStep σ) number wait later, newer.Supersedes → r.Waits number wait →
        let s := (r.next newer.recorded).record later
        (s.Returned number .superseded ∨ s.Waits number wait ∧ s.panel.isReady wait = true ∧
          (s.next (.resume number)).Returned number .superseded) ∧
        ∀ call, (some number, call) ∈ (r.next newer.recorded).trace later →
          call = .setProgrammatic false) ∧
      (∀ term n later, (∀ step ∈ later, ¬ step.IsStart) →
        let latest := r.navigations.length
        let s := (r.next (.start term n)).record later
        ∀ (step : PanelStep σ) spans, ¬ step.IsStart →
          .applyHighlight .current spans ∈ s.callsOf step →
          s.actor? step = some latest ∨
            step = .watch ∧ ∃ anchor, s.panel.highlighting.anchor = some anchor ∧
              (s.Found latest anchor ∨ r.panel.highlighting.anchor = some anchor ∧
                ∀ target, ¬ s.Returned latest (.found target))) ∧
      ∀ anchor, r.panel.highlighting.anchor = some anchor →
        panel.highlighting.anchor = some anchor ∨ ∃ number, r.Found number anchor := by
  intro r
  have hticketed : r.IsTicketed := (isTicketed_new panel.recorded).run _
  refine ⟨forget_record _ before, ?_, ?_, marksFound_run (new panel.recorded) _⟩
  · intro newer number wait later hnewer hwait
    have hsuperseded : (r.next newer.recorded).IsSuperseded number wait := by
      refine .of_supersedes hticketed hwait ?_
      cases newer <;> exact hnewer
    exact ⟨(hsuperseded.run _).returned_or_isReady,
      fun call hcall => eq_of_mem_trace_of_isSuperseded hsuperseded later hcall⟩
  · intro term n later hlater latest s step spans hstep hcall
    have hrecorded : ∀ step ∈ later.map PanelStep.recorded, ¬ step.IsStart := by
      intro step hmem
      obtain ⟨original, hother, rfl⟩ := List.mem_map.mp hmem
      have horiginal := hlater original hother
      cases original <;> exact horiginal
    obtain ⟨hlatest, hkeeps⟩ :=
      (keepsMark_next_start r term n).run (isLatest_next_start hticketed term n) hrecorded
    refine (actor?_of_mem_callsOf hlatest hstep hcall).imp_right fun ⟨hwatch, hsome⟩ =>
      ⟨hwatch, ?_⟩
    obtain ⟨anchor, hanchor⟩ := Option.ne_none_iff_exists'.mp hsome
    exact ⟨anchor, hanchor, hkeeps anchor hanchor⟩

/-- The first of two overlapping navigations is resumed after the scroll of the second has taken
effect.  When the item that the second has found gets other rows, its occurrence there is marked
again. -/
theorem superseded_and_silent_held :
    let r := (new heldPanel.recorded).record [.start "match" 2]
    let later : List (PanelStep PagedSurface) :=
      [.moveSurface (·.settle threeMatches), .resume 0, .resume 1,
        .moveSurface (·.replaceRows "event-2" ["a match"] false)]
    let s := (r.next (.start "match" 3)).record later
    r.Waits 0 ⟨"match", 1, 1, 1⟩ ∧ s.Returned 0 .superseded ∧
      (∀ call, (some 0, call) ∈ (r.next (.start "match" 3)).trace later →
        call = .setProgrammatic false) ∧
      (some 1, .applyHighlight .current [⟨"event-2", 2, 1, 0, 5⟩]) ∈
        r.trace (.start "match" 3 :: later) ∧
      .applyHighlight .current [⟨"event-2", 2, 0, 2, 7⟩] ∈ s.callsOf .watch ∧
      s.Found 1 ("event-2", 1) := by
  intro r later s
  have hwait : r.Waits 0 ⟨"match", 1, 1, 1⟩ := by
    unfold Waits
    decide +kernel
  obtain ⟨-, hsuperseded, hlatest, -⟩ := superseded_and_silent heldPanel [.start "match" 2]
  obtain ⟨hreturned, hsilent⟩ := hsuperseded (.start "match" 3) 0 _ later trivial hwait
  have hlater : ∀ step ∈ later, ¬ step.IsStart := by
    simp [later, PanelStep.IsStart]
  have hmarks : .applyHighlight .current [⟨"event-2", 2, 0, 2, 7⟩] ∈ s.callsOf .watch := by
    decide +kernel
  refine ⟨hwait, ?_, hsilent, by decide +kernel, hmarks, ?_⟩
  · rcases hreturned with hreturned | ⟨hwaits, -⟩
    · exact hreturned
    · have hended : ¬ s.Waits 0 ⟨"match", 1, 1, 1⟩ := by
        unfold Waits
        decide +kernel
      exact absurd hwaits hended
  · obtain hactor | ⟨-, anchor, hanchor, hfound | ⟨hold, -⟩⟩ :=
      hlatest "match" 3 later hlater .watch _ not_false hmarks
    · exact absurd hactor (Option.some_ne_none _).symm
    · have hmark : s.panel.highlighting.anchor = some ("event-2", 1) := by decide +kernel
      rwa [Option.some.inj (hanchor.symm.trans hmark)] at hfound
    · have hnone : r.panel.highlighting.anchor = none := by decide +kernel
      exact absurd (hold.symm.trans hnone) (Option.some_ne_none anchor)

/-- While the second of two navigations waits, the item that the first has found gets other rows.
What the first has found is marked as the current occurrence again, which is none of the second's
doing. -/
theorem watch_marks_older_target :
    let r := (new heldPanel.recorded).record [.start "match" 1]
    let later : List (PanelStep PagedSurface) :=
      [.moveSurface (·.replaceRows "event-0" ["a match"] false), .watch]
    (∀ step ∈ later, ¬ step.IsStart) ∧
      ((r.next (.start "match" 3)).record later).Waits 1 ⟨"match", 2, 2, 1⟩ ∧
      (none, .applyHighlight .current [⟨"event-0", 0, 0, 2, 7⟩]) ∈
        r.trace (.start "match" 3 :: later) ∧
      ¬ ∀ actor spans, (actor, .applyHighlight .current spans) ∈
        r.trace (.start "match" 3 :: later) → actor = some 1 := by
  intro r later
  have hmarks : (none, .applyHighlight .current [⟨"event-0", 0, 0, 2, 7⟩]) ∈
      r.trace (.start "match" 3 :: later) := by
    decide +kernel
  refine ⟨by simp [later, PanelStep.IsStart], ?_, hmarks, fun hlatest => ?_⟩
  · unfold Waits
    decide +kernel
  · exact Option.some_ne_none 1 (hlatest none _ hmarks).symm

end PanelRun

end TranscriptSearch
