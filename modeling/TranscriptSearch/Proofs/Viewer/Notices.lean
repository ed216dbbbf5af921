import Mathlib.Data.List.Induction
import TranscriptSearch.Proofs.Find.StepEnds
import TranscriptSearch.Proofs.Viewer.TypedTerm

namespace TranscriptSearch

/-- Whether a key is pressed, which takes the notice away. -/
def ViewerStep.IsPress : ViewerStep → Prop
  | .event (.key key) => key.released = false
  | _ => False

namespace Viewer

/-- How the steps have ended whose reports are still to be taken in, after something has
happened. -/
def endsAfter (v : Viewer) (ends : List StepEnd) : ViewerStep → List StepEnd
  | .start number =>
    match v.search.asked.find? (·.number = number) with
    | some step => ends ++ (v.search.endOfStart step).toList
    | none => ends
  | .resume number =>
    match v.search.tasks.find? (·.number = number) with
    | some task => ends ++ (v.search.endOfResume task).toList
    | none => ends
  | .takeReports => []
  | _ => ends

def endsOf (v : Viewer) (ends : List StepEnd) : List ViewerStep → List StepEnd
  | [] => ends
  | step :: steps => (v.next step).endsOf (v.endsAfter ends step) steps

/-- Whether the notice is set when the reports are taken in: no step is to begin or waits, the one
that has ended last has not landed, and the term that is searched for now occurs. -/
structure Raises (v : Viewer) (ends : List StepEnd) : Prop where
  asked : v.search.asked = []
  tasks : v.search.tasks = []
  unlanded : ∃ e, ends.getLast? = some e ∧ e.hasLanded = false
  occurs : 0 < v.status.total

/-- Whether something may take the place of the latest request: another text is typed, a text is
committed after a pause, the search is dropped, or a step begins. -/
def Replaces (v : Viewer) : ViewerStep → Prop
  | .event event => v.Drops event ∨ ∃ text, v.typed? event = some text ∧ v.status.term ≠ some text
  | .start number => (v.search.asked.find? (·.number = number)).isSome = true
  | .poll => (v.search.finder.session.poll v.search.now).1.isSome = true
  | _ => False

def IsUndisturbed (v : Viewer) : List ViewerStep → Prop
  | [] => True
  | step :: steps => ¬ v.Replaces step ∧ (v.next step).IsUndisturbed steps

theorem run_concat (v : Viewer) (steps : List ViewerStep) (step : ViewerStep) :
    v.run (steps ++ [step]) = (v.run steps).next step :=
  List.foldl_append

theorem notice_navigate (v : Viewer) (direction : Direction) :
    (v.navigate direction).notice = v.notice := by
  rw [navigate]
  split
  · rfl
  · rfl

theorem notice_pressInBar (v : Viewer) (key : Key) : (v.pressInBar key).notice = v.notice := by
  rw [pressInBar]
  simp only
  split
  · rfl
  · rfl
  · rfl
  · exact notice_navigate _ .forward
  · exact notice_navigate _ .backward
  · rfl

theorem notice_tryUpdateView (v : Viewer)
    (change : Transcript → TranscriptView → Option TranscriptView) :
    (v.tryUpdateView change).notice = v.notice := by
  rw [tryUpdateView]
  split
  · rfl
  · split <;> rfl

theorem notice_pressChar (v : Viewer) (c : Char) (control : Bool) :
    (v.pressChar c control).notice = v.notice := by
  unfold pressChar
  split
  · cases control <;> rfl
  · cases control <;> rfl
  · rfl
  · rfl
  · exact v.notice_navigate .forward
  · exact v.notice_navigate .backward
  · exact v.notice_tryUpdateView _
  · rfl
  · exact v.notice_tryUpdateView _
  all_goals rfl

theorem notice_escape (v : Viewer) : v.escape.notice = v.notice := by
  rw [escape]
  split
  · rfl
  · rfl

theorem notice_pressOutsideBar (v : Viewer) (key : Key) :
    (v.pressOutsideBar key).notice = v.notice := by
  obtain ⟨code, control, shift, released⟩ := key
  cases code with
  | char c => exact v.notice_pressChar c control
  | escape => exact v.notice_escape
  | down => exact v.notice_pressChar 'j' false
  | up => exact v.notice_pressChar 'k' false
  | pageDown => exact v.notice_pressChar ' ' false
  | home => exact v.notice_pressChar 'g' false
  | bottom => exact v.notice_pressChar 'G' false
  | _ => rfl

theorem notice_handle_iff (v : Viewer) (event : TerminalEvent) :
    (v.handle event).notice = some notShown ↔
      v.notice = some notShown ∧ ¬ (ViewerStep.event event).IsPress := by
  cases event with
  | resize width height => exact ⟨fun h => ⟨h, not_false⟩, And.left⟩
  | other => exact ⟨fun h => ⟨h, not_false⟩, And.left⟩
  | key key =>
      cases hreleased : key.released with
      | true =>
          rw [handle_of_released hreleased]
          exact ⟨fun h => ⟨h, fun hpress => Bool.noConfusion (hreleased.symm.trans hpress)⟩,
            And.left⟩
      | false =>
          have hnone : (v.handle (.key key)).notice = none := by
            cases hopen : v.bar.isOpen with
            | true =>
                rw [handle_of_isOpen hreleased hopen]
                exact notice_pressInBar _ key
            | false =>
                rw [handle_of_not_isOpen hreleased hopen]
                exact notice_pressOutsideBar _ key
          rw [hnone]
          exact ⟨fun h => absurd h nofun, fun h => absurd hreleased h.2⟩

theorem notice_report_iff (v : Viewer) (found : Bool) :
    (v.report found).notice = some notShown ↔
      (found = false ∧ 0 < v.status.total ∧ v.navigations - 1 = 0) ∨
      v.notice = some notShown := by
  change (if _ then some notShown else v.notice) = _ ↔ _
  simp only [Bool.and_eq_true, Bool.not_eq_true', decide_eq_true_eq, beq_iff_eq, and_assoc]
  split
  · next hset => exact iff_of_true rfl (.inl hset)
  · next hset => exact (or_iff_right hset).symm

theorem notice_foldl_report_iff {v : Viewer} {reports : List Bool} {awaited : Nat}
    (h : v.navigations = awaited + reports.length) :
    (reports.foldl report v).notice = some notShown ↔
      (awaited = 0 ∧ reports.getLast? = some false ∧ 0 < v.status.total) ∨
        v.notice = some notShown := by
  induction reports generalizing v with
  | nil => simp
  | cons found reports ih =>
      have hrest : v.navigations - 1 = awaited + reports.length := by
        rw [h, List.length_cons]
        omega
      refine (ih (v := v.report found) hrest).trans ?_
      rw [notice_report_iff, hrest]
      cases reports with
      | nil =>
          simp only [List.getLast?_nil, List.getLast?_singleton, List.length_nil, Option.some_inj]
          tauto
      | cons second reports => simp [List.getLast?_cons_cons, Viewer.status, report]

/-- What is known of a viewer and the ends of the steps whose reports it has not taken in. -/
structure Tallies (v : Viewer) (ends : List StepEnd) : Prop where
  isQueued : v.search.IsQueued
  reports_eq : v.reports = ends.map StepEnd.hasLanded
  navigations_eq : v.navigations =
    v.search.asked.length + v.search.tasks.length + ends.length
  isProper : ∀ e ∈ ends, e.IsProper v.search.finder.session.seq

namespace Tallies

variable {v w : Viewer} {ends : List StepEnd}

theorem of_follows (h : v.Tallies ends) {g : Finder ScreenSurface} {now : Nat}
    (hfollows : Finder.Follows v.search.IsBusy v.search.finder g)
    (hsearch : w.search = { v.search with finder := g, now })
    (hnavigations : w.navigations = v.navigations) : w.Tallies ends := by
  constructor
  · rw [hsearch]
    exact h.isQueued.of_follows hfollows now
  · rw [reports, hsearch]
    exact h.reports_eq
  · rw [hnavigations, hsearch]
    exact h.navigations_eq
  · rw [hsearch]
    exact fun e he => (h.isProper e he).mono hfollows.seq_le

theorem of_keepsTickets (h : v.Tallies ends) {g : Finder ScreenSurface}
    (hkeeps : Finder.KeepsTickets v.search.finder g)
    (hseq : g.session.seq = v.search.finder.session.seq)
    (hsearch : w.search = v.search.withFinder g) (hnavigations : w.navigations = v.navigations) :
    w.Tallies ends :=
  h.of_follows (.of_keepsTickets h.isQueued.isSteady.isSound hkeeps hseq) hsearch hnavigations

theorem asks (h : v.Tallies ends) {term : String} {direction : Direction}
    (hsearch : w.search = (v.search.askStep term direction).2)
    (hnavigations : w.navigations = v.navigations + 1) : w.Tallies ends := by
  constructor
  · rw [hsearch]
    exact h.isQueued.askStep term direction
  · rw [reports, hsearch]
    exact h.reports_eq
  · rw [hnavigations, hsearch, h.navigations_eq]
    change _ = (v.search.asked ++ [_]).length + v.search.tasks.length + ends.length
    rw [List.length_append, List.length_singleton]
    omega
  · rw [hsearch]
    exact h.isProper

theorem of_ends (h : v.Tallies ends) {number : Nat} {ending : Option StepEnd}
    {search : Schedule ScreenSurface} (hends : v.search.Ends number ending search) :
    Tallies { v with search } (ends ++ ending.toList) := by
  refine ⟨hends.isQueued, ?_, ?_, ?_⟩
  · have hreported : Viewer.reports { v with search } =
        v.reports ++ ending.toList.map StepEnd.hasLanded := by
      rw [reports, hends.results_eq, List.reverse_append, List.filterMap_append]
      cases ending <;> rfl
    rw [hreported, h.reports_eq, List.map_append]
  · have hlength := hends.length_eq
    change v.navigations = search.asked.length + search.tasks.length + _
    rw [h.navigations_eq, List.length_append]
    omega
  · refine List.forall_mem_append.mpr ⟨fun e he => (h.isProper e he).mono hends.seq_le, ?_⟩
    exact fun e he => hends.isProper e (Option.mem_toList.mp he)

theorem handle (h : v.Tallies ends) (event : TerminalEvent) : (v.handle event).Tallies ends := by
  have hsound := h.isQueued.isSteady.isSound
  cases v.reaction_handle event with
  | keeps hdrops hkeeps =>
      exact h.of_follows (.refl hsound) hkeeps.search_eq hkeeps.navigations_eq
  | shows hdrops hquery surface hsearch hnavigations =>
      have hkeeps : Finder.KeepsTickets v.search.finder
          (v.search.finder.modify 0 fun p => { p with surface := surface p }) :=
        .modify v.search.finder 0 fun _ => rfl
      exact h.of_keepsTickets hkeeps rfl hsearch hnavigations
  | asks hdrops hquery hsome direction hsearch hnavigations => exact h.asks hsearch hnavigations
  | types hdrops htyped hsearch hnavigations =>
      exact h.of_follows (Finder.follows_input hsound _ _).1 hsearch hnavigations
  | drops hdrops hquery hsearch hnavigations =>
      exact h.of_follows (Finder.follows_clear hsound).1 hsearch hnavigations

theorem takeReports (h : v.Tallies ends) : v.takeReports.Tallies [] := by
  obtain ⟨notice, heq⟩ := v.takeReports_eq
  rw [heq]
  refine ⟨h.isQueued.withoutResults, rfl, ?_, nofun⟩
  change v.navigations - v.reports.length = v.search.asked.length + v.search.tasks.length + 0
  rw [h.navigations_eq, h.reports_eq, List.length_map]
  omega

theorem reload (h : v.Tallies ends) (file : String) : (v.reload file).Tallies ends := by
  obtain ⟨nextPoll, heq | ⟨renew, hrenew, heq⟩⟩ := v.reload_eq file
  · rw [heq]
    exact h.of_follows (.refl h.isQueued.isSteady.isSound) rfl rfl
  · rw [heq]
    have hkeeps := Finder.KeepsTickets.modify v.search.finder 0 hrenew
    refine h.of_keepsTickets (hkeeps.trans (.recount _)) ?_ rfl rfl
    obtain ⟨total, hrecount⟩ := (v.search.finder.modify 0 renew).session_recount
    rw [hrecount, FindSession.seq_updateTotal]
    rfl

theorem next (h : v.Tallies ends) (step : ViewerStep) :
    (v.next step).Tallies (v.endsAfter ends step) := by
  have hsound := h.isQueued.isSteady.isSound
  cases step with
  | event event => exact h.handle event
  | start number =>
      rw [Viewer.next, endsAfter]
      cases hstep : v.search.asked.find? (·.number = number) with
      | none => exact h
      | some step => exact h.of_ends (h.isQueued.ends_beginStep (List.mem_of_find?_eq_some hstep))
  | resume number =>
      rw [Viewer.next, endsAfter]
      cases htask : v.search.tasks.find? (·.number = number) with
      | none => exact h
      | some task => exact h.of_ends (h.isQueued.ends_resume (List.mem_of_find?_eq_some htask)).1
  | tick milliseconds => exact h.of_follows (.refl hsound) rfl rfl
  | watch => exact h.of_keepsTickets (.watch v.search.finder) rfl rfl rfl
  | poll => exact h.of_follows (Finder.follows_poll hsound v.search.now).1 rfl rfl
  | takeReports => exact h.takeReports
  | reload file => exact h.reload file

theorem run (h : v.Tallies ends) (steps : List ViewerStep) :
    (v.run steps).Tallies (v.endsOf ends steps) := by
  induction steps generalizing v ends with
  | nil => exact h
  | cons step steps ih => exact ih (h.next step)

theorem raises_iff (h : v.Tallies ends) :
    v.Raises ends ↔ v.search.asked.length + v.search.tasks.length = 0 ∧
      v.reports.getLast? = some false ∧ 0 < v.status.total := by
  rw [h.reports_eq, List.getLast?_map, Option.map_eq_some_iff, Nat.add_eq_zero_iff,
    List.length_eq_zero_iff, List.length_eq_zero_iff]
  constructor
  · rintro ⟨hasked, htasks, hunlanded, hoccurs⟩
    exact ⟨⟨hasked, htasks⟩, hunlanded, hoccurs⟩
  · rintro ⟨⟨hasked, htasks⟩, hunlanded, hoccurs⟩
    exact ⟨hasked, htasks, hunlanded, hoccurs⟩

/-- The notice comes when reports are taken in, and goes with the next key. -/
theorem notice_next_iff (h : v.Tallies ends) (step : ViewerStep) :
    (v.next step).notice = some notShown ↔
      (step = .takeReports ∧ v.Raises ends) ∨ (v.notice = some notShown ∧ ¬ step.IsPress) := by
  have hkept : step ≠ .takeReports → ¬ step.IsPress → (v.next step).notice = v.notice →
      ((v.next step).notice = some notShown ↔
        (step = .takeReports ∧ v.Raises ends) ∨ (v.notice = some notShown ∧ ¬ step.IsPress)) := by
    intro hreports hpress hnotice
    rw [hnotice]
    simp [hreports, hpress]
  cases step with
  | event event =>
      refine (v.notice_handle_iff event).trans ?_
      simp
  | start number =>
      refine hkept ViewerStep.noConfusion not_false ?_
      rw [Viewer.next]
      split <;> rfl
  | resume number =>
      refine hkept ViewerStep.noConfusion not_false ?_
      rw [Viewer.next]
      split <;> rfl
  | tick milliseconds => exact hkept ViewerStep.noConfusion not_false rfl
  | watch => exact hkept ViewerStep.noConfusion not_false rfl
  | poll => exact hkept ViewerStep.noConfusion not_false rfl
  | takeReports =>
      have hnavigations : v.navigations =
          v.search.asked.length + v.search.tasks.length + v.reports.length := by
        rw [h.reports_eq, List.length_map]
        exact h.navigations_eq
      rw [h.raises_iff]
      apply (notice_foldl_report_iff (v := { v with search.results := [] }) hnavigations).trans
      simp [ViewerStep.IsPress, Viewer.status]
  | reload file =>
      refine hkept ViewerStep.noConfusion not_false ?_
      obtain ⟨nextPoll, heq | ⟨renew, -, heq⟩⟩ := v.reload_eq file
      · exact (congrArg Viewer.notice heq).trans rfl
      · exact (congrArg Viewer.notice heq).trans rfl

theorem seq_next (h : v.Tallies ends) {step : ViewerStep} (hstep : ¬ v.Replaces step) :
    (v.next step).search.finder.session.seq = v.search.finder.session.seq := by
  cases step with
  | event event =>
      rw [Viewer.next]
      cases v.reaction_handle event with
      | keeps hdrops hkeeps => rw [hkeeps.search_eq]
      | shows hdrops hquery surface hsearch hnavigations => rw [hsearch]; rfl
      | asks hdrops hquery hsome direction hsearch hnavigations => rw [hsearch]; rfl
      | types hdrops htyped hsearch hnavigations =>
          have hterm : v.search.finder.session.term = some (v.handle event).bar.query :=
            Decidable.byContradiction fun hne => hstep (.inr ⟨_, htyped, hne⟩)
          rw [hsearch]
          exact (FindSession.seq_input _ _ _).trans (if_pos hterm)
      | drops hdrops hquery hsearch hnavigations => exact absurd (.inl hdrops) hstep
  | start number =>
      rw [Viewer.next, Option.not_isSome_iff_eq_none.mp hstep]
  | resume number =>
      rw [Viewer.next]
      split
      · next task htask => exact (h.isQueued.ends_resume (List.mem_of_find?_eq_some htask)).2
      · rfl
  | tick milliseconds => rfl
  | watch => rfl
  | poll => rw [Viewer.next, poll_of_none (Option.not_isSome_iff_eq_none.mp hstep)]
  | takeReports =>
      obtain ⟨notice, heq⟩ := v.takeReports_eq
      rw [Viewer.next, heq]
  | reload file =>
      rw [Viewer.next]
      obtain ⟨nextPoll, heq | ⟨renew, -, heq⟩⟩ := v.reload_eq file
      · rw [heq]
      · obtain ⟨total, hrecount⟩ := (v.search.finder.modify 0 renew).session_recount
        rw [heq]
        refine (congrArg FindSession.seq hrecount).trans ?_
        rw [FindSession.seq_updateTotal]
        rfl

theorem seq_run (h : v.Tallies ends) {steps : List ViewerStep} (hsteps : v.IsUndisturbed steps) :
    (v.run steps).search.finder.session.seq = v.search.finder.session.seq := by
  induction steps generalizing v ends with
  | nil => rfl
  | cons step steps ih => exact (ih (h.next step) hsteps.2).trans (h.seq_next hsteps.1)

theorem notice_run_iff (h : v.Tallies ends) (hnotice : v.notice ≠ some notShown)
    (steps : List ViewerStep) :
    (v.run steps).notice = some notShown ↔ ∃ before later,
      steps = before ++ .takeReports :: later ∧ (v.run before).Raises (v.endsOf ends before) ∧
        ∀ step ∈ later, ¬ step.IsPress := by
  induction steps using List.reverseRecOn with
  | nil =>
      refine iff_of_false hnotice ?_
      rintro ⟨before, later, hnil, -⟩
      exact List.append_ne_nil_of_right_ne_nil before (List.cons_ne_nil _ later) hnil.symm
  | append_singleton steps step ih =>
      rw [run_concat, (h.run steps).notice_next_iff, ih]
      constructor
      · rintro (⟨rfl, hraises⟩ | ⟨⟨before, later, rfl, hraises, hlater⟩, hpress⟩)
        · exact ⟨steps, [], rfl, hraises, nofun⟩
        · refine ⟨before, later ++ [step], List.append_assoc _ _ _, hraises, ?_⟩
          exact List.forall_mem_append.mpr ⟨hlater, List.forall_mem_singleton.mpr hpress⟩
      · rintro ⟨before, later, hsteps, hraises, hlater⟩
        obtain rfl | ⟨later, last, rfl⟩ := List.eq_nil_or_concat' later
        · obtain ⟨rfl, hlast⟩ := List.append_inj' hsteps rfl
          exact .inl ⟨List.singleton_inj.mp hlast, hraises⟩
        · rw [← List.cons_append, ← List.append_assoc] at hsteps
          obtain ⟨rfl, hlast⟩ := List.append_inj' hsteps rfl
          obtain rfl := List.singleton_inj.mp hlast
          obtain ⟨hbefore, hpress⟩ := List.forall_mem_append.mp hlater
          exact .inr
            ⟨⟨before, later, rfl, hraises, hbefore⟩, hpress step (List.mem_singleton_self step)⟩

end Tallies

theorem isSound_new (t : Transcript) (settings : Settings) (follow : Bool) :
    (Viewer.new t settings follow).search.finder.IsSound := by
  refine .of_registered (fun p hp => ?_) rfl
  rw [List.mem_singleton.mp hp]
  rfl

theorem tallies_start (t : Transcript) (settings : Settings) (follow : Bool) (width height : Nat)
    (term : Option String) :
    ((Viewer.new t settings follow).start width height term).Tallies [] := by
  have hnew : (Viewer.new t settings follow).Tallies [] :=
    ⟨Schedule.isQueued_new (isSound_new t settings follow), rfl, rfl, nofun⟩
  have hresized : ((Viewer.new t settings follow).resize width height).Tallies [] :=
    hnew.handle (.resize width height)
  unfold Viewer.start
  split
  · exact hresized
  · exact hresized
  · next term hsome =>
      rw [navigate, if_neg hsome]
      exact hresized.asks rfl rfl

theorem notice_start (t : Transcript) (settings : Settings) (follow : Bool) (width height : Nat)
    (term : Option String) :
    ((Viewer.new t settings follow).start width height term).notice = none := by
  unfold Viewer.start
  split
  · rfl
  · rfl
  · exact notice_navigate _ .forward

/-- The notice that a match could not be shown is there just if, at some time at which reports
were taken in and since which no key has been pressed, no step was to begin or waited, the one
that had ended last had not landed, and the term that was searched for by then occurred.  A step
that has not landed has missed its occurrence as the latest request, or was not the latest request
any more when it ended, or there was no request because its term did not occur.  A request is the
latest one still when it ends, if nobody has typed another text, committed one, dropped the search
or begun another step since it was made. -/
theorem notice_shown_iff (t : Transcript) (settings : Settings) (follow : Bool)
    (width height : Nat) (term : Option String) (steps : List ViewerStep) :
    let v := (Viewer.new t settings follow).start width height term
    let r := v.run steps
    (r.notice = some notShown ↔ ∃ before later, steps = before ++ .takeReports :: later ∧
        (v.run before).Raises (v.endsOf [] before) ∧ ∀ step ∈ later, ¬ step.IsPress) ∧
      r.reports = (v.endsOf [] steps).map StepEnd.hasLanded ∧
      (∀ e ∈ v.endsOf [] steps,
        (e.hasLanded = false ↔ e = .declined ∨ e.IsMissed ∨ e.IsOvertaken)) ∧
      ∀ later, r.IsUndisturbed later → ∀ outcome isLatest,
        .ended r.search.finder.session.seq outcome isLatest ∈ v.endsOf [] (steps ++ later) →
          isLatest = true := by
  intro v r
  have hstart : v.Tallies [] := tallies_start t settings follow width height term
  have htallies : r.Tallies (v.endsOf [] steps) := hstart.run steps
  refine ⟨?_, htallies.reports_eq, ?_, ?_⟩
  · refine hstart.notice_run_iff ?_ steps
    rw [notice_start]
    exact nofun
  · exact fun e he => (htallies.isProper e he).hasLanded_eq_false_iff
  · intro later hlater outcome isLatest hended
    have hrun : v.run (steps ++ later) = r.run later := List.foldl_append
    have hproper := (hstart.run (steps ++ later)).isProper _ hended
    rw [hrun, htallies.seq_run hlater] at hproper
    cases isLatest with
    | true => rfl
    | false => exact absurd hproper.2 (Nat.lt_irrefl _)

/-- The term occurs in an argument of a tool that is not shown. -/
def hiddenMatch : Transcript :=
  .ofEvents [⟨none, none, .tool "c" "f" [("path", .string "match")] none (.string "") none⟩]

theorem notice_shown_missed :
    let v := (Viewer.new hiddenMatch {} false).start 60 6 (some "match")
    let steps := [.start 0, .takeReports]
    v.endsOf [] [.start 0] = [.ended 2 (.notFound .reconciliationExhausted) true] ∧
      (v.run [.start 0]).Raises (v.endsOf [] [.start 0]) ∧
      (v.run steps).notice = some notShown := by
  intro v steps
  have hends : v.endsOf [] [.start 0] = [.ended 2 (.notFound .reconciliationExhausted) true] := by
    decide +kernel
  have hraises : (v.run [.start 0]).Raises (v.endsOf [] [.start 0]) := by
    rw [hends]
    exact ⟨by decide +kernel, by decide +kernel, ⟨_, rfl, rfl⟩, by decide +kernel⟩
  have hshown := (notice_shown_iff hiddenMatch {} false 60 6 (some "match") steps).1
  exact ⟨hends, hraises, hshown.mpr ⟨[.start 0], [], rfl, hraises, nofun⟩⟩

/-- A step ends at once, since its term does not occur, and the text is replaced by one that does.
The report of the step is taken in when that text is already the term, and the notice is set.  So
it is for a request that is superseded, as the term is typed again while it waits in a window
without rows. -/
theorem notice_shown_not_missed :
    let v := (Viewer.new oneMatch {} false).start 60 6 none
    let w := (Viewer.new oneMatch {} false).start 60 1 none
    let declining := [pressed (.char '/'), pressed (.char 'z'), pressed .enter, .start 0,
      pressed .backspace, pressed (.char 'm'), .tick 100, .poll]
    let waiting := [pressed (.char '/'), pressed (.char 'm'), pressed .enter, .start 0,
      pressed (.char 'x'), pressed .backspace, .tick 100, .poll, .resume 0]
    ((v.run declining).notice = none ∧ v.endsOf [] declining = [.declined] ∧
        (v.run (declining ++ [.takeReports])).notice = some notShown) ∧
      ((w.run waiting).notice = none ∧ w.endsOf [] waiting = [.ended 3 .superseded false] ∧
        (w.run (waiting ++ [.takeReports])).notice = some notShown) ∧
      ∀ e ∈ v.endsOf [] declining ++ w.endsOf [] waiting, ¬ e.IsMissed := by
  intro v w declining waiting
  have hdeclined : v.endsOf [] declining = [.declined] := by decide +kernel
  have hsuperseded : w.endsOf [] waiting = [.ended 3 .superseded false] := by decide +kernel
  refine ⟨⟨by decide +kernel, hdeclined, by decide +kernel⟩,
    ⟨by decide +kernel, hsuperseded, by decide +kernel⟩, ?_⟩
  rw [hdeclined, hsuperseded]
  rintro e he ⟨request, reason, rfl⟩
  simp at he

end Viewer

end TranscriptSearch
