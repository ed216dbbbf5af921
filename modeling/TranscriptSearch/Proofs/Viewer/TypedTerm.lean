import TranscriptSearch.Proofs.Find.FinderSession
import TranscriptSearch.Viewer.Viewer

/-!
The text in the find bar and the term that is searched for.  A step that a key has asked for
begins later, with the text that the bar had at the key.  If it begins when the bar holds another
text, it makes the old text the term and drops the new one, although that has not been searched
for yet; this is the only way in which text and term can come to differ when nothing is left to
do.
-/

namespace TranscriptSearch

/-- Something that happens to a viewer.  Steps and tasks are known by their numbers; they may
begin, and go on, at any time and in any order. -/
inductive ViewerStep where
  | event (event : TerminalEvent)
  | start (number : Nat)
  | resume (number : Nat)
  | tick (milliseconds : Nat)
  | watch
  | poll
  | takeReports
  | reload (file : String)

namespace Schedule

variable {σ : Type} [RenderSurface σ]

theorem asked_resume (s : Schedule σ) (task : FindTask) : (s.resume task).asked = s.asked := by
  obtain ⟨finder, -, hproceeds⟩ := s.proceeds_resume task
  exact hproceeds.asked_eq

theorem asked_beginStep (s : Schedule σ) (step : AskedStep) :
    (s.beginStep step).asked = s.asked.filter (·.number ≠ step.number) := by
  obtain ⟨finder, -, hproceeds⟩ := s.proceeds_beginStep step
  exact hproceeds.asked_eq

end Schedule

namespace Viewer

def typing (v : Viewer) : Option String × Debouncer :=
  v.search.finder.session.typing

/-- Whether the term that is searched for is the text in the bar; there is none if the bar is
empty. -/
def SearchesTyped (v : Viewer) : Prop :=
  v.status.term = if v.bar.query = "" then none else some v.bar.query

/-- Whether no step is to begin and no text is typed that has not been searched for. -/
structure IsSettled (v : Viewer) : Prop where
  asked : v.search.asked = []
  typed : v.search.finder.session.debouncer.pending = none

/-- Whether an event drops the search and the text in the bar. -/
def Drops (v : Viewer) : TerminalEvent → Prop
  | .key key => key.released = false ∧ key.code = .escape ∧
      (v.bar.isOpen = true ∨ v.status.term.isSome = true)
  | _ => False

def next (v : Viewer) : ViewerStep → Viewer
  | .event event => v.handle event
  | .start number =>
    match v.search.asked.find? (·.number = number) with
    | some step => { v with search := v.search.beginStep step }
    | none => v
  | .resume number =>
    match v.search.tasks.find? (·.number = number) with
    | some task => { v with search := v.search.resume task }
    | none => v
  | .tick milliseconds => { v with search.now := v.search.now + milliseconds }
  | .watch => v.withFinder v.search.finder.watch
  | .poll => v.poll
  | .takeReports => v.takeReports
  | .reload file => v.reload file

def run (v : Viewer) (steps : List ViewerStep) : Viewer :=
  steps.foldl next v

/-- Whether, after a step, the term has been decided last by a step that began when the bar held
another text.  The term is decided by every step that begins, by every text that is committed
after a pause, and when the search is dropped. -/
def StaleAfter (v : Viewer) (stale : Prop) : ViewerStep → Prop
  | .start number =>
    match v.search.asked.find? (·.number = number) with
    | some step => step.term ≠ v.bar.query
    | none => stale
  | .poll => (v.search.finder.session.poll v.search.now).1 = none ∧ stale
  | .event event => ¬ v.Drops event ∧ stale
  | _ => stale

def IsStale (v : Viewer) (stale : Prop) : List ViewerStep → Prop
  | [] => stale
  | step :: steps => (v.next step).IsStale (v.StaleAfter stale step) steps

/-- Whether every step that begins finds its text in the bar. -/
def IsPrompt (v : Viewer) : List ViewerStep → Prop
  | [] => True
  | step :: steps => ¬ v.StaleAfter False step ∧ (v.next step).IsPrompt steps

theorem IsPrompt.not_isStale {v : Viewer} {steps : List ViewerStep} (h : v.IsPrompt steps) :
    ¬ v.IsStale False steps := by
  induction steps generalizing v with
  | nil => exact not_false
  | cons step steps ih =>
      obtain ⟨hstep, hrest⟩ := h
      rw [IsStale, eq_false hstep]
      exact ih hrest

/-- Whether two viewers have the same text in the bar, the same term and typed text, and the same
steps to begin. -/
structure SameSearch (v w : Viewer) : Prop where
  query : w.bar.query = v.bar.query
  typing : w.typing = v.typing
  asked : w.search.asked = v.search.asked

/-- What an event can do to the search. -/
inductive Reacts (v : Viewer) (event : TerminalEvent) (w : Viewer) : Prop
  | unmoved (hdrops : ¬ v.Drops event) (hsame : v.SameSearch w)
  | asked (hdrops : ¬ v.Drops event) (hquery : w.bar.query = v.bar.query)
      (htyping : w.typing = v.typing) (hsome : v.bar.query ≠ "") (number : Nat)
      (direction : Direction)
      (hasked : w.search.asked = v.search.asked ++ [⟨number, v.bar.query, direction⟩])
  | typed (hdrops : ¬ v.Drops event)
      (htyping : w.typing = (v.typing.1, v.typing.2.input w.bar.query v.search.now))
      (hasked : w.search.asked = v.search.asked)
  | dropped (hdrops : v.Drops event) (hquery : w.bar.query = "")
      (htyping : w.typing = (none, v.typing.2.cancel)) (hasked : w.search.asked = v.search.asked)

theorem SameSearch.refl (v : Viewer) : v.SameSearch v :=
  ⟨rfl, rfl, rfl⟩

/-- The text that an event puts into the bar and begins to search for. -/
def typed? (v : Viewer) : TerminalEvent → Option String
  | .key key =>
    if key.released || !v.bar.isOpen then none
    else
      match (v.bar.press key).1 with
      | .changed text => some text
      | _ => none
  | _ => none

/-- Whether two viewers have the same text in the bar, the same search, and as many steps of which
no report has been taken in. -/
structure KeepsSearch (v w : Viewer) : Prop where
  query_eq : w.bar.query = v.bar.query
  search_eq : w.search = v.search
  navigations_eq : w.navigations = v.navigations

/-- All that an event can do to the search, to the text in the bar, and to the number of reports
that are awaited. -/
inductive Reaction (v : Viewer) (event : TerminalEvent) (w : Viewer) : Prop
  | keeps (hdrops : ¬ v.Drops event) (hkeeps : v.KeepsSearch w)
  | shows (hdrops : ¬ v.Drops event) (hquery : w.bar.query = v.bar.query)
      (surface : FindPanel ScreenSurface → ScreenSurface)
      (hsearch : w.search = v.search.withFinder
        (v.search.finder.modify 0 fun p => { p with surface := surface p }))
      (hnavigations : w.navigations = v.navigations)
  | asks (hdrops : ¬ v.Drops event) (hquery : w.bar.query = v.bar.query)
      (hsome : v.bar.query ≠ "")
      (direction : Direction) (hsearch : w.search = (v.search.askStep v.bar.query direction).2)
      (hnavigations : w.navigations = v.navigations + 1)
  | types (hdrops : ¬ v.Drops event) (htyped : v.typed? event = some w.bar.query)
      (hsearch : w.search =
        v.search.withFinder (v.search.finder.input w.bar.query v.search.now))
      (hnavigations : w.navigations = v.navigations)
  | drops (hdrops : v.Drops event) (hquery : w.bar.query = "")
      (hsearch : w.search = v.search.withFinder v.search.finder.clear)
      (hnavigations : w.navigations = v.navigations)

/-- What a key can do in the bar. -/
inductive BarAnswer (bar : FindBar) (key : Key) : FindAction × FindBar → Prop
  | edits (hcode : key.code ≠ .escape) (text : String) :
      BarAnswer bar key (.changed text, { bar with query := text })
  | forward (hcode : key.code ≠ .escape) : BarAnswer bar key (.next, bar)
  | backward (hcode : key.code ≠ .escape) : BarAnswer bar key (.previous, bar)
  | closes (hcode : key.code ≠ .escape) : BarAnswer bar key (.close, { bar with isOpen := false })
  | nothing (hcode : key.code ≠ .escape) : BarAnswer bar key (.none, bar)
  | cancels (hcode : key.code = .escape) : BarAnswer bar key (.cancel, .new)

theorem barAnswer_press (bar : FindBar) (key : Key) : BarAnswer bar key (bar.press key) := by
  obtain ⟨code, control, shift, released⟩ := key
  cases code with
  | escape => exact .cancels rfl
  | enter =>
      cases shift with
      | true => exact .backward nofun
      | false => exact .forward nofun
  | down => exact .forward nofun
  | up => exact .backward nofun
  | tab => exact .closes nofun
  | char c =>
      have hcode : KeyCode.char c ≠ .escape := nofun
      cases control with
      | false => exact .edits hcode (bar.query.push c)
      | true =>
          simp only [FindBar.press, if_true]
          split
          · exact .edits hcode ""
          · split
            · exact .forward hcode
            · split
              · exact .backward hcode
              · exact .nothing hcode
  | backspace =>
      have hcode : KeyCode.backspace ≠ .escape := nofun
      simp only [FindBar.press]
      split
      · next rest _ => exact .edits hcode (.ofList rest)
      · exact .nothing hcode
  | _ => exact .nothing nofun

theorem reaction_navigate {v w : Viewer} {event : TerminalEvent} (hdrops : ¬ v.Drops event)
    (hkeeps : v.KeepsSearch w) (direction : Direction) :
    v.Reaction event (w.navigate direction) := by
  rw [navigate]
  split
  · exact .keeps hdrops hkeeps
  · next hsome =>
      rw [hkeeps.query_eq] at hsome
      refine .asks hdrops hkeeps.query_eq hsome direction ?_
        (congrArg (· + 1) hkeeps.navigations_eq)
      simp only [hkeeps.query_eq, hkeeps.search_eq]

theorem reaction_updateView {v w : Viewer} {event : TerminalEvent} (hdrops : ¬ v.Drops event)
    (hkeeps : v.KeepsSearch w) (change : Transcript → TranscriptView → TranscriptView) :
    v.Reaction event (w.updateView change) := by
  refine .shows hdrops hkeeps.query_eq
    (fun p => p.surface.update (change p.transcript p.surface.view)) ?_ hkeeps.navigations_eq
  rw [← hkeeps.search_eq]
  rfl

theorem reaction_tryUpdateView {v w : Viewer} {event : TerminalEvent} (hdrops : ¬ v.Drops event)
    (hkeeps : v.KeepsSearch w) (change : Transcript → TranscriptView → Option TranscriptView) :
    v.Reaction event (w.tryUpdateView change) := by
  rw [tryUpdateView]
  split
  · exact .keeps hdrops hkeeps
  · split
    · exact .keeps hdrops ⟨hkeeps.query_eq, hkeeps.search_eq, hkeeps.navigations_eq⟩
    · exact reaction_updateView hdrops hkeeps _

theorem reaction_pressInBar {v : Viewer} {key : Key} (hreleased : key.released = false)
    (hopen : v.bar.isOpen = true) (notice : Option String) :
    v.Reaction (.key key) ({ v with notice }.pressInBar key) := by
  have hdrops : key.code ≠ .escape → ¬ v.Drops (.key key) := fun hne hdrops => hne hdrops.2.1
  have hkeeps : ∀ isOpen, v.KeepsSearch { v with notice, bar := { v.bar with isOpen } } :=
    fun _ => ⟨rfl, rfl, rfl⟩
  have htyped : v.typed? (.key key) = match (v.bar.press key).1 with
      | .changed text => some text
      | _ => none :=
    if_neg (by simp [hreleased, hopen])
  have hpressed := barAnswer_press v.bar key
  rw [pressInBar]
  simp only
  generalize v.bar.press key = answer at htyped hpressed
  cases hpressed with
  | edits hcode text => exact .types (hdrops hcode) htyped rfl rfl
  | forward hcode => exact reaction_navigate (hdrops hcode) (hkeeps v.bar.isOpen) .forward
  | backward hcode => exact reaction_navigate (hdrops hcode) (hkeeps v.bar.isOpen) .backward
  | closes hcode => exact .keeps (hdrops hcode) (hkeeps false)
  | nothing hcode => exact .keeps (hdrops hcode) (hkeeps v.bar.isOpen)
  | cancels hcode => exact .drops ⟨hreleased, hcode, .inl hopen⟩ rfl rfl rfl

theorem reaction_pressChar {v w : Viewer} {event : TerminalEvent} (hdrops : ¬ v.Drops event)
    (hkeeps : v.KeepsSearch w) (c : Char) (control : Bool) :
    v.Reaction event (w.pressChar c control) := by
  have hkept : ∀ u : Viewer, w.KeepsSearch u → v.Reaction event u := by
    intro u hu
    exact .keeps hdrops ⟨hu.query_eq.trans hkeeps.query_eq, hu.search_eq.trans hkeeps.search_eq,
      hu.navigations_eq.trans hkeeps.navigations_eq⟩
  unfold pressChar
  split
  · cases control <;> exact hkept _ ⟨rfl, rfl, rfl⟩
  · cases control <;> exact hkept _ ⟨rfl, rfl, rfl⟩
  · exact hkept _ ⟨rfl, rfl, rfl⟩
  · exact hkept _ ⟨rfl, rfl, rfl⟩
  · exact reaction_navigate hdrops hkeeps .forward
  · exact reaction_navigate hdrops hkeeps .backward
  · exact reaction_tryUpdateView hdrops hkeeps _
  · exact reaction_updateView hdrops hkeeps _
  · exact reaction_tryUpdateView hdrops hkeeps _
  · exact reaction_updateView hdrops hkeeps _
  · exact reaction_updateView hdrops hkeeps _
  · exact reaction_updateView hdrops hkeeps _
  · exact hkept w ⟨rfl, rfl, rfl⟩

theorem reaction_pressOutsideBar {v : Viewer} {key : Key} (hreleased : key.released = false)
    (hclosed : v.bar.isOpen = false) (notice : Option String) :
    v.Reaction (.key key) ({ v with notice }.pressOutsideBar key) := by
  obtain ⟨code, control, shift, released⟩ := key
  have hdrops : code ≠ .escape → ¬ v.Drops (.key ⟨code, control, shift, released⟩) :=
    fun hne hdrops => hne hdrops.2.1
  have hkeeps : v.KeepsSearch { v with notice } := ⟨rfl, rfl, rfl⟩
  cases code with
  | escape =>
      by_cases hterm : v.status.term.isSome = true
      · have hescape : { v with notice }.pressOutsideBar ⟨.escape, control, shift, released⟩ =
            { v with notice, bar.query := "" }.clearSearch := if_pos hterm
        rw [hescape]
        exact .drops ⟨hreleased, rfl, .inr hterm⟩ rfl rfl rfl
      · have hescape : { v with notice }.pressOutsideBar ⟨.escape, control, shift, released⟩ =
            { v with notice, quits := true } := if_neg hterm
        rw [hescape]
        refine .keeps ?_ ⟨rfl, rfl, rfl⟩
        rintro ⟨-, -, hopen | hsome⟩
        · exact Bool.noConfusion (hclosed.symm.trans hopen)
        · exact hterm hsome
  | char c => exact reaction_pressChar (hdrops nofun) hkeeps c control
  | down => exact reaction_pressChar (hdrops nofun) hkeeps 'j' false
  | up => exact reaction_pressChar (hdrops nofun) hkeeps 'k' false
  | pageDown => exact reaction_pressChar (hdrops nofun) hkeeps ' ' false
  | home => exact reaction_pressChar (hdrops nofun) hkeeps 'g' false
  | bottom => exact reaction_pressChar (hdrops nofun) hkeeps 'G' false
  | pageUp => exact reaction_updateView (hdrops nofun) hkeeps fun t view => view.pageUp t
  | _ => exact .keeps (hdrops nofun) hkeeps

theorem handle_of_released {key : Key} (h : key.released = true) (v : Viewer) :
    v.handle (.key key) = v :=
  if_pos h

theorem handle_of_isOpen {v : Viewer} {key : Key} (hreleased : key.released = false)
    (hopen : v.bar.isOpen = true) :
    v.handle (.key key) = { v with notice := none }.pressInBar key :=
  (if_neg (by simp [hreleased])).trans (if_pos hopen)

theorem handle_of_not_isOpen {v : Viewer} {key : Key} (hreleased : key.released = false)
    (hclosed : v.bar.isOpen = false) :
    v.handle (.key key) = { v with notice := none }.pressOutsideBar key :=
  (if_neg (by simp [hreleased])).trans (if_neg (by simp [hclosed]))

theorem reaction_handle (v : Viewer) (event : TerminalEvent) :
    v.Reaction event (v.handle event) := by
  have hkeeps : v.KeepsSearch v := ⟨rfl, rfl, rfl⟩
  cases event with
  | resize width height =>
      have hdrops : ¬ v.Drops (.resize width height) := not_false
      exact reaction_updateView hdrops hkeeps fun t view =>
        (view.resize t width (viewportHeight height)).2
  | other => exact .keeps not_false hkeeps
  | key key =>
      cases hreleased : key.released with
      | true =>
          rw [handle_of_released hreleased]
          exact .keeps (fun hdrops => Bool.noConfusion (hreleased.symm.trans hdrops.1)) hkeeps
      | false =>
          cases hopen : v.bar.isOpen with
          | true =>
              rw [handle_of_isOpen hreleased hopen]
              exact reaction_pressInBar hreleased hopen none
          | false =>
              rw [handle_of_not_isOpen hreleased hopen]
              exact reaction_pressOutsideBar hreleased hopen none

theorem reacts_handle (v : Viewer) (event : TerminalEvent) :
    v.Reacts event (v.handle event) := by
  cases v.reaction_handle event with
  | keeps hdrops hkeeps =>
      exact .unmoved hdrops ⟨hkeeps.query_eq, congrArg (·.finder.session.typing) hkeeps.search_eq,
        congrArg Schedule.asked hkeeps.search_eq⟩
  | shows hdrops hquery surface hsearch hnavigations =>
      have hasked := congrArg Schedule.asked hsearch
      exact .unmoved hdrops ⟨hquery, congrArg (·.finder.session.typing) hsearch, hasked⟩
  | asks hdrops hquery hsome direction hsearch hnavigations =>
      exact .asked hdrops hquery (congrArg (·.finder.session.typing) hsearch) hsome v.search.next
        direction (congrArg Schedule.asked hsearch)
  | types hdrops htyped hsearch hnavigations =>
      have htyping := congrArg (·.finder.session.typing) hsearch
      have hasked := congrArg Schedule.asked hsearch
      exact .typed hdrops (htyping.trans (v.search.finder.session.typing_input _ _)) hasked
  | drops hdrops hquery hsearch hnavigations =>
      have htyping := congrArg (·.finder.session.typing) hsearch
      have hasked := congrArg Schedule.asked hsearch
      exact .dropped hdrops hquery
        (htyping.trans (congrArg FindSession.typing v.search.finder.session_clear)) hasked

theorem typing_poll_of_some {v : Viewer} {text : String}
    (h : (v.search.finder.session.poll v.search.now).1 = some text) :
    v.poll.typing = (if text = "" then none else some text, v.typing.2.cancel) := by
  obtain ⟨total, hpoll⟩ := Finder.session_poll_of_some h
  exact congrArg FindSession.typing hpoll

theorem poll_of_none {v : Viewer} (h : (v.search.finder.session.poll v.search.now).1 = none) :
    v.poll = v := by
  rw [poll, Finder.poll_of_none h]
  rfl

/-- What the steps that have ended have reported, in the order in which they did. -/
def reports (v : Viewer) : List Bool :=
  v.search.results.reverse.filterMap fun
    | (_, .stepped found) => some found
    | _ => none

theorem foldl_report_eq (reports : List Bool) (v : Viewer) :
    ∃ notice, reports.foldl report v =
      { v with navigations := v.navigations - reports.length, notice } := by
  induction reports generalizing v with
  | nil => exact ⟨v.notice, rfl⟩
  | cons found reports ih =>
      obtain ⟨notice, hrest⟩ := ih (v.report found)
      refine ⟨notice, hrest.trans ?_⟩
      simp only [report, List.length_cons, Nat.sub_sub, Nat.add_comm 1]

theorem takeReports_eq (v : Viewer) :
    ∃ notice, v.takeReports = { v with
      search := { v.search with results := [] }
      navigations := v.navigations - v.reports.length
      notice } :=
  foldl_report_eq v.reports { v with search.results := [] }

theorem sameSearch_takeReports (v : Viewer) : v.SameSearch v.takeReports := by
  obtain ⟨notice, heq⟩ := v.takeReports_eq
  rw [heq]
  exact ⟨rfl, rfl, rfl⟩

theorem takeEvents_eq (v : Viewer) (events : List SourceEvent) :
    v.takeEvents events = v ∨ ∃ renew : FindPanel ScreenSurface → FindPanel ScreenSurface,
      (∀ p, (renew p).tickets = p.tickets) ∧
        v.takeEvents events = v.withFinder (v.search.finder.modify 0 renew).recount.2 := by
  rw [takeEvents]
  split
  · exact .inl rfl
  · next p hpanel =>
      simp only
      split
      · exact .inl rfl
      · refine .inr ⟨fun q => { q with
          transcript := _
          surface := q.surface.update (q.surface.view.sync _).2 }, fun _ => rfl, rfl⟩

theorem reload_eq (v : Viewer) (file : String) :
    ∃ nextPoll, v.reload file = { v with nextPoll } ∨
      ∃ renew : FindPanel ScreenSurface → FindPanel ScreenSurface,
        (∀ p, (renew p).tickets = p.tickets) ∧
          v.reload file =
            { v with nextPoll }.withFinder (v.search.finder.modify 0 renew).recount.2 := by
  rw [reload]
  split
  · refine ⟨v.search.now + v.followPoll, ?_⟩
    simp only
    split
    · next events _ =>
        exact takeEvents_eq { v with nextPoll := v.search.now + v.followPoll } events
    · exact .inl rfl
  · exact ⟨v.nextPoll, .inl rfl⟩

theorem sameSearch_reload (v : Viewer) (file : String) : v.SameSearch (v.reload file) := by
  obtain ⟨nextPoll, heq | ⟨renew, -, heq⟩⟩ := v.reload_eq file
  · rw [heq]
    exact ⟨rfl, rfl, rfl⟩
  · rw [heq]
    obtain ⟨total, hrecount⟩ := Finder.session_recount (v.search.finder.modify 0 renew)
    have htyping := v.search.finder.session.typing_updateTotal total
    exact ⟨rfl, (congrArg FindSession.typing hrecount).trans htyping, rfl⟩

/-- What is known of a viewer: what is typed is in the bar, and when nothing is typed and no step
is to begin, the term is the text in the bar unless it has been decided too late. -/
structure TracksBar (v : Viewer) (stale : Prop) : Prop where
  typed : ∀ text time, v.typing.2.pending = some (text, time) → text = v.bar.query
  asked : ∀ step ∈ v.search.asked, step.term ≠ ""
  settled : v.typing.2.pending = none → v.search.asked ≠ [] ∨ (v.SearchesTyped ↔ ¬ stale)

namespace TracksBar

variable {v w : Viewer} {stale : Prop}

theorem same (h : v.TracksBar stale) (hsame : v.SameSearch w) : w.TracksBar stale := by
  have hterm : w.status.term = v.status.term := congrArg Prod.fst hsame.typing
  constructor
  · rw [hsame.typing, hsame.query]
    exact h.typed
  · rw [hsame.asked]
    exact h.asked
  · rw [hsame.typing, hsame.asked, SearchesTyped, hterm, hsame.query]
    exact h.settled

theorem of_searchesTyped (hpending : w.typing.2.pending = none)
    (hasked : ∀ step ∈ w.search.asked, step.term ≠ "") (hterm : w.SearchesTyped) :
    w.TracksBar False where
  typed _ _ hsome := absurd (hpending.symm.trans hsome) nofun
  asked := hasked
  settled _ := .inr ⟨fun _ => not_false, fun _ => hterm⟩

theorem handle (h : v.TracksBar stale) (event : TerminalEvent) :
    (v.handle event).TracksBar (¬ v.Drops event ∧ stale) := by
  cases v.reacts_handle event with
  | unmoved hdrops hsame =>
      rw [eq_true hdrops, true_and]
      exact h.same hsame
  | asked hdrops hquery htyping hsome number direction hasked =>
      rw [eq_true hdrops, true_and]
      refine ⟨?_, ?_, fun _ => .inl ?_⟩
      · rw [htyping, hquery]
        exact h.typed
      · rw [hasked]
        intro step hstep
        rcases List.mem_append.mp hstep with hbefore | hnew
        · exact h.asked step hbefore
        · rw [List.mem_singleton.mp hnew]
          exact hsome
      · rw [hasked]
        exact List.append_ne_nil_of_right_ne_nil _ (List.cons_ne_nil _ _)
  | typed hdrops htyping hasked =>
      refine ⟨?_, ?_, ?_⟩
      · rw [htyping]
        rintro text time hpending
        obtain ⟨rfl, -⟩ := Prod.mk.inj (Option.some.inj hpending)
        rfl
      · rw [hasked]
        exact h.asked
      · rw [htyping]
        intro hnone
        exact absurd hnone nofun
  | dropped hdrops hquery htyping hasked =>
      rw [eq_false (not_not_intro hdrops), false_and]
      refine of_searchesTyped ?_ ?_ ?_
      · rw [htyping]
        rfl
      · rw [hasked]
        exact h.asked
      · rw [SearchesTyped, hquery, if_pos rfl]
        exact congrArg Prod.fst htyping

theorem start (h : v.TracksBar stale) {step : AskedStep} (hstep : step ∈ v.search.asked) :
    TracksBar { v with search := v.search.beginStep step } (step.term ≠ v.bar.query) := by
  have hsome := h.asked step hstep
  have htyping : (v.search.beginStep step).finder.session.typing =
      (some step.term, if v.typing.1 =
        some step.term then v.typing.2 else v.typing.2.cancel) := by
    rw [Schedule.typing_beginStep, Finder.typing_committed, if_neg hsome]
    change (if v.typing.1 = some step.term then v.typing else _) = _
    split
    · next heq => exact Prod.ext heq rfl
    · rfl
  refine ⟨?_, ?_, fun _ => .inr ?_⟩
  · intro text time hpending
    change (v.search.beginStep step).finder.session.typing.2.pending = _ at hpending
    rw [htyping] at hpending
    split at hpending
    · exact h.typed text time hpending
    · exact absurd hpending nofun
  · intro other hother
    rw [Schedule.asked_beginStep] at hother
    exact h.asked other (List.mem_filter.mp hother).1
  · have hterm : (v.search.beginStep step).finder.session.term = some step.term :=
      congrArg Prod.fst htyping
    change (v.search.beginStep step).finder.session.term = _ ↔ _
    rw [hterm, Decidable.not_not]
    split
    · next hempty =>
        rw [hempty]
        exact ⟨fun heq => absurd heq nofun, fun heq => absurd heq hsome⟩
    · exact Option.some_inj

theorem poll (h : v.TracksBar stale) :
    v.poll.TracksBar ((v.search.finder.session.poll v.search.now).1 = none ∧ stale) := by
  rcases htext : (v.search.finder.session.poll v.search.now).1 with _ | text
  · rw [poll_of_none htext, eq_self, true_and]
    exact h
  · obtain ⟨⟨time, hpending⟩, -⟩ := Debouncer.poll_of_some htext
    have htyping := typing_poll_of_some htext
    rw [eq_false (Option.some_ne_none text), false_and]
    refine of_searchesTyped ?_ h.asked ?_
    · rw [htyping]
      rfl
    · have hquery : text = v.bar.query := h.typed text time hpending
      rw [hquery] at htyping
      exact congrArg Prod.fst htyping

theorem next (h : v.TracksBar stale) (step : ViewerStep) :
    (v.next step).TracksBar (v.StaleAfter stale step) := by
  cases step with
  | event event => exact h.handle event
  | start number =>
      simp only [Viewer.next, StaleAfter]
      split
      · next step hstep => exact h.start (List.mem_of_find?_eq_some hstep)
      · exact h
  | resume number =>
      simp only [Viewer.next, StaleAfter]
      split
      · next task _ =>
          exact h.same ⟨rfl, v.search.typing_resume task, v.search.asked_resume task⟩
      · exact h
  | tick milliseconds => exact h.same ⟨rfl, rfl, rfl⟩
  | watch => exact h.same ⟨rfl, rfl, rfl⟩
  | poll => exact h.poll
  | takeReports => exact h.same v.sameSearch_takeReports
  | reload file => exact h.same (v.sameSearch_reload file)

theorem run (h : v.TracksBar stale) (steps : List ViewerStep) :
    (v.run steps).TracksBar (v.IsStale stale steps) := by
  induction steps generalizing v stale with
  | nil => exact h
  | cons step steps ih => exact ih (h.next step)

end TracksBar

theorem tracksBar_start (t : Transcript) (settings : Settings) (follow : Bool)
    (width height : Nat) (term : Option String) :
    ((Viewer.new t settings follow).start width height term).TracksBar False := by
  have hnew : ((Viewer.new t settings follow).resize width height).TracksBar False :=
    .of_searchesTyped rfl nofun rfl
  unfold Viewer.start
  split
  · exact hnew
  · exact hnew
  · next term hsome =>
      rw [navigate, if_neg hsome]
      refine ⟨nofun, ?_, fun _ => .inl (List.cons_ne_nil _ _)⟩
      intro step hstep
      obtain rfl := List.mem_singleton.mp hstep
      exact hsome

/-- When no step is to begin and nothing is typed that has not been searched for, the term is the
text in the bar just if it was not decided last by a step that began after its text had left the
bar.  In particular it is the text in the bar if every step begins while the bar still holds its
text. -/
theorem searchesTyped_iff (t : Transcript) (settings : Settings) (follow : Bool)
    (width height : Nat) (term : Option String) (steps : List ViewerStep) :
    let v := (Viewer.new t settings follow).start width height term
    (v.run steps).IsSettled →
      ((v.run steps).SearchesTyped ↔ ¬ v.IsStale False steps) ∧
        (v.IsPrompt steps → (v.run steps).SearchesTyped) := by
  intro v hsettled
  have htracks : (v.run steps).TracksBar (v.IsStale False steps) :=
    (tracksBar_start t settings follow width height term).run steps
  have hiff := (htracks.settled hsettled.typed).resolve_left (not_not_intro hsettled.asked)
  exact ⟨hiff, fun hprompt => hiff.mpr hprompt.not_isStale⟩

def oneMatch : Transcript :=
  .ofEvents [⟨none, none, .input "match"⟩]

def pressed (code : KeyCode) : ViewerStep :=
  .event (.key ⟨code, false, false, false⟩)

theorem searchesTyped_iff_prompt :
    let v := (Viewer.new oneMatch {} false).start 80 24 none
    let steps := [pressed (.char '/'), pressed (.char 'm'), pressed .enter, .start 0,
      pressed (.char 'a'), .tick 100, .poll]
    (v.run steps).IsSettled ∧ (v.run steps).bar.query = "ma" ∧ v.IsPrompt steps ∧
      (v.run steps).SearchesTyped := by
  intro v steps
  have hsettled : (v.run steps).IsSettled := by
    constructor <;> decide +kernel
  have hstart : let asking := v.run (steps.take 3)
      asking.search.asked.find? (·.number = 0) = some ⟨0, "m", .forward⟩ ∧
        asking.bar.query = "m" := by
    decide +kernel
  have hprompt : v.IsPrompt steps := by
    simp only [steps, pressed, IsPrompt, StaleAfter, and_false, not_false_eq_true,
      true_and, and_true]
    change ¬ (match (v.run (steps.take 3)).search.asked.find? (·.number = 0) with
      | some step => step.term ≠ (v.run (steps.take 3)).bar.query
      | none => False)
    rw [hstart.1, hstart.2]
    exact not_not_intro rfl
  have hsearches := searchesTyped_iff oneMatch {} false 80 24 none steps hsettled
  exact ⟨hsettled, by decide +kernel, hprompt, hsearches.2 hprompt⟩

/-- A step is asked for with one text and begins when the bar holds a longer one.  Nothing is left
to do then, and the longer text is in the bar, but the shorter one is searched for. -/
theorem not_searchesTyped_late :
    let v := ((Viewer.new oneMatch {} false).start 80 24 none).run
      [pressed (.char '/'), pressed (.char 'm'), pressed .enter, pressed (.char 'a'), .start 0]
    v.IsSettled ∧ v.search.tasks = [] ∧ v.quits = false ∧
      v.bar.query = "ma" ∧ v.status.term = some "m" ∧ ¬ v.SearchesTyped := by
  intro v
  have hfacts : v.search.tasks = [] ∧ v.quits = false ∧ v.bar.query = "ma" ∧
      v.status.term = some "m" := by
    decide +kernel
  obtain ⟨htasks, hquits, hquery, hterm⟩ := hfacts
  refine ⟨by constructor <;> decide +kernel, htasks, hquits, hquery, hterm, ?_⟩
  rw [SearchesTyped, hquery, hterm]
  decide

end Viewer

end TranscriptSearch
