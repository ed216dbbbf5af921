import Mathlib.Data.List.Chain
import TranscriptSearch.Proofs.Find.SearchedPanels
import TranscriptSearch.Proofs.Viewer.TypedTerm

namespace TranscriptSearch

namespace Transcript

/-- The transcript after its file has been read again. -/
def reread (t : Transcript) (events : List SourceEvent) : Transcript :=
  if events.length = t.position then t
  else if events.length < t.position then t.reset.append events
  else t.append (events.drop t.position)

theorem reread_eq {before events : List SourceEvent} (epoch : Nat)
    (h : before <+: events ∨ events.length < before.length) :
    { ofEvents before with epoch }.reread events =
      { ofEvents events with
        epoch := if events.length < before.length then epoch + 1 else epoch } := by
  have hposition : { ofEvents before with epoch }.position = before.length := by
    change (empty.append before).position = before.length
    rw [position_append]
    exact Nat.zero_add _
  rw [reread, hposition]
  by_cases hshorter : events.length < before.length
  · rw [if_neg (Nat.ne_of_lt hshorter), if_pos hshorter, if_pos hshorter]
    exact append_withEpoch empty (epoch + 1) events
  · obtain ⟨more, rfl⟩ := h.resolve_right hshorter
    rw [if_neg hshorter, if_neg hshorter]
    split
    · next hlength =>
        rw [List.length_append, Nat.add_eq_left, List.length_eq_zero_iff] at hlength
        rw [hlength, List.append_nil]
    · rw [List.drop_left, append_withEpoch, ofEvents, ofEvents, append_append]

end Transcript

theorem SourceEvent.ofText_empty : ofText "" = .ok [] := by
  rw [ofText]
  exact if_pos (by decide)

namespace Viewer

/-- Whether a viewer has one panel, which has a certain transcript. -/
def Holds (v : Viewer) (t : Transcript) : Prop :=
  ∃ p, v.search.finder.panels = [p] ∧ p.transcript = t

/-- The events that a step takes from the file, if it reads the file. -/
def read? (v : Viewer) : ViewerStep → Option (List SourceEvent)
  | .reload file =>
    if v.followsFile && v.nextPoll ≤ v.search.now then (SourceEvent.ofText file).toOption
    else none
  | _ => none

/-- What some steps read from the file, in their order. -/
def reads (v : Viewer) : List ViewerStep → List (List SourceEvent)
  | [] => []
  | step :: steps => (v.read? step).toList ++ (v.next step).reads steps

variable {v w : Viewer} {t : Transcript}

theorem reads_nil : v.reads [] = [] := rfl

theorem reads_cons (step : ViewerStep) (steps : List ViewerStep) :
    v.reads (step :: steps) = (v.read? step).toList ++ (v.next step).reads steps := rfl

theorem read?_tick (milliseconds : Nat) : v.read? (.tick milliseconds) = none := rfl

theorem read?_reload {file : String} {events : List SourceEvent} (hfollows : v.followsFile = true)
    (hdue : v.nextPoll ≤ v.search.now) (hread : SourceEvent.ofText file = .ok events) :
    v.read? (.reload file) = some events := by
  rw [read?, hfollows, Bool.true_and, if_pos (decide_eq_true hdue), hread]
  rfl

theorem Holds.searched (h : v.Holds t) (hsearched : v.search.finder.Searched w.search.finder) :
    w.Holds t := by
  obtain ⟨p, hpanels, rfl⟩ := h
  obtain ⟨q, hpanels', hpq⟩ := hsearched.panels_eq_singleton hpanels
  exact ⟨q, hpanels', hpq.transcript_eq⟩

theorem searched_navigate (v : Viewer) (direction : Direction) :
    v.search.finder.Searched (v.navigate direction).search.finder := by
  rw [navigate]
  split
  · exact .refl _
  · exact .refl _

theorem searched_handle (v : Viewer) (event : TerminalEvent) :
    v.search.finder.Searched (v.handle event).search.finder := by
  cases v.reaction_handle event with
  | keeps hdrops hkeeps =>
      rw [hkeeps.search_eq]
      exact .refl v.search.finder
  | shows hdrops hquery surface hsearch hnavigations =>
      rw [hsearch]
      exact .modify v.search.finder 0 fun p => .withSurface p (surface p)
  | asks hdrops hquery hsome direction hsearch hnavigations =>
      rw [hsearch]
      exact .refl v.search.finder
  | types hdrops htyped hsearch hnavigations =>
      rw [hsearch]
      exact .input v.search.finder _ v.search.now
  | drops hdrops hquery hsearch hnavigations =>
      rw [hsearch]
      exact .clear v.search.finder

theorem finder_takeReports (v : Viewer) : v.takeReports.search.finder = v.search.finder := by
  obtain ⟨notice, heq⟩ := v.takeReports_eq
  rw [heq]

theorem Holds.takeEvents (h : v.Holds t) (events : List SourceEvent) :
    (v.takeEvents events).Holds (t.reread events) := by
  obtain ⟨p, hpanels, rfl⟩ := h
  have hpanel : v.panel? = some p := by
    rw [panel?, hpanels]
    rfl
  rw [Viewer.takeEvents, hpanel, Transcript.reread]
  simp only
  split
  · exact ⟨p, hpanels, rfl⟩
  · generalize (if events.length < p.transcript.position then p.transcript.reset.append events
      else p.transcript.append (events.drop p.transcript.position)) = t
    let renew := fun p : FindPanel ScreenSurface =>
      { p with transcript := t, surface := p.surface.update (p.surface.view.sync t).2 }
    have hrenewed : (v.withFinder (v.search.finder.modify 0 renew)).Holds t := by
      refine ⟨renew p, ?_, rfl⟩
      change v.search.finder.panels.modify 0 renew = _
      rw [hpanels]
      rfl
    exact hrenewed.searched (.recount (v.search.finder.modify 0 renew))

/-- A step makes of the transcript what it reads from the file, and leaves it alone if it reads
nothing. -/
theorem Holds.next (h : v.Holds t) (step : ViewerStep) :
    (v.next step).Holds ((v.read? step).elim t t.reread) := by
  cases step with
  | event event => exact h.searched (v.searched_handle event)
  | start number =>
      rw [Viewer.next]
      change Holds _ t
      split
      · next step _ => exact h.searched (v.search.searched_beginStep step)
      · exact h
  | resume number =>
      rw [Viewer.next]
      change Holds _ t
      split
      · next task _ => exact h.searched (v.search.searched_resume task)
      · exact h
  | tick milliseconds => exact h
  | watch => exact h.searched (.watch v.search.finder)
  | poll => exact h.searched (.poll v.search.finder v.search.now)
  | takeReports =>
      obtain ⟨p, hpanels, ht⟩ := h
      exact ⟨p, (congrArg Finder.panels v.finder_takeReports).trans hpanels, ht⟩
  | reload file =>
      change (v.reload file).Holds _
      rw [reload, read?]
      split
      · simp only
        cases hread : SourceEvent.ofText file with
        | error reason => exact h
        | ok events =>
          exact takeEvents (v := { v with nextPoll := v.search.now + v.followPoll }) h events
      · exact h

/-- Whether what a file held before is the beginning of what it holds now, unless it is shorter
now. -/
def GrowsOrShrinks (before events : List SourceEvent) : Prop :=
  before <+: events ∨ events.length < before.length

/-- How many of some lists are shorter than the one before them. -/
def shrinkings : List SourceEvent → List (List SourceEvent) → Nat
  | _, [] => 0
  | before, events :: later =>
    (if events.length < before.length then 1 else 0) + shrinkings events later

theorem Holds.run {before : List SourceEvent} {epoch : Nat}
    (h : v.Holds { Transcript.ofEvents before with epoch }) (steps : List ViewerStep)
    (hreads : (before :: v.reads steps).IsChain GrowsOrShrinks) :
    (v.run steps).Holds { Transcript.ofEvents ((v.reads steps).getLastD before) with
      epoch := epoch + shrinkings before (v.reads steps) } := by
  induction steps generalizing v before epoch with
  | nil => exact h
  | cons step steps ih =>
      have hnext := h.next step
      rw [reads_cons] at hreads ⊢
      cases hread : v.read? step with
      | none =>
          rw [hread] at hnext hreads
          exact ih hnext hreads
      | some events =>
          rw [hread, Option.toList_some, List.singleton_append] at hreads
          rw [hread] at hnext
          obtain ⟨hfirst, hlater⟩ := List.isChain_cons_cons.mp hreads
          rw [Option.elim_some, Transcript.reread_eq epoch hfirst] at hnext
          have hrun := ih hnext hlater
          have hepoch : (if events.length < before.length then epoch + 1 else epoch) +
              shrinkings events ((v.next step).reads steps) =
                epoch + shrinkings before (events :: (v.next step).reads steps) := by
            rw [shrinkings]
            split
            · omega
            · omega
          rw [Option.toList_some, List.singleton_append, List.getLastD_cons, ← hepoch]
          exact hrun

theorem holds_start (t : Transcript) (settings : Settings) (follow : Bool) (width height : Nat)
    (term : Option String) :
    ((Viewer.new t settings follow).start width height term).Holds t := by
  have hnew : (Viewer.new t settings follow).Holds t := ⟨_, rfl, rfl⟩
  have hresized := hnew.searched (searched_handle _ (.resize width height))
  unfold Viewer.start
  split
  · exact hresized
  · exact hresized
  · next term _ =>
      exact hresized.searched
        (searched_navigate { (Viewer.new t settings follow).resize width height
        with bar.query := term } .forward)

/-- A viewer follows a file from the events that it was given, through anything that happens to
it.  Each time the file is read, it begins with what it held the last time, or is shorter.  Then
the transcript is the one of the events read last, with all that is needed to go on with them, and
its epoch is the number of times that the file was shorter. -/
theorem transcript_run (events : List SourceEvent) (settings : Settings) (follow : Bool)
    (width height : Nat) (term : Option String) (steps : List ViewerStep) :
    let v := (Viewer.new (.ofEvents events) settings follow).start width height term
    (events :: v.reads steps).IsChain GrowsOrShrinks →
      ∃ p, (v.run steps).panel? = some p ∧
        p.transcript = { Transcript.ofEvents ((v.reads steps).getLastD events) with
          epoch := shrinkings events (v.reads steps) } := by
  intro v hreads
  have hepoch : (Transcript.ofEvents events).epoch = 0 := Transcript.empty.epoch_append events
  have hstart : v.Holds { Transcript.ofEvents events with epoch := 0 } := by
    rw [← hepoch]
    exact holds_start (.ofEvents events) settings follow width height term
  obtain ⟨p, hpanels, ht⟩ := hstart.run steps hreads
  refine ⟨p, ?_, by rw [ht, Nat.zero_add]⟩
  rw [panel?, hpanels]
  rfl

/-- A file ends within a span, is emptied, and gets another event.  The span is not open any more
then. -/
theorem transcript_run_emptied :
    let events : List SourceEvent := [⟨none, none, .spanBegin "s" "turn" none⟩]
    let v := (Viewer.new (.ofEvents events) {} true).start 80 24 none
    let file := "[\x7b\"event\":\"input\",\"input\":\"a\"\x7d]"
    let steps := [.tick 1000, .reload "", .tick 1000, .reload file]
    let read := (SourceEvent.ofText file).toOption.getD []
    v.reads steps = [[], read] ∧ (events :: v.reads steps).IsChain GrowsOrShrinks ∧
      ∃ p, (v.run steps).panel? = some p ∧
        p.transcript = { Transcript.ofEvents read with epoch := 1 } ∧
        (Transcript.ofEvents events).openSpans = ["s"] ∧ p.transcript.openSpans = [] ∧
        p.transcript.items.map Item.depth = [0] := by
  intro events v file steps read
  have hread : SourceEvent.ofText file = .ok read := by
    have hsome : (SourceEvent.ofText file).toOption.isSome = true := by decide +kernel
    cases hfile : SourceEvent.ofText file with
    | error reason =>
        rw [hfile] at hsome
        exact absurd hsome Bool.false_ne_true
    | ok read' =>
        simp only [read, hfile]
        rfl
  have hemptied : (v.next (.tick 1000)).read? (.reload "") = some [] :=
    read?_reload (by decide +kernel) (by decide +kernel) SourceEvent.ofText_empty
  have hrefilled : (((v.next (.tick 1000)).next (.reload "")).next (.tick 1000)).read?
      (.reload file) = some read :=
    read?_reload (by decide +kernel) (by decide +kernel) hread
  have hreads : v.reads steps = [[], read] := by
    simp only [steps, reads_cons, hemptied, hrefilled, read?_tick, reads_nil, Option.toList_some,
      Option.toList_none, List.nil_append, List.cons_append]
  have hchain : (events :: v.reads steps).IsChain GrowsOrShrinks := by
    rw [hreads]
    exact .cons_cons (.inr (by decide)) (.cons_cons (.inl List.nil_prefix) (.singleton read))
  obtain ⟨p, hp, ht⟩ := transcript_run events {} true 80 24 none steps hchain
  rw [hreads] at ht
  refine ⟨hreads, hchain, p, hp, ?_, by decide +kernel, ?_, ?_⟩
  · rw [ht]
    rfl
  · rw [ht]
    decide +kernel
  · rw [ht]
    decide +kernel

end Viewer

end TranscriptSearch
