import TranscriptSearch.Find.Highlighting
import TranscriptSearch.Find.Landing
import TranscriptSearch.Find.Ticket
import TranscriptSearch.Settings.Basic

/-!
A panel: a transcript, the surface that shows it, and the search in it.  Going to an occurrence
may have to wait for a scroll.  It is then put down as a `Waiting`, and `resume` goes on with it.
Only the latest navigation of a panel has any effect; one that finds itself superseded ends
without touching the surface, except that the scroll it waited for is over.
-/
namespace TranscriptSearch

/-- A panel. -/
structure FindPanel (σ : Type) where
  transcript : Transcript
  surface : σ
  settings : FindSettings
  kept : Option KeptCounts
  tickets : Tickets
  hold : FollowHold
  highlighting : Highlighting
  /-- Whether the panel is gone. -/
  unmounted : Bool

/-- A navigation that waits for an item to come into the window. -/
structure Waiting where
  term : String
  ticket : Nat
  /-- The item. -/
  index : Nat
  /-- The occurrence that is wanted of it. -/
  occurrence : Nat
deriving DecidableEq

/-- How far a navigation has come. -/
inductive Progress where
  | done (outcome : NavOutcome)
  | waiting (wait : Waiting)
deriving DecidableEq

namespace FindPanel

open RenderSurface

variable {σ : Type} [RenderSurface σ]

def new (transcript : Transcript) (surface : σ) (settings : FindSettings) : FindPanel σ :=
  ⟨transcript, surface, settings, none, .new, .new, .none, false⟩

def count (p : FindPanel σ) (term : String) : Nat × FindPanel σ :=
  let (total, kept) := p.transcript.countAll p.kept term
  (total, { p with kept })

def restoreFollowing (p : FindPanel σ) : FindPanel σ :=
  let (_, hold, surface) := p.hold.restore p.surface p.transcript
  { p with hold, surface }

def suppressFollowing (p : FindPanel σ) : FindPanel σ :=
  let (hold, surface) := p.hold.suppress p.surface p.transcript
  { p with hold, surface }

def highlightTerm (p : FindPanel σ) (term : String) : FindPanel σ :=
  let (highlighting, surface) :=
    p.highlighting.showTerm p.surface p.transcript p.settings.maxHighlightSpans term
  { p with highlighting, surface }

/-- Highlights the occurrences of a term, and one as the current one. -/
def highlightTarget (p : FindPanel σ) (term : String) (target : MatchTarget) : FindPanel σ :=
  let (highlighting, surface) :=
    p.highlighting.showTarget p.surface p.transcript p.settings.maxHighlightSpans term target
  { p with highlighting, surface }

def refreshHighlights (p : FindPanel σ) : FindPanel σ :=
  { p with
    surface := p.highlighting.refresh p.surface p.transcript p.settings.maxHighlightSpans }

/-- Computes the highlights anew if the surface has announced a change. -/
def watch (p : FindPanel σ) : FindPanel σ :=
  let (highlighting, surface) :=
    p.highlighting.watch p.surface p.transcript p.settings.maxHighlightSpans
  { p with highlighting, surface }

/-- What follows when a navigation has ended.  One that is not the latest any more has no
effect. -/
def conclude (p : FindPanel σ) (term : String) (ticket : Nat) (outcome : NavOutcome) :
    NavOutcome × FindPanel σ :=
  if p.tickets.isCurrent ticket then
    let p := p.restoreFollowing
    (outcome, match outcome with
      | .found target => p.highlightTarget term target
      | .notFound _ => p.highlightTerm term
      | .superseded => p)
  else (.superseded, p)

def advance (p : FindPanel σ) (term : String) (ticket : Nat) :
    Landing × σ → Progress × FindPanel σ
  | (.waiting index occurrence, surface) =>
    (.waiting ⟨term, ticket, index, occurrence⟩, { p with surface })
  | (.done outcome, surface) =>
    let (outcome, p) := { p with surface }.conclude term ticket outcome
    (.done outcome, p)

def goTo (p : FindPanel σ) (term : String) (n : Nat) : Progress × FindPanel σ :=
  let (ticket, tickets) := p.tickets.issue
  let p := { p with tickets }
  if p.unmounted then (.done (.notFound .panelUnavailable), p)
  else
    let (total, p) := p.count term
    if total = 0 then (.done (.notFound .noMatches), p.restoreFollowing)
    else
      match p.transcript.locate? p.kept term n with
      | none => (.done (.notFound .indexOutOfRange), p.restoreFollowing)
      | some location =>
        let p := p.suppressFollowing
        p.advance term ticket
          (approach p.transcript p.kept term p.surface location.item location.occurrence)

/-- Goes on with a navigation whose wait is over: the item has come into the window, or the time
for it has run out, or the navigation is superseded. -/
def resume (p : FindPanel σ) (wait : Waiting) : Progress × FindPanel σ :=
  let p := { p with surface := endScroll p.surface }
  if p.tickets.isCurrent wait.ticket then
    p.advance wait.term wait.ticket
      (land p.transcript p.kept wait.term true p.surface wait.index wait.occurrence)
  else (.done .superseded, p)

/-- Whether the wait of a navigation is over before its time runs out. -/
def isReady (p : FindPanel σ) (wait : Waiting) : Bool :=
  p.tickets.isCancelled wait.ticket || (announcedWindow p.surface).contains wait.index

def clear (p : FindPanel σ) : FindPanel σ :=
  let (highlighting, surface) := p.highlighting.clear p.surface
  { p with tickets := p.tickets.cancelAll, highlighting, surface }.restoreFollowing

def unmount (p : FindPanel σ) : FindPanel σ :=
  { p with unmounted := true }.clear

end FindPanel

end TranscriptSearch
