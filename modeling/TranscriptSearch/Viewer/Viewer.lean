import TranscriptSearch.Find.Schedule
import TranscriptSearch.Screen.Surface
import TranscriptSearch.Transcript.Source
import TranscriptSearch.Viewer.Frame

/-!
The viewer: a transcript on the screen, with the find bar, the keys, and the file that the
transcript was read from.  Steps of the search run as tasks; what they report is taken in at the
end of each round.
-/
namespace TranscriptSearch

/-- What the terminal tells the viewer. -/
inductive TerminalEvent where
  | key (key : Key)
  | resize (width height : Nat)
  /-- Anything else; the viewer takes no notice of it. -/
  | other
deriving DecidableEq

/-- The viewer. -/
structure Viewer where
  /-- The search, in one panel that is registered under `Viewer.panelId`. -/
  search : Schedule ScreenSurface
  bar : FindBar
  /-- Whether the file is read again from time to time. -/
  followsFile : Bool
  /-- How often it is. -/
  followPoll : Nat
  /-- When it is to be read next. -/
  nextPoll : Nat
  /-- The number of steps of which no report has been taken in. -/
  navigations : Nat
  notice : Option String
  quits : Bool

namespace Viewer

def panelId : String := "transcript"

def notShown : String := "match could not be shown"

def new (t : Transcript) (settings : Settings) (follow : Bool) : Viewer :=
  let view := TranscriptView.new t ⟨settings.view.previewLines, settings.view.expandArguments⟩
  let finder : Finder ScreenSurface := .new panelId settings.find
  let (number, finder) := finder.add (.new t (.new view) settings.find)
  { search := .new (finder.register panelId number)
    bar := .new
    followsFile := follow
    followPoll := settings.view.followPoll
    nextPoll := settings.view.followPoll
    navigations := 0
    notice := none
    quits := false }

def withFinder (v : Viewer) (finder : Finder ScreenSurface) : Viewer :=
  { v with search := v.search.withFinder finder }

def panel? (v : Viewer) : Option (FindPanel ScreenSurface) :=
  v.search.finder.panels.head?

def status (v : Viewer) : FindStatus :=
  v.search.finder.session.status

def updateView (v : Viewer) (change : Transcript → TranscriptView → TranscriptView) : Viewer :=
  v.withFinder (v.search.finder.modify 0 fun p =>
    { p with surface := p.surface.update (change p.transcript p.surface.view) })

/-- A change of the view that may fail.  If it does, that is the end of the program. -/
def tryUpdateView (v : Viewer)
    (change : Transcript → TranscriptView → Option TranscriptView) : Viewer :=
  match v.panel? with
  | none => v
  | some p =>
    match change p.transcript p.surface.view with
    | none => { v with quits := true }
    | some view => v.updateView fun _ _ => view

def resize (v : Viewer) (width height : Nat) : Viewer :=
  v.updateView fun t view => (view.resize t width (viewportHeight height)).2

/-- Asks for a step to another occurrence of the term in the find bar. -/
def navigate (v : Viewer) (direction : Direction) : Viewer :=
  if v.bar.query = "" then v
  else
    { v with
      search := (v.search.askStep v.bar.query direction).2
      navigations := v.navigations + 1 }

def input (v : Viewer) (term : String) : Viewer :=
  v.withFinder (v.search.finder.input term v.search.now)

def clearSearch (v : Viewer) : Viewer :=
  v.withFinder v.search.finder.clear

def pressInBar (v : Viewer) (key : Key) : Viewer :=
  let (action, bar) := v.bar.press key
  let v := { v with bar }
  match action with
  | .none | .close => v
  | .changed query => v.input query
  | .next => v.navigate .forward
  | .previous => v.navigate .backward
  | .cancel => v.clearSearch

/-- What the escape key does while the find bar is closed: it drops the search, or else it
leaves. -/
def escape (v : Viewer) : Viewer :=
  if v.status.term.isSome then { v with bar := { v.bar with query := "" } }.clearSearch
  else { v with quits := true }

def openBar (v : Viewer) : Viewer :=
  { v with bar := { v.bar with isOpen := true } }

def pressChar (v : Viewer) (c : Char) (control : Bool) : Viewer :=
  match c with
  | 'c' => if control then { v with quits := true } else v
  | 'f' =>
    if control then v.openBar
    else { v with followsFile := !v.followsFile, nextPoll := v.search.now }
  | 'q' => { v with quits := true }
  | '/' => v.openBar
  | 'n' => v.navigate .forward
  | 'N' => v.navigate .backward
  | 'j' => v.tryUpdateView fun t view => view.scrollDown? t 1
  | 'k' => v.updateView fun t view => view.scrollUp t 1
  | ' ' => v.tryUpdateView fun t view => view.pageDown? t
  | 'g' => v.updateView fun t view => view.toTop t
  | 'G' => v.updateView fun t view => view.setFollowing t true
  | 'e' => v.updateView fun t view => view.setExpandArguments t !view.options.expandArguments
  | _ => v

def pressOutsideBar (v : Viewer) (key : Key) : Viewer :=
  match key.code with
  | .char c => v.pressChar c key.control
  | .escape => v.escape
  | .down => v.pressChar 'j' false
  | .up => v.pressChar 'k' false
  | .pageDown => v.pressChar ' ' false
  | .pageUp => v.updateView fun t view => view.pageUp t
  | .home => v.pressChar 'g' false
  | .bottom => v.pressChar 'G' false
  | _ => v

/-- What a key does.  Any key takes the notice away, and the release of a key does nothing. -/
def press (v : Viewer) (key : Key) : Viewer :=
  if key.released then v
  else
    let v := { v with notice := none }
    if v.bar.isOpen then v.pressInBar key else v.pressOutsideBar key

def handle (v : Viewer) : TerminalEvent → Viewer
  | .key key => v.press key
  | .resize width height => v.resize width height
  | .other => v

def rest (v : Viewer) : Viewer :=
  { v with search := v.search.rest }

def poll (v : Viewer) : Viewer :=
  v.withFinder (v.search.finder.poll v.search.now).2

/-- Takes in the report of a step.  If it is the last one awaited and has not come to an
occurrence although the term occurs, there is a notice. -/
def report (v : Viewer) (found : Bool) : Viewer :=
  let navigations := v.navigations - 1
  { v with
    navigations
    notice := if !found && 0 < v.status.total && navigations == 0 then some notShown
      else v.notice }

/-- Takes in the reports of all steps that have ended, in the order in which they did. -/
def takeReports (v : Viewer) : Viewer :=
  let reports := v.search.results.reverse.filterMap fun
    | (_, .stepped found) => some found
    | _ => none
  reports.foldl report { v with search := { v.search with results := [] } }

/-- Takes up the events that the file has now.  If there are fewer than before, the file is
another one, and the transcript begins anew. -/
def takeEvents (v : Viewer) (events : List SourceEvent) : Viewer :=
  match v.panel? with
  | none => v
  | some p =>
    let t := p.transcript
    if events.length = t.position then v
    else
      let t := if events.length < t.position then t.reset.append events
        else t.append (events.drop t.position)
      let finder := v.search.finder.modify 0 fun p =>
        { p with transcript := t, surface := p.surface.update (p.surface.view.sync t).2 }
      v.withFinder finder.recount.2

/-- Reads the file again if it is followed and the time has come.  A file that cannot be read
leaves everything as it is. -/
def reload (v : Viewer) (file : String) : Viewer :=
  if v.followsFile && v.nextPoll ≤ v.search.now then
    let v := { v with nextPoll := v.search.now + v.followPoll }
    match SourceEvent.ofText file with
    | .ok events => v.takeEvents events
    | .error _ => v
  else v

/-- The end of a round: what is due is done, and what has been reported is taken in. -/
def endRound (v : Viewer) (file : String) : Viewer :=
  v.poll.takeReports.reload file

/-- Begins on a screen of some size, with a term to search for or without. -/
def start (v : Viewer) (width height : Nat) (term : Option String) : Viewer :=
  let v := v.resize width height
  match term with
  | none => v
  | some "" => v
  | some term => { v with bar := { v.bar with query := term } }.navigate .forward

def frame (v : Viewer) (width height : Nat) : List (List ScreenCell) :=
  match v.panel? with
  | none => []
  | some p => (p.surface.view.frame p.transcript width height v.bar v.status v.notice).1

end Viewer

end TranscriptSearch
