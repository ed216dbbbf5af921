import TranscriptSearch.Find.Finder

/-!
Searches under way at one time.  A step of the session may be asked for at one time and begin at
another.  A search that has to wait for a scroll becomes a task; it goes on when the item has come
into the window, when it is superseded, or when its time has run out.  The clock is virtual: it
runs only while all tasks wait.
-/
namespace TranscriptSearch

open RenderSurface

/-- Who asked for a navigation, and so what is to be done when it ends. -/
inductive Requester where
  /-- Nobody but the panel knows of it. -/
  | panel
  /-- It was asked of the panel registered under an identifier. -/
  | registered (id : String)
  /-- It is a step of the session. -/
  | session (seq : Nat)
deriving DecidableEq

/-- What a task does. -/
inductive Pursuit where
  /-- A navigation. -/
  | navigation (requester : Requester) (wait : Waiting)
  /-- Brings an item into the window, and nothing else. -/
  | visibility (index : Nat)
  /-- Looks for an occurrence of a term, from an item that comes into the window. -/
  | landing (term : String) (index occurrence : Nat)
deriving DecidableEq

/-- A search that waits. -/
structure FindTask where
  number : Nat
  /-- The number of the panel. -/
  panel : Nat
  pursuit : Pursuit
  /-- The time at which the wait ends in any case. -/
  deadline : Nat
deriving DecidableEq

/-- A step of the session that is asked for and has not begun. -/
structure AskedStep where
  number : Nat
  term : String
  direction : Direction
deriving DecidableEq

/-- How a task has ended. -/
inductive TaskResult where
  | outcome (outcome : NavOutcome)
  /-- A step of the session: whether it came to an occurrence. -/
  | stepped (found : Bool)
  | visibility (visibility : Visibility)
deriving DecidableEq

/-- The finder with the steps that are to begin, the tasks that wait, and the results that nobody
has asked for yet. -/
structure Schedule (σ : Type) where
  finder : Finder σ
  now : Nat
  asked : List AskedStep
  tasks : List FindTask
  results : List (Nat × TaskResult)
  /-- The number of the next task. -/
  next : Nat

def Pursuit.index : Pursuit → Nat
  | .navigation _ wait => wait.index
  | .visibility index => index
  | .landing _ index _ => index

namespace Schedule

variable {σ : Type} [RenderSurface σ]

def new (finder : Finder σ) : Schedule σ :=
  ⟨finder, 0, [], [], [], 0⟩

def withFinder (s : Schedule σ) (finder : Finder σ) : Schedule σ :=
  { s with finder }

def finish (s : Schedule σ) (number : Nat) (result : TaskResult) : Schedule σ :=
  { s with results := (number, result) :: s.results }

def wait (s : Schedule σ) (number panel : Nat) (pursuit : Pursuit) : Schedule σ :=
  let timeout := match s.finder.panels[panel]? with
    | some p => p.settings.settleTimeout
    | none => 0
  { s with tasks := s.tasks ++ [⟨number, panel, pursuit, s.now + timeout⟩] }

def conclude (s : Schedule σ) (number : Nat) (requester : Requester) (panel : Nat)
    (outcome : NavOutcome) : Schedule σ :=
  match requester with
  | .panel => s.finish number (.outcome outcome)
  | .registered id => s.finish number (.outcome (s.finder.confirm id panel outcome))
  | .session seq =>
    let (found, finder) := s.finder.finishStep seq panel outcome
    (s.withFinder finder).finish number (.stepped found)

def follow (s : Schedule σ) (number : Nat) (requester : Requester) (panel : Nat) :
    Progress → Schedule σ
  | .done outcome => s.conclude number requester panel outcome
  | .waiting wait => s.wait number panel (.navigation requester wait)

def followLanding (s : Schedule σ) (number panel : Nat) (term : String) : Landing → Schedule σ
  | .done outcome => s.finish number (.outcome outcome)
  | .waiting index occurrence => s.wait number panel (.landing term index occurrence)

def issue (s : Schedule σ) : Nat × Schedule σ :=
  (s.next, { s with next := s.next + 1 })

def beginStep (s : Schedule σ) (step : AskedStep) : Schedule σ :=
  let (begun, finder) := s.finder.step step.term step.direction
  let s := { s with finder, asked := s.asked.filter (·.number ≠ step.number) }
  match begun with
  | none => s.finish step.number (.stepped false)
  | some (request, navigation) =>
    s.follow step.number (.session request.seq) navigation.panel navigation.progress

def askStep (s : Schedule σ) (term : String) (direction : Direction) : Nat × Schedule σ :=
  let (number, s) := s.issue
  (number, { s with asked := s.asked ++ [⟨number, term, direction⟩] })

def startStep (s : Schedule σ) (term : String) (direction : Direction) : Nat × Schedule σ :=
  let (number, s) := s.issue
  (number, s.beginStep ⟨number, term, direction⟩)

/-- Begins to go to an occurrence in the panel registered under an identifier. -/
def startGoTo (s : Schedule σ) (id term : String) (n : Nat) : Nat × Schedule σ :=
  let (number, s) := s.issue
  let (navigation, finder) := s.finder.goTo id term n
  (number, (s.withFinder finder).follow number (.registered id) navigation.panel
    navigation.progress)

def startPanelGoTo (s : Schedule σ) (panel : Nat) (term : String) (n : Nat) :
    Nat × Schedule σ :=
  let (number, s) := s.issue
  let (progress, finder) := s.finder.modifyGet panel (·.goTo term n)
  (number, (s.withFinder finder).follow number .panel panel
    (progress.getD (.done (.notFound .panelUnavailable))))

def startEnsureVisible (s : Schedule σ) (panel index : Nat) (cancelled : Bool) :
    Nat × Schedule σ :=
  let (number, s) := s.issue
  let (visibility, finder) := s.finder.modifyGet panel fun p =>
    let (visibility, surface) := ensureVisible p.surface p.transcript index cancelled
    (visibility, { p with surface })
  let s := s.withFinder finder
  (number, match visibility.join with
    | some visibility => s.finish number (.visibility visibility)
    | none => s.wait number panel (.visibility index))

/-- Begins to look for an occurrence of a term from a visible item of a panel.  No counts are kept
for it. -/
def startLanding (s : Schedule σ) (panel : Nat) (term : String) (live : Bool)
    (index occurrence : Nat) : Nat × Schedule σ :=
  let (number, s) := s.issue
  let (landing, finder) := s.finder.modifyGet panel fun p =>
    let (landing, surface) := land p.transcript none term live p.surface index occurrence
    (landing, { p with surface })
  (number, (s.withFinder finder).followLanding number panel term
    (landing.getD (.done (.notFound .panelUnavailable))))

def isShown (s : Schedule σ) (task : FindTask) : Bool :=
  match s.finder.panels[task.panel]? with
  | some p => (announcedWindow p.surface).contains task.pursuit.index
  | none => false

def isReady (s : Schedule σ) (task : FindTask) : Bool :=
  task.deadline ≤ s.now || s.isShown task ||
    match task.pursuit, s.finder.panels[task.panel]? with
    | .navigation _ wait, some p => p.isReady wait
    | _, _ => false

def resume (s : Schedule σ) (task : FindTask) : Schedule σ :=
  let shown := s.isShown task
  let s := { s with tasks := s.tasks.filter (·.number ≠ task.number) }
  match task.pursuit with
  | .navigation requester wait =>
    let (progress, finder) := s.finder.modifyGet task.panel (·.resume wait)
    (s.withFinder finder).follow task.number requester task.panel
      (progress.getD (.done (.notFound .panelUnavailable)))
  | .visibility _ =>
    (s.withFinder (s.finder.modify task.panel fun p =>
      { p with surface := endScroll p.surface })).finish task.number
      (.visibility (if shown then .scrolled else .timedOut))
  | .landing term index occurrence =>
    let (landing, finder) := s.finder.modifyGet task.panel fun p =>
      let (landing, surface) :=
        land p.transcript none term true (endScroll p.surface) index occurrence
      (landing, { p with surface })
    (s.withFinder finder).followLanding task.number task.panel term
      (landing.getD (.done (.notFound .panelUnavailable)))

/-- How often tasks can go on at most: each time, a task ends or waits for an item farther
down. -/
def resumptions (s : Schedule σ) : Nat :=
  sumOf (s.tasks.map fun task =>
    match s.finder.panels[task.panel]? with
    | some p => p.transcript.size + 1
    | none => 1)

/-- The task that goes on next.  The `urgent` one goes before the others, which go in the order in
which they began to wait. -/
def ready? (s : Schedule σ) (urgent : Option Nat) : Option FindTask :=
  (s.tasks.find? fun task => urgent = some task.number && s.isReady task).orElse fun _ =>
    s.tasks.find? s.isReady

def resumeReady (s : Schedule σ) (urgent : Option Nat) : Nat → Schedule σ
  | 0 => s
  | fuel + 1 =>
    match s.ready? urgent with
    | some task => (s.resume task).resumeReady urgent fuel
    | none => s

/-- The steps that are asked for begin, in the order in which they were asked for. -/
def beginAsked (s : Schedule σ) : Schedule σ :=
  s.asked.foldl beginStep s

/-- What is to begin begins, all tasks go on until they wait, the urgent one first, and the
highlights follow what the surfaces have announced. -/
def restWith (s : Schedule σ) (urgent : Option Nat) : Schedule σ :=
  let s := s.beginAsked
  let s := s.resumeReady urgent s.resumptions
  s.withFinder s.finder.watch

/-- What is to begin begins, all tasks go on until they wait, and the highlights follow what the
surfaces have announced. -/
def rest (s : Schedule σ) : Schedule σ :=
  s.restWith none

def deadline? (s : Schedule σ) : Option Nat :=
  (s.tasks.map (·.deadline)).min?

/-- The clock runs until a task has ended, as far as the fuel goes. -/
def awaitFor (s : Schedule σ) (number : Nat) (urgent : Option Nat) : Nat → Schedule σ
  | 0 => s
  | fuel + 1 =>
    let s := s.restWith urgent
    match s.results.lookup number, s.deadline? with
    | none, some deadline =>
      { s with now := max s.now deadline }.awaitFor number urgent fuel
    | _, _ => s

/-- The result of a task, for which the clock runs if need be.  The result is taken. -/
def joinWith (s : Schedule σ) (number : Nat) (urgent : Option Nat) :
    Option TaskResult × Schedule σ :=
  let s := s.beginAsked
  let s := s.awaitFor number urgent (s.resumptions + 1)
  (s.results.lookup number, { s with results := s.results.filter (·.1 ≠ number) })

def join (s : Schedule σ) (number : Nat) : Option TaskResult × Schedule σ :=
  s.joinWith number none

/-- The result of a task that goes before the others, since nothing else is done meanwhile. -/
def await (s : Schedule σ) (number : Nat) : Option TaskResult × Schedule σ :=
  s.joinWith number (some number)

/-- The clock jumps by some milliseconds.  A wait that begins behind the jump is counted from
there. -/
def advance (s : Schedule σ) (milliseconds : Nat) : Schedule σ :=
  let s := s.rest
  { s with now := s.now + milliseconds }.rest

def isFinished (s : Schedule σ) (number : Nat) : Bool :=
  (s.results.lookup number).isSome

end Schedule

end TranscriptSearch
