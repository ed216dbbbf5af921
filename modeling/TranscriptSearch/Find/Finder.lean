import TranscriptSearch.Find.Panel
import TranscriptSearch.Find.Session

/-!
Search in several panels.  Panels are registered under identifiers; counts are summed over the
registered panels, and the session steps through the occurrences in the active one.  A panel is
known by its number, so that a navigation can tell whether its panel is still the one registered.
-/
namespace TranscriptSearch

/-- The panels, and the search session. -/
structure Finder (σ : Type) where
  /-- All panels there have been; the number of a panel is its index here. -/
  panels : List (FindPanel σ)
  /-- The registered panels by identifier, in the order of the identifiers. -/
  registered : List (String × Nat)
  /-- The identifier of the panel to step in. -/
  active : String
  session : FindSession

/-- A request to go to an occurrence that has been carried out so far. -/
structure Navigation where
  /-- The number of the panel. -/
  panel : Nat
  progress : Progress

/-- A list in ascending order, with another value under an identifier. -/
def assign (id : String) (value : Nat) : List (String × Nat) → List (String × Nat)
  | [] => [(id, value)]
  | entry :: rest =>
    if id < entry.1 then (id, value) :: entry :: rest
    else if id = entry.1 then (id, value) :: rest
    else entry :: assign id value rest

namespace Finder

variable {σ : Type} [RenderSurface σ]

def new (active : String) (settings : FindSettings) : Finder σ :=
  ⟨[], [], active, .new settings.debounce⟩

def number? (f : Finder σ) (id : String) : Option Nat :=
  f.registered.lookup id

def isRegistered (f : Finder σ) (id : String) : Bool :=
  (f.number? id).isSome

def ids (f : Finder σ) : List String :=
  f.registered.map (·.1)

def modify (f : Finder σ) (panel : Nat) (change : FindPanel σ → FindPanel σ) : Finder σ :=
  { f with panels := f.panels.modify panel change }

/-- Changes a panel, with an answer if there is such a panel. -/
def modifyGet {α : Type} (f : Finder σ) (panel : Nat) (change : FindPanel σ → α × FindPanel σ) :
    Option α × Finder σ :=
  match f.panels[panel]? with
  | none => (none, f)
  | some p =>
    let (answer, p) := change p
    (some answer, { f with panels := f.panels.set panel p })

def modifyRegistered (f : Finder σ) (change : FindPanel σ → FindPanel σ) : Finder σ :=
  f.registered.foldl (fun f entry => f.modify entry.2 change) f

/-- Makes a panel known without registering it.  Its number is the number of panels before. -/
def add (f : Finder σ) (panel : FindPanel σ) : Nat × Finder σ :=
  (f.panels.length, { f with panels := f.panels ++ [panel] })

/-- Registers a panel.  The panel that it takes the place of is gone. -/
def register (f : Finder σ) (id : String) (panel : Nat) : Finder σ :=
  let replaced := f.number? id
  let f := { f with registered := assign id panel f.registered }
  match replaced with
  | some old => f.modify old .unmount
  | none => f

/-- Ends a registration, and says whether there was one.  The panel is gone. -/
def unregister (f : Finder σ) (id : String) : Bool × Finder σ :=
  match f.number? id with
  | none => (false, f)
  | some old =>
    (true, { f with registered := f.registered.filter (·.1 ≠ id) }.modify old .unmount)

/-- The number of occurrences in the panel registered under an identifier. -/
def countFor (f : Finder σ) (id term : String) : Option Nat × Finder σ :=
  match f.number? id with
  | none => (none, f)
  | some panel => f.modifyGet panel (·.count term)

def countAll (f : Finder σ) (term : String) : Nat × Finder σ :=
  f.registered.foldl (fun (total, f) entry =>
    let (count, f) := f.modifyGet entry.2 (·.count term)
    (total + count.getD 0, f)) (0, f)

/-- Highlights the occurrences of a term in all registered panels. -/
def highlightAll (f : Finder σ) (term : String) : Finder σ :=
  f.modifyRegistered (·.highlightTerm term)

def clearAll (f : Finder σ) : Finder σ :=
  f.modifyRegistered .clear

/-- Goes to an occurrence in the panel registered under an identifier. -/
def goTo (f : Finder σ) (id term : String) (n : Nat) : Navigation × Finder σ :=
  match f.number? id with
  | none => (⟨0, .done (.notFound .panelUnavailable)⟩, f)
  | some panel =>
    let (progress, f) := f.modifyGet panel (·.goTo term n)
    (⟨panel, progress.getD (.done (.notFound .panelUnavailable))⟩, f)

/-- The outcome of a navigation in a panel that has to be the registered one still. -/
def confirm (f : Finder σ) (id : String) (panel : Nat) (outcome : NavOutcome) : NavOutcome :=
  if f.number? id = some panel then outcome else .notFound .panelUnavailable

/-- The counts that a committed term has: in all panels, and in the active one. -/
def totals (f : Finder σ) (term : String) : Nat × Nat × Finder σ :=
  let (total, f) := f.countAll term
  let (active, f) := f.countFor f.active term
  (total, active.getD 0, f)

def input (f : Finder σ) (term : String) (now : Nat) : Finder σ :=
  { f with session := f.session.input term now }

/-- A term is searched for: what was under way is dropped and its occurrences are highlighted.
The answer is their number in all panels. -/
def commit (f : Finder σ) (term : String) : Nat × Finder σ :=
  let (total, active, f) := f.clearAll.totals term
  let f := { f with session := f.session.commit term active }
  (total, if term = "" then f else f.highlightAll term)

def poll (f : Finder σ) (now : Nat) : Option Nat × Finder σ :=
  match f.session.poll now with
  | (none, session) => (none, { f with session })
  | (some term, session) =>
    let (total, f) := { f with session }.commit term
    (some total, f)

def recount (f : Finder σ) : Option Nat × Finder σ :=
  match f.session.term with
  | none => (none, f)
  | some term =>
    let (total, active, f) := f.totals term
    (some total, { f with session := f.session.updateTotal active })

def clear (f : Finder σ) : Finder σ :=
  { f with session := f.session.clear }.clearAll

/-- Steps to another occurrence of a term in the active panel, once the term is the one searched
for.  There is no request if the term does not occur. -/
def step (f : Finder σ) (term : String) (direction : Direction) :
    Option (NavigationRequest × Navigation) × Finder σ :=
  let f := if f.session.term = some term then f else (f.commit term).2
  match f.session.begin? direction with
  | none => (none, f)
  | some (request, session) =>
    let (navigation, f) := { f with session }.goTo f.active request.term request.index
    (some (request, navigation), f)

/-- A step has ended.  The answer says whether it came to an occurrence and still counts. -/
def finishStep (f : Finder σ) (seq panel : Nat) (outcome : NavOutcome) : Bool × Finder σ :=
  let outcome := f.confirm f.active panel outcome
  let (applied, session) := f.session.finish seq outcome
  (applied && outcome.isFound, { f with session })

/-- Computes the highlights of all panels anew whose surfaces have announced changes. -/
def watch (f : Finder σ) : Finder σ :=
  { f with panels := f.panels.map .watch }

end Finder

end TranscriptSearch
