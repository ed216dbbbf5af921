import TranscriptSearch.Find.Outcome
import TranscriptSearch.Surface.RenderSurface

namespace TranscriptSearch

open RenderSurface

variable {σ : Type} [RenderSurface σ]

/-- What is highlighted. -/
structure Highlighting where
  term : Option String
  /-- The current occurrence: the identifier of its item, and its number in the item. -/
  anchor : Option (String × Nat)
  /-- The announcements of the surface that are taken into account, if any are. -/
  seen : Option (Nat × Nat)
deriving DecidableEq

namespace Highlighting

def none : Highlighting :=
  ⟨.none, .none, .none⟩

/-- Whether the announcements of the surface are taken into account. -/
def isWatching (h : Highlighting) : Bool :=
  h.seen.isSome

def refresh (h : Highlighting) (surface : σ) (t : Transcript) (limit : Nat) : σ :=
  match h.term with
  | .none => surface
  | some term =>
    let (spans, surface) := visibleOccurrences surface t term limit
    let surface := applyHighlight surface .all spans
    match h.anchor with
    | .none => clearHighlight surface .current
    | some (id, occurrence) =>
      match locate surface t id term occurrence with
      | (some span, surface) => applyHighlight surface .current [span]
      | (.none, surface) => clearHighlight surface .current

/-- Highlights a term, with a current occurrence or without, and takes announcements into account
from now on. -/
def put (h : Highlighting) (surface : σ) (t : Transcript) (limit : Nat) (term : String)
    (anchor : Option (String × Nat)) : Highlighting × σ :=
  let h := { h with term := some term, anchor }
  let surface := h.refresh surface t limit
  ({ h with seen := some (h.seen.getD (versions surface)) }, surface)

/-- Highlights the occurrences of a term, with no current one. -/
def showTerm (h : Highlighting) (surface : σ) (t : Transcript) (limit : Nat) (term : String) :
    Highlighting × σ :=
  h.put (clearHighlight surface .current) t limit term .none

/-- Highlights the occurrences of a term, and one as the current one. -/
def showTarget (h : Highlighting) (surface : σ) (t : Transcript) (limit : Nat) (term : String)
    (target : MatchTarget) : Highlighting × σ :=
  h.put surface t limit term (some (target.itemId, target.occurrence))

def clear (_h : Highlighting) (surface : σ) : Highlighting × σ :=
  (none, clearHighlight (clearHighlight surface .all) .current)

/-- Computes both layers anew if the surface has announced a change. -/
def watch (h : Highlighting) (surface : σ) (t : Transcript) (limit : Nat) : Highlighting × σ :=
  if h.seen.any (· ≠ versions surface) then
    ({ h with seen := some (versions surface) }, h.refresh surface t limit)
  else (h, surface)

end Highlighting

end TranscriptSearch
