import TranscriptSearch.Surface.RenderSurface

namespace TranscriptSearch

open RenderSurface

variable {σ : Type} [RenderSurface σ]

/-- How bringing an item into the window ended. -/
inductive Visibility where
  /-- It was in the window; nothing was scrolled. -/
  | alreadyVisible
  /-- A scroll brought it into the window. -/
  | scrolled
  /-- It did not come into the window in time. -/
  | timedOut
  /-- It is not wanted any more. -/
  | cancelled
deriving DecidableEq

/-- Brings an item into the window.  There is no answer yet if the scroll has not taken effect;
the scroll is then under way until `endScroll`. -/
def ensureVisible (surface : σ) (t : Transcript) (index : Nat) (cancelled : Bool) :
    Option Visibility × σ :=
  if cancelled then (some .cancelled, surface)
  else if (window surface).contains index then (some .alreadyVisible, surface)
  else
    let surface := scrollTo (setProgrammatic surface true) t index .center
    if (announcedWindow surface).contains index then
      (some .scrolled, setProgrammatic surface false)
    else (none, surface)

def endScroll (surface : σ) : σ :=
  setProgrammatic surface false

/-- Whether a surface followed the end when it was first kept from doing so, if it is kept from
it. -/
structure FollowHold where
  saved : Option Bool
deriving DecidableEq

namespace FollowHold

def new : FollowHold :=
  ⟨none⟩

def isActive (hold : FollowHold) : Bool :=
  hold.saved.isSome

/-- Keeps a surface from following, unless it is kept from it already. -/
def suppress (hold : FollowHold) (surface : σ) (t : Transcript) : FollowHold × σ :=
  match hold.saved with
  | some _ => (hold, surface)
  | none =>
    let following := isFollowing surface
    (⟨some following⟩, if following then setFollowing surface t false else surface)

/-- Lets a surface follow again if it did before and shows the end, and says whether it does. -/
def restore (hold : FollowHold) (surface : σ) (t : Transcript) : Bool × FollowHold × σ :=
  if hold.saved = some true ∧ isAtBottom surface t then (true, new, setFollowing surface t true)
  else (false, new, surface)

end FollowHold

end TranscriptSearch
