import TranscriptSearch.Surface.Basic

namespace TranscriptSearch

/-- The occurrence that was gone to. -/
structure MatchTarget where
  itemIndex : Nat
  itemId : String
  /-- The number of the occurrence among those the item shows, which counts from one. -/
  occurrence : Nat
  span : RenderedSpan
deriving DecidableEq

/-- Why an occurrence was not found. -/
inductive NotFoundReason where
  /-- The term does not occur. -/
  | noMatches
  /-- The term does not occur so often. -/
  | indexOutOfRange
  /-- The items show fewer occurrences than they hold, and none was left to go to. -/
  | reconciliationExhausted
  /-- The item was said to show the occurrence but gave no place for it. -/
  | renderedSpanMissing
  /-- The panel is not registered, or not any more. -/
  | panelUnavailable
deriving DecidableEq

/-- How going to an occurrence ended. -/
inductive NavOutcome where
  | found (target : MatchTarget)
  | notFound (reason : NotFoundReason)
  /-- A later request took its place. -/
  | superseded
deriving DecidableEq

def NotFoundReason.message : NotFoundReason → String
  | .noMatches => "no matches"
  | .indexOutOfRange => "match index out of range"
  | .reconciliationExhausted => "rendered content exhausted before the match"
  | .renderedSpanMissing => "rendered match could not be placed"
  | .panelUnavailable => "panel unavailable"

def NavOutcome.message : NavOutcome → String
  | .found target =>
    "item " ++ toString target.itemIndex ++ " (" ++ target.itemId ++ ") occurrence " ++
      toString target.occurrence
  | .notFound reason => "not found: " ++ reason.message
  | .superseded => "superseded"

def NavOutcome.isFound : NavOutcome → Bool
  | .found _ => true
  | _ => false

end TranscriptSearch
