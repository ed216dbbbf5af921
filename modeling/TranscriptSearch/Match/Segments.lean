import TranscriptSearch.Match.Term
import TranscriptSearch.Number.Sum

namespace TranscriptSearch

/-- An occurrence in a list of texts. -/
structure SegmentMatch where
  /-- The place of the text in the list. -/
  segment : Nat
  span : Span
deriving DecidableEq

namespace SearchTerm

def countIn (term : SearchTerm) (segments : List String) : Nat :=
  sumOf (segments.map term.count)

/-- The occurrences in a list of texts, in order, where the first text has the given place. -/
def occurrencesFrom (term : SearchTerm) (first : Nat) : List String → List SegmentMatch
  | [] => []
  | text :: rest =>
    (term.spans text).map (⟨first, ·⟩) ++ term.occurrencesFrom (first + 1) rest

def occurrences (term : SearchTerm) (segments : List String) : List SegmentMatch :=
  term.occurrencesFrom 0 segments

/-- The `n`th occurrence in a list of texts, counting from one. -/
def locate? (term : SearchTerm) (segments : List String) (n : Nat) : Option SegmentMatch :=
  if n = 0 then none else (term.occurrences segments)[n - 1]?

theorem length_occurrencesFrom (term : SearchTerm) (first : Nat) (segments : List String) :
    (term.occurrencesFrom first segments).length = term.countIn segments := by
  induction segments generalizing first with
  | nil => rfl
  | cons text rest ih => simp [occurrencesFrom, countIn, count, ih]

end SearchTerm

end TranscriptSearch
