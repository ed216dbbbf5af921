import TranscriptSearch.Text.Bytes
import TranscriptSearch.Transcript.Counts

namespace TranscriptSearch

/-- The items that hold a term, with the number of its occurrences in each.  They are followed
from the first item on, so that nothing is listed if the first item does not hold the term. -/
def Transcript.countsByItem (t : Transcript) (term : String) : List (Nat × Nat) :=
  let (_, kept) := t.countAll none term
  let counts := (List.range t.size).map fun index => (index, t.itemCount kept term index)
  match counts with
  | (_, first) :: _ => if first = 0 then [] else counts.filter (0 < ·.2)
  | [] => []

def itemLine (t : Transcript) (row : Nat × Nat) : List String :=
  match t.item? row.1 with
  | some item =>
    [toString row.1 ++ "\t" ++ item.id ++ "\t" ++ toString row.2 ++ "\t" ++ item.event.title]
  | none => []

/-- The lines for the number of occurrences of a term, by item or not. -/
def countReport (t : Transcript) (term : String) (byItem : Bool) : List String :=
  let total := toString (t.countAll none term).1
  if byItem then (t.countsByItem term).flatMap (itemLine t) ++ ["total\t" ++ total]
  else [total]

/-- How many bytes of a line are kept at each side of an occurrence. -/
def contextBytes : Nat := 40

/-- The shortest front of a text that has a number of bytes, or all of it. -/
def keepBytes : Nat → List Char → List Char
  | _, [] => []
  | n, c :: cs => if n = 0 then [] else c :: keepBytes (n - c.utf8Size) cs

/-- The occurrence at a span in brackets, with what stands on its lines before and behind it.  Of
a long line only so much is kept, and a mark shows where it was cut. -/
def excerpt (text : List Char) (span : Span) : List Char :=
  let onLine := fun c => c ≠ '\n'
  let before := (Text.takeBytes span.start text).reverse.takeWhile onLine
  let after := (Text.dropBytes span.stop text).takeWhile onLine
  let keptBefore := keepBytes contextBytes before
  let keptAfter := keepBytes contextBytes after
  (if keptBefore.length < before.length then ['…'] else []) ++ keptBefore.reverse ++
    '[' :: Text.sliceBytes text span.start span.stop ++ ']' :: keptAfter ++
    if keptAfter.length < after.length then ['…'] else []

/-- Why an occurrence cannot be shown. -/
inductive LocateError where
  | noMatches (term : String)
  | outOfRange (index : Nat) (term : String) (total : Nat)
  /-- The transcript has no item at the place that was found. -/
  | itemMissing
deriving DecidableEq

def LocateError.message : LocateError → String
  | .noMatches term => "No matches for '" ++ term ++ "'"
  | .outOfRange index term total =>
    "Match " ++ toString index ++ " is out of range: '" ++ term ++ "' has " ++ toString total ++
      " matches"
  | .itemMissing => "matched item is missing"

def Item.excerpt? (item : Item) (term : String) (occurrence : Nat) : Option String := do
  let found ← (← SearchTerm.ofString? term).locate? item.texts occurrence
  let text ← item.texts[found.segment]?
  return .ofList (excerpt text.toList found.span)

def locateReport (t : Transcript) (term : String) (index : Nat) :
    Except LocateError (List String) :=
  let (total, kept) := t.countAll none term
  if total = 0 then .error (.noMatches term)
  else
    match t.locate? kept term index with
    | none => .error (.outOfRange index term total)
    | some location =>
      match t.item? location.item with
      | none => .error .itemMissing
      | some item =>
        .ok (["match " ++ toString index ++ "/" ++ toString total,
          "item " ++ toString location.item ++ " (" ++ item.id ++ "): " ++ item.event.title,
          "occurrence " ++ toString location.occurrence] ++
          (item.excerpt? term location.occurrence).toList)

end TranscriptSearch
