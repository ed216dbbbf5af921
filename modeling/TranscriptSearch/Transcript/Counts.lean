import TranscriptSearch.Match.Segments
import TranscriptSearch.Transcript.Basic

/-!
Numbering the occurrences of a term in a transcript.  They are numbered from one, by item and then
by occurrence in the item's searchable texts.  The counts of a prefix of the items may be kept for
later; what is asked is answered the same with kept counts and without.
-/
namespace TranscriptSearch

/-- An occurrence by its item and its number in the item, which counts from one. -/
structure Location where
  item : Nat
  occurrence : Nat
deriving DecidableEq

/-- The counts of one term in the first items of one epoch. -/
structure KeptCounts where
  key : List Char
  epoch : Nat
  counts : List Nat
  total : Nat

/-- Whether kept counts are counts of this term in this transcript. -/
def KeptCounts.appliesTo (kept : KeptCounts) (t : Transcript) (term : SearchTerm) : Bool :=
  kept.key == term.key && kept.epoch == t.epoch && kept.counts.length ≤ t.size

namespace Transcript

def itemCounts (t : Transcript) (term : SearchTerm) : List Nat :=
  t.items.map (term.countIn ·.texts)

def keptPrefix (t : Transcript) (term : SearchTerm) (kept : Option KeptCounts) : List Nat :=
  match kept with
  | some kept => if kept.appliesTo t term then kept.counts else []
  | none => []

/-- The number of occurrences in each item, where the first ones need not be counted again. -/
def countsFrom (t : Transcript) (term : SearchTerm) (counts : List Nat) : List Nat :=
  counts ++ (t.items.drop counts.length).map (term.countIn ·.texts)

/-- The number of occurrences in the whole transcript, and the counts to keep. -/
def countAll (t : Transcript) (kept : Option KeptCounts) (term : String) :
    Nat × Option KeptCounts :=
  match SearchTerm.ofString? term with
  | none => (0, kept)
  | some term =>
    let start : KeptCounts := match kept with
      | some kept => if kept.appliesTo t term then kept else ⟨term.key, t.epoch, [], 0⟩
      | none => ⟨term.key, t.epoch, [], 0⟩
    let more := (t.items.drop start.counts.length).map (term.countIn ·.texts)
    let total := start.total + sumOf more
    (total, some { start with counts := start.counts ++ more, total })

/-- The occurrence with a number, given the counts of the items from the index `first` on. -/
def locateIn (first : Nat) : List Nat → Nat → Option Location
  | [], _ => none
  | count :: counts, number =>
    if number ≤ count then some ⟨first, number⟩
    else locateIn (first + 1) counts (number - count)

def locate? (t : Transcript) (kept : Option KeptCounts) (term : String) (number : Nat) :
    Option Location := do
  let term ← SearchTerm.ofString? term
  if number = 0 then none
  else locateIn 0 (t.countsFrom term (t.keptPrefix term kept)) number

/-- The number of occurrences in one item, which is zero if there is no such item. -/
def itemCount (t : Transcript) (kept : Option KeptCounts) (term : String) (index : Nat) : Nat :=
  match SearchTerm.ofString? term with
  | none => 0
  | some term => ((t.countsFrom term (t.keptPrefix term kept))[index]?).getD 0

/-- The first index, from `start` on, of a count that is not zero. -/
def firstPositive? (start : Nat) (counts : List Nat) : Option Nat :=
  ((counts.drop start).findIdx? (0 < ·)).map (start + ·)

/-- The first item, from an index on, in which a term occurs. -/
def itemFrom? (t : Transcript) (kept : Option KeptCounts) (term : String) (start : Nat) :
    Option Nat := do
  let term ← SearchTerm.ofString? term
  firstPositive? start (t.countsFrom term (t.keptPrefix term kept))

/-- The first item behind an index in which a term occurs.  Indices are words of 64 bits, and
where the successor of one is needed and is too large for a word, there is no answer at all. -/
def nextItem? (t : Transcript) (kept : Option KeptCounts) (term : String) (after : UInt64) :
    Option (Option Nat) :=
  match SearchTerm.ofString? term with
  | none => some none
  | some _ => (addWords? after.toNat 1).map (t.itemFrom? kept term)

end Transcript

end TranscriptSearch
