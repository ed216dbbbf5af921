import TranscriptSearch.Text.Case
import TranscriptSearch.Match.Span

/-!
Case-insensitive search for a term.  A text is scanned from left to right; after an occurrence the
scan goes on behind it, so occurrences do not overlap.  Two texts are compared by their folded
characters, and an occurrence covers every character from the one that gave its first folded
character to the one that gave its last.  Texts and terms in ASCII have a scan of their own that
folds as it compares.
-/
namespace TranscriptSearch

/-- A character of a folded text, with the byte range of the character it comes from. -/
structure FoldedChar where
  char : Char
  start : Nat
  stop : Nat
deriving DecidableEq

/-- The folded characters of a text that begins `offset` bytes into another. -/
def foldedChars (offset : Nat) : List Char → List FoldedChar
  | [] => []
  | c :: cs =>
    let stop := offset + c.utf8Size
    (Text.lower c).map (⟨·, offset, stop⟩) ++ foldedChars stop cs

/-- A nonempty term, folded. -/
structure SearchTerm where
  /-- The folded term.  Terms with one key have the same occurrences. -/
  key : List Char
  /-- Whether the term was written in ASCII. -/
  ascii : Bool
  key_ne_nil : key ≠ []

namespace SearchTerm

/-- A term prepared for search; the empty term occurs nowhere and has no prepared form. -/
def ofString? (term : String) : Option SearchTerm :=
  if h : Text.fold term.toList = [] then none
  else some ⟨Text.fold term.toList, term.toList.all Text.isAscii, h⟩

def beginsWith : List Char → List FoldedChar → Bool
  | [], _ => true
  | _ :: _, [] => false
  | k :: key, c :: rest => c.char == k && beginsWith key rest

def scanFolded (key : List Char) : List FoldedChar → List Span
  | [] => []
  | c :: rest =>
    if beginsWith key (c :: rest) then
      let last := ((c :: rest)[key.length - 1]?).getD c
      ⟨c.start, last.stop⟩ :: scanFolded key (rest.drop (key.length - 1))
    else scanFolded key rest
termination_by cs => cs.length

/-- Whether a text begins with a folded key, taking ASCII letters without regard to their case. -/
def beginsWithAscii : List Char → List Char → Bool
  | [], _ => true
  | _ :: _, [] => false
  | k :: key, c :: rest => Text.asciiLower c == k && beginsWithAscii key rest

/-- The occurrences of an ASCII key in an ASCII text that begins `offset` bytes into another. -/
def scanAscii (key : List Char) (offset : Nat) : List Char → List Span
  | [] => []
  | c :: rest =>
    if beginsWithAscii key (c :: rest) then
      ⟨offset, offset + key.length⟩ ::
        scanAscii key (offset + key.length) (rest.drop (key.length - 1))
    else scanAscii key (offset + 1) rest
termination_by cs => cs.length

def spans (term : SearchTerm) (text : String) : List Span :=
  let cs := text.toList
  if term.ascii && cs.all Text.isAscii then scanAscii term.key 0 cs
  else scanFolded term.key (foldedChars 0 cs)

def count (term : SearchTerm) (text : String) : Nat :=
  (term.spans text).length

def nth? (term : SearchTerm) (text : String) (n : Nat) : Option Span :=
  if n = 0 then none else (term.spans text)[n - 1]?

end SearchTerm

end TranscriptSearch
