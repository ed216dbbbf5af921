import TranscriptSearch.Text.Blank
import TranscriptSearch.Text.Columns

/-!
Breaking a text into rows of limited width.  Prose breaks at white space, and drops the white
space it breaks at; raw text breaks at columns and keeps everything.  Neither adds any text.
-/
namespace TranscriptSearch.Text

/-- What remains of a row that already takes `used` columns, and the rows after it.  A character
that takes a column opens a new row if it would pass the width; a row is never left empty for
it. -/
def breakRow (columnsOf : Char → Nat) (width : Nat) (empty : Bool) (used : Nat) :
    List Char → List Char × List (List Char)
  | [] => ([], [])
  | c :: cs =>
    let size := columnsOf c
    if 0 < size && width < used + size && !empty then
      let (row, rows) := breakRow columnsOf width false size cs
      ([], (c :: row) :: rows)
    else
      let (row, rows) := breakRow columnsOf width false (used + size) cs
      (c :: row, rows)

/-- A text in rows of at most `width` columns, for a given number of columns per character.  There
is always at least one row. -/
def breakColumns (columnsOf : Char → Nat) (width : Nat) (cs : List Char) : List (List Char) :=
  let (row, rows) := breakRow columnsOf width true 0 cs
  row :: rows

def wrapColumns (cs : List Char) (width : Nat) : List (List Char) :=
  breakColumns charColumns width cs

theorem breakColumns_ne_nil (columnsOf : Char → Nat) (width : Nat) (cs : List Char) :
    breakColumns columnsOf width cs ≠ [] := by
  simp [breakColumns]

/-- A word, with the white space before it. -/
structure Word where
  gap : List Char
  chars : List Char

/-- The words of a text.  White space behind the last word belongs to none. -/
def words (cs : List Char) : List Word :=
  match h : cs.dropWhile isBlank with
  | [] => []
  | c :: rest =>
    have : (rest.dropWhile (!isBlank ·)).length < cs.length := by
      have h₁ := (List.dropWhile_sublist (l := cs) isBlank).length_le
      have h₂ := (List.dropWhile_sublist (l := rest) (!isBlank ·)).length_le
      rw [h] at h₁
      simp only [List.length_cons] at h₁
      omega
    ⟨cs.takeWhile isBlank, c :: rest.takeWhile (!isBlank ·)⟩ ::
      words (rest.dropWhile (!isBlank ·))
termination_by cs.length

/-- The rows that a word fills at the start of a row: the word itself, or its pieces if it is too
long. -/
def wordRows (width : Nat) (word : List Char) : List (List Char) :=
  if columns word ≤ width then [word] else wrapColumns word width

/-- Rows whose last one goes on with the given text and is followed by the given rows. -/
def continueLast (rows : List (List Char)) (next : List Char × List (List Char)) :
    List (List Char) :=
  rows.dropLast ++ (rows.getLastD [] ++ next.1) :: next.2

/-- What remains of a row that already takes `used` columns, and the rows after it. -/
def fillRow (width : Nat) (used : Nat) : List Word → List Char × List (List Char)
  | [] => ([], [])
  | word :: rest =>
    let reached := used + columns word.gap + columns word.chars
    if reached ≤ width then
      let (row, rows) := fillRow width reached rest
      (word.gap ++ word.chars ++ row, rows)
    else
      let rows := wordRows width word.chars
      ([], continueLast rows (fillRow width (columns (rows.getLastD [])) rest))

/-- A text in rows of at most `width` columns that break between words.  White space between words
of one row is kept as it is.  There is always at least one row; a width of zero breaks nothing. -/
def wrapWords (cs : List Char) (width : Nat) : List (List Char) :=
  if width = 0 then [cs]
  else
    match words cs with
    | [] => [[]]
    | word :: rest =>
      let rows := wordRows width word.chars
      continueLast rows (fillRow width (columns (rows.getLastD [])) rest)

/-- A text without escapes and carriage returns, and with four blanks for each tab, so that its
columns do not depend on where it stands. -/
def sanitize (cs : List Char) : List Char :=
  cs.flatMap fun c =>
    if c = '\x1b' ∨ c = '\r' then []
    else if c = '\t' then [' ', ' ', ' ', ' ']
    else [c]

/-- The longest beginning of a text that takes at most `width` columns. -/
def clip (width : Nat) : List Char → List Char
  | [] => []
  | c :: cs =>
    if charColumns c ≤ width then c :: clip (width - charColumns c) cs else []

end TranscriptSearch.Text
