import TranscriptSearch.Text.Bytes

namespace TranscriptSearch

/-- What a piece of text on the screen is. -/
inductive Style where
  | plain
  /-- Indentation and the marker of a header. -/
  | guide
  /-- The title of an item. -/
  | title
  /-- The title of an item that others are nested in. -/
  | spanTitle
  | user
  | assistant
  | system
  | toolTitle
  /-- The arguments of a tool, in full or by name. -/
  | toolArgs
  | toolOutput
  /-- A note that something was cut off. -/
  | truncation
  /-- Wording that is put around the item's own text. -/
  | label
  | error
  /-- Detail of less weight. -/
  | muted
deriving DecidableEq

/-- Whether text of this style comes from the item itself.  Only such text is searched. -/
def Style.isSearchable : Style → Bool
  | .guide | .truncation | .label => false
  | _ => true

/-- A piece of text of one style. -/
structure StyledSpan where
  text : String
  style : Style
deriving DecidableEq

/-- One row of the screen. -/
structure StyledLine where
  spans : List StyledSpan
deriving DecidableEq

def bytesOf (text : String) : Nat :=
  Text.byteSize text.toList

def StyledLine.text (line : StyledLine) : String :=
  String.join (line.spans.map StyledSpan.text)

end TranscriptSearch
