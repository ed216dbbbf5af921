namespace TranscriptSearch.Toml

/-- How a table came to be, which decides how it may be added to. -/
inductive TableOrigin where
  /-- It is written in braces. -/
  | inline
  /-- It has a header of its own. -/
  | header
  /-- It is on the way to a table that has a header. -/
  | parent
  /-- It is on the way of a dotted key. -/
  | dotted
deriving DecidableEq

/-- A value.  Of numbers that are not whole and of dates the text is kept. -/
inductive Value where
  | string (text : String)
  | integer (value : Int)
  | float (text : List Char)
  | boolean (value : Bool)
  | datetime (text : List Char)
  | array (items : List Value)
  | table (origin : TableOrigin) (members : List (String × Value))
  /-- A list of tables, each with a header in double brackets. -/
  | tables (tables : List (List (String × Value)))

abbrev Members := List (String × Value)

/-- Members with another value under a key, which takes the place of one that is there. -/
def Members.put (members : Members) (key : String) (value : Value) : Members :=
  if members.any (·.1 == key) then
    members.map fun member => if member.1 == key then (key, value) else member
  else members ++ [(key, value)]

end TranscriptSearch.Toml
