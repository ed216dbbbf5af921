namespace TranscriptSearch

/-- A key, apart from the modifiers held with it. -/
inductive KeyCode where
  | char (c : Char)
  | escape
  | enter
  | up
  | down
  | left
  | right
  | tab
  | backTab
  | backspace
  | delete
  | pageUp
  | pageDown
  | home
  | bottom
deriving DecidableEq

/-- A key that is pressed, held or released. -/
structure Key where
  code : KeyCode
  control : Bool
  shift : Bool
  released : Bool
deriving DecidableEq

end TranscriptSearch
