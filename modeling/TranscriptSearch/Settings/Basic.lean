namespace TranscriptSearch

/-- The settings of the search. -/
structure FindSettings where
  /-- How long a pause in typing must be before the typed term is searched for. -/
  debounce : Nat := 100
  /-- How long to wait for a scroll. -/
  settleTimeout : Nat := 1500
  /-- The number of occurrences that are highlighted at most. -/
  maxHighlightSpans : Nat := 1000
deriving DecidableEq

/-- The settings of the viewer. -/
structure ViewSettings where
  /-- The number of lines of a tool's output that are shown. -/
  previewLines : Nat := 5
  /-- Whether tool arguments are shown in full. -/
  expandArguments : Bool := false
  /-- How often a followed file is read again. -/
  followPoll : Nat := 500
deriving DecidableEq

/-- All settings. -/
structure Settings where
  find : FindSettings := {}
  view : ViewSettings := {}
  /-- The level of log messages. -/
  level : String := "info"
deriving DecidableEq

end TranscriptSearch
