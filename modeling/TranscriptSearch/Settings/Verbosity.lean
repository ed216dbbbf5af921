namespace TranscriptSearch

/-- How much is logged. -/
inductive Verbosity where
  | quiet
  | normal
  | verbose
deriving DecidableEq

namespace Verbosity

/-- The verbosity that two switches ask for; asking for more wins. -/
def ofSwitches (verbose quiet : Bool) : Verbosity :=
  if verbose then .verbose else if quiet then .quiet else .normal

/-- The level to log at, where the configuration gives one for the normal case. -/
def level (verbosity : Verbosity) (configured : String) : String :=
  match verbosity with
  | .quiet => "error"
  | .normal => configured
  | .verbose => "debug"

end Verbosity

end TranscriptSearch
