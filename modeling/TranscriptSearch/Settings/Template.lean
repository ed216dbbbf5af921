namespace TranscriptSearch

/-- The lines of a new settings file, which sets everything to its default and says what it is
for. -/
def settingsTemplateLines : List String :=
  ["# tfind configuration",
    "",
    "[find]",
    "# Quiet period (ms) after typing before the search term is committed",
    "debounce_ms = 100",
    "# Max wait (ms) for the viewer to scroll a match into view",
    "settle_timeout_ms = 1500",
    "# Max number of \"all matches\" highlights painted at once",
    "max_highlight_spans = 1000",
    "",
    "[view]",
    "# Tool output lines shown before eliding the rest",
    "tool_output_preview_lines = 5",
    "# Show full tool arguments instead of a one-line summary",
    "expand_tool_args = false",
    "# Poll interval (ms) for --follow",
    "follow_poll_ms = 500",
    "",
    "[log]",
    "# Default level when TFIND_LOG / RUST_LOG are unset",
    "level = \"info\""]

def settingsTemplate : String :=
  String.join (settingsTemplateLines.map (· ++ "\n"))

end TranscriptSearch
