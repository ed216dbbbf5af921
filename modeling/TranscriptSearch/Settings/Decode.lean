import TranscriptSearch.Settings.Basic
import TranscriptSearch.Toml.Document

namespace TranscriptSearch

open Toml (Value)

/-- The values of the named settings of a section, as far as they are set.  A section is a table,
or an array in which the settings stand in order.  A date sets nothing. -/
def sectionValues? (names : List String) : Value → Option (List (Option Value))
  | .table _ members => some (names.map fun name => members.lookup name)
  | .array items => some ((List.range names.length).map (items[·]?))
  | .tables tables => some ((List.range names.length).map fun index =>
      tables[index]?.map (.table .header))
  | .datetime _ => some (names.map fun _ => none)
  | _ => none

/-- A setting, which has its default if it is not set and fails if it is set to something of
another kind. -/
def setting? {α : Type} (read? : Value → Option α) (default : α) : Option Value → Option α
  | some value => read? value
  | none => some default

def natSetting? : Value → Option Nat
  | .integer value => if 0 ≤ value then some value.toNat else none
  | _ => none

def boolSetting? : Value → Option Bool
  | .boolean value => some value
  | _ => none

def textSetting? : Value → Option String
  | .string text => some text
  | _ => none

def FindSettings.ofValue? (value : Value) : Option FindSettings := do
  let d : FindSettings := {}
  match ← sectionValues? ["debounce_ms", "settle_timeout_ms", "max_highlight_spans"] value with
  | [debounce, settleTimeout, maxHighlightSpans] =>
    return ⟨← setting? natSetting? d.debounce debounce,
      ← setting? natSetting? d.settleTimeout settleTimeout,
      ← setting? natSetting? d.maxHighlightSpans maxHighlightSpans⟩
  | _ => none

def ViewSettings.ofValue? (value : Value) : Option ViewSettings := do
  let d : ViewSettings := {}
  match ← sectionValues? ["tool_output_preview_lines", "expand_tool_args", "follow_poll_ms"] value
    with
  | [previewLines, expandArguments, followPoll] =>
    return ⟨← setting? natSetting? d.previewLines previewLines,
      ← setting? boolSetting? d.expandArguments expandArguments,
      ← setting? natSetting? d.followPoll followPoll⟩
  | _ => none

def levelOfValue? (value : Value) : Option String := do
  match ← sectionValues? ["level"] value with
  | [level] => setting? textSetting? ({} : Settings).level level
  | _ => none

def Settings.ofMembers? (members : Toml.Members) : Option Settings := do
  let d : Settings := {}
  return ⟨← setting? FindSettings.ofValue? d.find (members.lookup "find"),
    ← setting? ViewSettings.ofValue? d.view (members.lookup "view"),
    ← setting? levelOfValue? d.level (members.lookup "log")⟩

/-- The settings that the text of a settings file stands for. -/
def Settings.parse? (text : String) : Option Settings :=
  (Toml.parse? text).bind Settings.ofMembers?

end TranscriptSearch
