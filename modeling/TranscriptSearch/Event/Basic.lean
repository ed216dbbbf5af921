import TranscriptSearch.Event.Template

namespace TranscriptSearch

open Json (Value)

/-- One candidate answer of a model. -/
structure ModelChoice where
  message : ChatMessage

/-- What a model call gave back. -/
structure ModelOutput where
  model : String
  completion : Option String
  choices : List ModelChoice

/-- An error that a tool reported. -/
structure ToolError where
  kind : String
  message : String
deriving DecidableEq

/-- An error of the run itself. -/
structure ErrorDetail where
  message : String
  traceback : String
deriving DecidableEq

/-- A log record of the run. -/
structure LoggedMessage where
  level : String
  message : String
deriving DecidableEq

/-- What was decided about a tool call. -/
inductive Decision where
  | approve
  | modify
  | reject
  | escalate
  | terminate
  | other
deriving DecidableEq

/-- What a change does to the value at its path. -/
inductive ChangeOp where
  | add
  | remove
  | replace
  | move
  | copy
  | test
deriving DecidableEq

/-- A change of a state or a store. -/
structure StateChange where
  op : ChangeOp
  path : String
  value : Value

/-- A score given to a sample. -/
structure ScoreDetail where
  value : Value
  answer : Option String
  explanation : Option String

/-- What a sample asks: a text or a conversation. -/
inductive SampleInput where
  | text (text : String)
  | messages (messages : List ChatMessage)

/-- What is known of a sample at the start of its transcript. -/
structure SampleInfo where
  input : SampleInput
  target : Value

/-- An event.  Events of kinds that are not known are kept without their content. -/
inductive Event where
  | sampleInit (sample : SampleInfo)
  | model (model : String) (role : Option String) (input : List ChatMessage)
      (output : ModelOutput) (error : Option String)
  | tool (id function : String) (arguments : Members) (view : Option ToolView) (result : Value)
      (error : Option ToolError)
  | error (detail : ErrorDetail)
  | info (source : Option String) (data : Value)
  | logger (record : LoggedMessage)
  | input (text : String)
  | approval (message : String) (decision : Decision) (explanation : Option String)
  | score (score : ScoreDetail)
  | state (changes : List StateChange)
  | store (changes : List StateChange)
  | spanBegin (id name : String) (kind : Option String)
  | spanEnd (id : String)
  | subtask (name : String) (input result : Value)
  | sandbox (action : String) (command output : Option String)
  | message (message : ChatMessage)
  | unknown

def Decision.name : Decision → String
  | .approve => "approve"
  | .modify => "modify"
  | .reject => "reject"
  | .escalate => "escalate"
  | .terminate => "terminate"
  | .other => "other"

def ChangeOp.name : ChangeOp → String
  | .add => "add"
  | .remove => "remove"
  | .replace => "replace"
  | .move => "move"
  | .copy => "copy"
  | .test => "test"

def Event.kind : Event → String
  | .sampleInit .. => "sample_init"
  | .model .. => "model"
  | .tool .. => "tool"
  | .error .. => "error"
  | .info .. => "info"
  | .logger .. => "logger"
  | .input .. => "input"
  | .approval .. => "approval"
  | .score .. => "score"
  | .state .. => "state"
  | .store .. => "store"
  | .spanBegin .. => "span_begin"
  | .spanEnd .. => "span_end"
  | .subtask .. => "subtask"
  | .sandbox .. => "sandbox"
  | .message .. => "message"
  | .unknown => "unknown"

/-- The text of an answer: the completion if it says anything, otherwise the text of the first
choice. -/
def ModelOutput.completionText (output : ModelOutput) : String :=
  let ofChoices := (output.choices.head?.map (·.message.content.visibleText)).getD ""
  match output.completion with
  | some completion => if completion = "" then ofChoices else completion
  | none => ofChoices

def ModelOutput.toolCalls (output : ModelOutput) : List ToolCall :=
  (output.choices.head?.map (·.message.toolCalls)).getD []

/-- The text of a sample's input, with the messages that say anything on lines of their own. -/
def SampleInput.visibleText : SampleInput → String
  | .text body => body
  | .messages conversation =>
    "\n".intercalate ((conversation.map (·.content.visibleText)).filter (· ≠ ""))

end TranscriptSearch
