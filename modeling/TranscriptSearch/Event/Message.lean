import TranscriptSearch.Json.Printer

namespace TranscriptSearch

open Json (Value)

abbrev Members := List (String × Value)

/-- The author of a message. -/
inductive Role where
  | system
  | user
  | assistant
  | tool
deriving DecidableEq

/-- One part of a structured message. -/
inductive ContentPart where
  | text (text : String)
  | reasoning (text : String)
  | image (source : String)
  | other
deriving DecidableEq

/-- The body of a message: plain text or a list of parts. -/
inductive MessageContent where
  | text (text : String)
  | parts (parts : List ContentPart)
deriving DecidableEq

/-- A call of a tool that a message asks for. -/
structure ToolCall where
  id : String
  function : String
  arguments : Members

/-- One message. -/
structure ChatMessage where
  role : Role
  content : MessageContent
  toolCalls : List ToolCall

def Role.label : Role → String
  | .system => "System"
  | .user => "User"
  | .assistant => "Assistant"
  | .tool => "Tool"

def ContentPart.text? : ContentPart → Option String
  | .text body => some body
  | _ => none

/-- The visible text of a body, with the text parts on lines of their own. -/
def MessageContent.visibleText : MessageContent → String
  | .text body => body
  | .parts pieces => "\n".intercalate (pieces.filterMap ContentPart.text?)

/-- A call as it is shown: the tool's name and its arguments in parentheses. -/
def ToolCall.signature (call : ToolCall) : String :=
  call.function ++ "(" ++ (Value.object call.arguments).print ++ ")"

end TranscriptSearch
