import TranscriptSearch.Event.Basic
import TranscriptSearch.Event.Record

namespace TranscriptSearch

open Json (Value)
open Record

def Role.name : Role → String
  | .system => "system"
  | .user => "user"
  | .assistant => "assistant"
  | .tool => "tool"

def ViewFormat.name : ViewFormat → String
  | .text => "text"
  | .markdown => "markdown"

def Role.decode? (form : WordForm) (value : Value) : Option Role :=
  named? form [.system, .user, .assistant, .tool] Role.name value

def ViewFormat.decode? (form : WordForm) (value : Value) : Option ViewFormat :=
  named? form [.text, .markdown] ViewFormat.name value

/-- A decision; words that are not known stand for another one. -/
def Decision.decode? (value : Value) : Option Decision :=
  (word? .nullOrEmpty value).map fun word =>
    (([.approve, .modify, .reject, .escalate, .terminate] : List Decision).find?
      (·.name == word)).getD .other

def ChangeOp.decode? (value : Value) : Option ChangeOp :=
  named? .nullOrEmpty [.add, .remove, .replace, .move, .copy, .test] ChangeOp.name value

/-- The tag of a part: a word, or the place of the word among the known ones. -/
def ContentPart.tag? : Value → Option String
  | .string tag => some tag
  | .number (.int (.ofNat place)) => some (["text", "reasoning", "image"].getD place "other")
  | _ => none

def ContentPart.decode? (value : Value) : Option ContentPart := do
  let (tag, body) ← tagged? "type" ContentPart.tag? value
  match tag with
  | "text" =>
    match ← fields? ["text"] body with
    | [field] => return .text (← required? Value.string? field)
    | _ => none
  | "reasoning" =>
    match ← fields? ["reasoning"] body with
    | [field] => return .reasoning (← required? Value.string? field)
    | _ => none
  | "image" =>
    match ← fields? ["image"] body with
    | [field] => return .image (← defaulted? "" Value.string? field)
    | _ => none
  | _ => do
    let _ ← fields? [] body
    return .other

def MessageContent.decode? : Value → Option MessageContent
  | .string body => some (.text body)
  | value => (list? ContentPart.decode? value).map .parts

def ToolCall.decode? (value : Value) : Option ToolCall := do
  match ← fields? ["id", "function", "arguments"] value with
  | [id, function, arguments] =>
    return ⟨← defaulted? "" Value.string? id, ← required? Value.string? function,
      ← defaulted? [] members? arguments⟩
  | _ => none

def ChatMessage.decode? (form : WordForm) (value : Value) : Option ChatMessage := do
  match ← fields? ["role", "content", "tool_calls"] value with
  | [role, content, toolCalls] =>
    return ⟨← required? (Role.decode? form) role,
      ← defaulted? (.text "") MessageContent.decode? content,
      ← defaulted? [] (list? ToolCall.decode?) toolCalls⟩
  | _ => none

def ModelChoice.decode? (value : Value) : Option ModelChoice := do
  match ← fields? ["message"] value with
  | [chat] => return ⟨← required? (ChatMessage.decode? .nullOrEmpty) chat⟩
  | _ => none

def ModelOutput.decode? (value : Value) : Option ModelOutput := do
  match ← fields? ["model", "completion", "choices"] value with
  | [name, completion, choices] =>
    return ⟨← defaulted? "" Value.string? name, ← optional? Value.string? completion,
      ← defaulted? [] (list? ModelChoice.decode?) choices⟩
  | _ => none

def ToolView.decode? (form : WordForm) (value : Value) : Option ToolView := do
  match ← fields? ["title", "format", "content"] value with
  | [title, format, content] =>
    return ⟨← optional? Value.string? title, ← defaulted? .text (ViewFormat.decode? form) format,
      ← defaulted? "" Value.string? content⟩
  | _ => none

def ToolError.decode? (value : Value) : Option ToolError := do
  match ← fields? ["type", "message"] value with
  | [kind, text] =>
    return ⟨← defaulted? "" Value.string? kind, ← defaulted? "" Value.string? text⟩
  | _ => none

def ErrorDetail.decode? (value : Value) : Option ErrorDetail := do
  match ← fields? ["message", "traceback"] value with
  | [text, traceback] =>
    return ⟨← defaulted? "" Value.string? text, ← defaulted? "" Value.string? traceback⟩
  | _ => none

def LoggedMessage.decode? (value : Value) : Option LoggedMessage := do
  match ← fields? ["level", "message"] value with
  | [level, text] =>
    return ⟨← defaulted? "" Value.string? level, ← defaulted? "" Value.string? text⟩
  | _ => none

def StateChange.decode? (value : Value) : Option StateChange := do
  match ← fields? ["op", "path", "value"] value with
  | [op, path, content] =>
    return ⟨← required? ChangeOp.decode? op, ← defaulted? "" Value.string? path,
      ← defaulted? .null any? content⟩
  | _ => none

def ScoreDetail.decode? (value : Value) : Option ScoreDetail := do
  match ← fields? ["value", "answer", "explanation"] value with
  | [content, answer, explanation] =>
    return ⟨← defaulted? .null any? content, ← optional? Value.string? answer,
      ← optional? Value.string? explanation⟩
  | _ => none

def SampleInput.decode? : Value → Option SampleInput
  | .string body => some (.text body)
  | value => (list? (ChatMessage.decode? .null) value).map .messages

def SampleInfo.decode? (value : Value) : Option SampleInfo := do
  match ← fields? ["input", "target"] value with
  | [input, target] =>
    return ⟨← defaulted? (.text "") SampleInput.decode? input, ← defaulted? .null any? target⟩
  | _ => none

def Event.decodeBody? (tag : String) (body : Value) : Option Event := do
  match tag with
  | "sample_init" =>
    match ← fields? ["sample"] body with
    | [sample] => return .sampleInit (← defaulted? ⟨.text "", .null⟩ SampleInfo.decode? sample)
    | _ => none
  | "model" =>
    match ← fields? ["model", "role", "input", "output", "error"] body with
    | [name, role, messages, output, failure] =>
      return .model (← defaulted? "" Value.string? name) (← optional? Value.string? role)
        (← defaulted? [] (list? (ChatMessage.decode? .nullOrEmpty)) messages)
        (← defaulted? ⟨"", none, []⟩ ModelOutput.decode? output)
        (← optional? Value.string? failure)
    | _ => none
  | "tool" =>
    match ← fields? ["id", "function", "arguments", "view", "result", "error"] body with
    | [id, function, arguments, view, result, failure] =>
      return .tool (← defaulted? "" Value.string? id) (← required? Value.string? function)
        (← defaulted? [] members? arguments) (← optional? (ToolView.decode? .nullOrEmpty) view)
        (← defaulted? .null any? result) (← optional? ToolError.decode? failure)
    | _ => none
  | "error" =>
    match ← fields? ["error"] body with
    | [detail] => return .error (← required? ErrorDetail.decode? detail)
    | _ => none
  | "info" =>
    match ← fields? ["source", "data"] body with
    | [source, data] =>
      return .info (← optional? Value.string? source) (← defaulted? .null any? data)
    | _ => none
  | "logger" =>
    match ← fields? ["message"] body with
    | [record] => return .logger (← required? LoggedMessage.decode? record)
    | _ => none
  | "input" =>
    match ← fields? ["input"] body with
    | [text] => return .input (← defaulted? "" Value.string? text)
    | _ => none
  | "approval" =>
    match ← fields? ["message", "decision", "explanation"] body with
    | [request, decision, explanation] =>
      return .approval (← defaulted? "" Value.string? request)
        (← required? Decision.decode? decision) (← optional? Value.string? explanation)
    | _ => none
  | "score" =>
    match ← fields? ["score"] body with
    | [detail] => return .score (← defaulted? ⟨.null, none, none⟩ ScoreDetail.decode? detail)
    | _ => none
  | "state" =>
    match ← fields? ["changes"] body with
    | [changes] => return .state (← defaulted? [] (list? StateChange.decode?) changes)
    | _ => none
  | "store" =>
    match ← fields? ["changes"] body with
    | [changes] => return .store (← defaulted? [] (list? StateChange.decode?) changes)
    | _ => none
  | "span_begin" =>
    match ← fields? ["id", "name", "type"] body with
    | [id, name, kind] =>
      return .spanBegin (← required? Value.string? id) (← defaulted? "" Value.string? name)
        (← optional? Value.string? kind)
    | _ => none
  | "span_end" =>
    match ← fields? ["id"] body with
    | [id] => return .spanEnd (← required? Value.string? id)
    | _ => none
  | "subtask" =>
    match ← fields? ["name", "input", "result"] body with
    | [name, given, result] =>
      return .subtask (← defaulted? "" Value.string? name) (← defaulted? .null any? given)
        (← defaulted? .null any? result)
    | _ => none
  | "sandbox" =>
    match ← fields? ["action", "cmd", "output"] body with
    | [action, command, output] =>
      return .sandbox (← defaulted? "" Value.string? action) (← optional? Value.string? command)
        (← optional? Value.string? output)
    | _ => none
  | "message" =>
    match ← fields? ["message"] body with
    | [chat] => return .message (← required? (ChatMessage.decode? .nullOrEmpty) chat)
    | _ => none
  | _ => do
    let _ ← fields? [] body
    return .unknown

def Event.decode? (value : Value) : Option Event := do
  let (tag, body) ← tagged? "event" Value.string? value
  Event.decodeBody? tag body

end TranscriptSearch
