import TranscriptSearch.Event.Decode

namespace TranscriptSearch

open Json (Value)

def optionalMember {α : Type} (key : String) (encode : α → Value) : Option α → Members
  | some a => [(key, encode a)]
  | none => []

def nonemptyMember {α : Type} (key : String) (encode : α → Value) : List α → Members
  | [] => []
  | items => [(key, .array (items.map encode))]

def ContentPart.encode : ContentPart → Value
  | .text body => .object [("type", .string "text"), ("text", .string body)]
  | .reasoning body => .object [("type", .string "reasoning"), ("reasoning", .string body)]
  | .image source => .object [("type", .string "image"), ("image", .string source)]
  | .other => .object [("type", .string "other")]

def MessageContent.encode : MessageContent → Value
  | .text body => .string body
  | .parts pieces => .array (pieces.map ContentPart.encode)

def ToolCall.encode (call : ToolCall) : Value :=
  .object [("id", .string call.id), ("function", .string call.function),
    ("arguments", .object call.arguments)]

def ChatMessage.encode (chat : ChatMessage) : Value :=
  .object ([("role", .string chat.role.name), ("content", chat.content.encode)] ++
    nonemptyMember "tool_calls" ToolCall.encode chat.toolCalls)

def ModelChoice.encode (choice : ModelChoice) : Value :=
  .object [("message", choice.message.encode)]

def ModelOutput.encode (output : ModelOutput) : Value :=
  .object ([("model", .string output.model)] ++
    optionalMember "completion" .string output.completion ++
    nonemptyMember "choices" ModelChoice.encode output.choices)

def ToolView.encode (view : ToolView) : Value :=
  .object (optionalMember "title" .string view.title ++
    [("format", .string view.format.name), ("content", .string view.content)])

def ToolError.encode (failure : ToolError) : Value :=
  .object [("type", .string failure.kind), ("message", .string failure.message)]

def ErrorDetail.encode (detail : ErrorDetail) : Value :=
  .object [("message", .string detail.message), ("traceback", .string detail.traceback)]

def LoggedMessage.encode (record : LoggedMessage) : Value :=
  .object [("level", .string record.level), ("message", .string record.message)]

def StateChange.encode (change : StateChange) : Value :=
  .object [("op", .string change.op.name), ("path", .string change.path),
    ("value", change.value)]

def ScoreDetail.encode (detail : ScoreDetail) : Value :=
  .object ([("value", detail.value)] ++ optionalMember "answer" .string detail.answer ++
    optionalMember "explanation" .string detail.explanation)

def SampleInput.encode : SampleInput → Value
  | .text body => .string body
  | .messages conversation => .array (conversation.map ChatMessage.encode)

def SampleInfo.encode (sample : SampleInfo) : Value :=
  .object [("input", sample.input.encode), ("target", sample.target)]

def Event.encodeBody : Event → Members
  | .sampleInit sample => [("sample", sample.encode)]
  | .model name role messages output failure =>
    [("model", .string name)] ++ optionalMember "role" .string role ++
      nonemptyMember "input" ChatMessage.encode messages ++ [("output", output.encode)] ++
      optionalMember "error" .string failure
  | .tool id function arguments view result failure =>
    [("id", .string id), ("function", .string function), ("arguments", .object arguments)] ++
      optionalMember "view" ToolView.encode view ++ [("result", result)] ++
      optionalMember "error" ToolError.encode failure
  | .error detail => [("error", detail.encode)]
  | .info source data => optionalMember "source" .string source ++ [("data", data)]
  | .logger record => [("message", record.encode)]
  | .input text => [("input", .string text)]
  | .approval request decision explanation =>
    [("message", .string request), ("decision", .string decision.name)] ++
      optionalMember "explanation" .string explanation
  | .score detail => [("score", detail.encode)]
  | .state changes | .store changes => [("changes", .array (changes.map StateChange.encode))]
  | .spanBegin id name kind =>
    [("id", .string id), ("name", .string name)] ++ optionalMember "type" .string kind
  | .spanEnd id => [("id", .string id)]
  | .subtask name given result =>
    [("name", .string name), ("input", given), ("result", result)]
  | .sandbox action command output =>
    [("action", .string action)] ++ optionalMember "cmd" .string command ++
      optionalMember "output" .string output
  | .message chat => [("message", chat.encode)]
  | .unknown => []

def Event.encode (event : Event) : Value :=
  .object (("event", .string event.kind) :: event.encodeBody)

end TranscriptSearch
