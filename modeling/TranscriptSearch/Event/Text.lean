import TranscriptSearch.Event.Basic

namespace TranscriptSearch

open Json (Value)

/-- A JSON value as text: a string itself, nothing for null, any other value as JSON. -/
def valueText : Value → String
  | .null => ""
  | .string text => text
  | value => value.print

/-- The text of a tool's result.  Of a list the parts with a text are taken, each on lines of its
own; a list without any such part is shown as JSON. -/
def toolResultText : Value → String
  | .array parts =>
    let texts := parts.filterMap fun part => (part.member? "text").bind Value.string?
    if texts.isEmpty && !parts.isEmpty then (Value.array parts).print
    else "\n".intercalate texts
  | value => valueText value

/-- A text that may be left out, with nothing and the empty text alike. -/
def textOrNone : Option String → Option String
  | some "" => none
  | text => text

/-- The title of an event.  Events that are not shown have none. -/
def Event.title : Event → String
  | .sampleInit _ => "Sample Init"
  | .model name .. => "Model Call: " ++ name
  | .tool _ function .. => "Tool: " ++ function
  | .error _ => "Error"
  | .info source _ =>
    match textOrNone source with
    | some source => "Info: " ++ source
    | none => "Info"
  | .logger record => "Logger: " ++ record.level
  | .input _ => "Input"
  | .approval _ decision _ => "Approval: " ++ decision.name
  | .score _ => "Score"
  | .state _ => "State Changes"
  | .store _ => "Store Changes"
  | .spanBegin _ name kind =>
    match textOrNone kind with
    | some kind => kind ++ ": " ++ name
    | none => name
  | .subtask name .. => "Subtask: " ++ name
  | .sandbox action .. => "Sandbox: " ++ action
  | .message chat => chat.role.label
  | .spanEnd _ | .unknown => ""

/-- A change on one line: what it does, where, and with which value. -/
def StateChange.summary (change : StateChange) : String :=
  let value := valueText change.value
  let place := change.op.name ++ " " ++ change.path
  if value = "" then place else place ++ " " ++ value

/-- The texts of an event behind its title, before empty ones are left out. -/
def Event.fields : Event → List String
  | .sampleInit sample => [sample.input.visibleText, valueText sample.target]
  | .model _ _ _ output failure =>
    output.completionText :: output.toolCalls.map ToolCall.signature ++ failure.toList
  | .tool _ _ arguments view result failure =>
    let written := if arguments.isEmpty then [] else [(Value.object arguments).print]
    let shown := match view.map (·.fill arguments) with
      | some view => view.title.toList ++ [view.content]
      | none => []
    written ++ shown ++ toolResultText result :: (failure.map ToolError.message).toList
  | .error detail => [detail.message, detail.traceback]
  | .info _ data => [valueText data]
  | .logger record => [record.message]
  | .input text => [text]
  | .approval request _ explanation => request :: explanation.toList
  | .score detail => valueText detail.value :: (detail.answer.toList ++ detail.explanation.toList)
  | .state changes | .store changes => changes.map StateChange.summary
  | .subtask _ given result => [valueText given, valueText result]
  | .sandbox _ command output => command.toList ++ output.toList
  | .message chat => chat.content.visibleText :: chat.toolCalls.map ToolCall.signature
  | .spanBegin .. | .spanEnd _ | .unknown => []

def Event.texts (event : Event) : List String :=
  match event with
  | .spanEnd _ | .unknown => []
  | event => (event.title :: event.fields).filter (· ≠ "")

end TranscriptSearch
