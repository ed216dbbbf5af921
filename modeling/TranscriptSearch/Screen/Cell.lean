import TranscriptSearch.Screen.RenderedItem
import TranscriptSearch.Text.Wrap
import TranscriptSearch.Transcript.Item

/-!
Drawing one item: a header with its title, and rows of its content below.  What is drawn may hold
less than the item, since arguments are shown by name only, long output is cut to its first lines,
and a term may be broken between rows.  It may hold more too: a character that is not drawn no
longer parts its neighbours.
-/
namespace TranscriptSearch

/-- How items are drawn. -/
structure CellOptions where
  /-- The number of lines of a tool's output that are shown. -/
  previewLines : Nat
  /-- Whether the arguments of a tool are shown in full. -/
  expandArguments : Bool
deriving DecidableEq

/-- Where the rows of an item stand: behind an indent, and with so many columns for text. -/
structure CellFrame where
  indent : String
  width : Nat

namespace CellFrame

def levelIndent : String := "  "

def maxLevel : Nat := 8

def marker : String := "▸ "

def noMarker : String := "  "

def minWidth : Nat := 10

/-- The frame of an item at a depth, on a screen of the given width. -/
def new (depth width : Nat) : CellFrame :=
  let indent := String.join (List.replicate (min depth maxLevel) levelIndent)
  let taken := Text.columns indent.toList + Text.columns marker.toList
  ⟨indent, max (width - taken) minWidth⟩

def row (frame : CellFrame) (lead : String) (style : Style) (text : List Char) : StyledLine :=
  ⟨[⟨frame.indent ++ lead, .guide⟩, ⟨.ofList text, style⟩]⟩

def header (frame : CellFrame) (title : String) (style : Style) : List StyledLine :=
  match Text.wrapWords (Text.sanitize title.toList) frame.width with
  | [] => []
  | first :: rest =>
    frame.row marker style first :: rest.map (frame.row noMarker style)

def prose (frame : CellFrame) (text : String) (style : Style) : List StyledLine :=
  if Text.allBlank text.toList then []
  else
    (Text.lines text.toList).flatMap fun line =>
      (Text.wrapWords (Text.sanitize line) frame.width).map (frame.row noMarker style)

/-- Lines broken at columns, which keep their spacing.  Blank text has no rows. -/
def raw (frame : CellFrame) (text : List Char) (style : Style) : List StyledLine :=
  if Text.allBlank text then []
  else
    (Text.lines text).flatMap fun line =>
      (Text.wrapColumns (Text.sanitize line) frame.width).map (frame.row noMarker style)

/-- Pieces of text that fit into the columns left, the last one cut if it does not.  The cut is
marked by an ellipsis, for which a column is kept. -/
def fitSpans (budget : Nat) : List StyledSpan → List StyledSpan
  | [] => []
  | span :: rest =>
    let text := Text.sanitize span.text.toList
    let size := Text.columns text
    if size ≤ budget then ⟨.ofList text, span.style⟩ :: fitSpans (budget - size) rest
    else [⟨.ofList (Text.clip (budget - 1) text), span.style⟩, ⟨"…", .truncation⟩]

def note (frame : CellFrame) (spans : List StyledSpan) : StyledLine :=
  ⟨⟨frame.indent ++ noMarker, .guide⟩ :: fitSpans frame.width spans⟩

/-- The first lines of a text, and how many more there are.  Blank text has no rows. -/
def preview (frame : CellFrame) (text : String) (limit : Nat) (style : Style) :
    List StyledLine :=
  if Text.allBlank text.toList then []
  else
    let lines := Text.lines text.toList
    let hidden := lines.length - limit
    let noun := if hidden = 1 then "line" else "lines"
    frame.raw (Text.unlines (lines.take limit)) style ++
      (if hidden = 0 then []
      else [frame.note [⟨"… " ++ toString hidden ++ " more " ++ noun, .truncation⟩]])

end CellFrame

def Role.style : Role → Style
  | .user => .user
  | .assistant => .assistant
  | .system | .tool => .system

def Event.titleStyle : Event → Style
  | .message chat => chat.role.style
  | .tool .. | .sandbox .. => .toolTitle
  | .error _ => .error
  | .spanBegin .. | .subtask .. => .spanTitle
  | .unknown => .label
  | _ => .title

/-- The title that is drawn for an event.  An unknown one is drawn with a note in the title's
place. -/
def Event.drawnTitle : Event → String
  | .unknown => "(unrecognized event)"
  | event => event.title

def argumentSummary (arguments : Members) : List StyledSpan :=
  let names := arguments.map fun (key, _) => (⟨key, .toolArgs⟩ : StyledSpan)
  let noun := if arguments.length = 1 then "key" else "keys"
  ⟨"args: ", .label⟩ :: names.intersperse ⟨", ", .label⟩ ++
    [⟨" (" ++ toString arguments.length ++ " " ++ noun ++ ")", .label⟩]

def Event.bodyRows (frame : CellFrame) (options : CellOptions) : Event → List StyledLine
  | .model _ _ _ output failure =>
    frame.prose output.completionText .assistant ++
      output.toolCalls.flatMap (fun call => frame.raw call.signature.toList .toolArgs) ++
      failure.toList.flatMap (frame.prose · .error)
  | .tool _ _ arguments view result failure =>
    let drawnArguments :=
      if arguments.isEmpty then []
      else if options.expandArguments then
        frame.raw (Json.Value.object arguments).print.toList .toolArgs
      else [frame.note (argumentSummary arguments)]
    let drawnView := match view.map (·.fill arguments) with
      | some view =>
        view.title.toList.map (fun title => frame.note [⟨title, .title⟩]) ++
          frame.prose view.content .plain
      | none => []
    drawnArguments ++ drawnView ++
      frame.preview (toolResultText result) options.previewLines .toolOutput ++
      failure.toList.flatMap fun failure => frame.prose failure.message .error
  | .error detail => frame.prose detail.message .error ++ frame.raw detail.traceback.toList .muted
  | .message chat =>
    frame.prose chat.content.visibleText chat.role.style ++
      chat.toolCalls.flatMap fun call => frame.raw call.signature.toList .toolArgs
  | .sampleInit sample =>
    let target := valueText sample.target
    let drawnTarget :=
      if Text.allBlank target.toList then []
      else frame.note [⟨"target:", .label⟩] :: frame.prose target .muted
    frame.prose sample.input.visibleText .user ++ drawnTarget
  | .sandbox _ command output =>
    command.toList.flatMap (fun command => frame.raw command.toList .toolArgs) ++
      output.toList.flatMap (frame.preview · options.previewLines .toolOutput)
  | .unknown => []
  | event => (event.texts.drop 1).flatMap (frame.prose · .plain)

def Item.render (item : Item) (width : Nat) (options : CellOptions) : RenderedItem :=
  let frame := CellFrame.new item.depth width
  ⟨frame.header item.event.drawnTitle item.event.titleStyle ++ item.event.bodyRows frame options⟩

end TranscriptSearch
