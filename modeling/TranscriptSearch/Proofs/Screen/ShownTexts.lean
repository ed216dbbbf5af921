import TranscriptSearch.Proofs.Screen.ShownNotes

namespace TranscriptSearch

open Text

/-- A searchable text with the lines of it that are drawn. -/
structure ShownText where
  data : String
  lines : List ShownLine

namespace ShownText

/-- A text in one line. -/
def heading (prose : Bool) (text : String) : ShownText :=
  ⟨text, [⟨text.toList, prose⟩]⟩

/-- A text in paragraphs or in raw lines. -/
def whole (prose : Bool) (text : String) : ShownText :=
  ⟨text, shownLines prose text.toList⟩

/-- A text of which the first lines are drawn. -/
def preview (limit : Nat) (text : String) : ShownText :=
  ⟨text, previewLines limit text.toList⟩

/-- Arguments of which the names are drawn. -/
def names (arguments : Members) : ShownText :=
  ⟨(Json.Value.object arguments).print, nameLines arguments⟩

end ShownText

/-- The arguments of a tool with what is drawn of them. -/
def shownArguments (options : CellOptions) (arguments : Members) : List ShownText :=
  if arguments.isEmpty then []
  else if options.expandArguments then [.whole false (Json.Value.object arguments).print]
  else [.names arguments]

/-- A presentation with what is drawn of it. -/
def shownView : Option ToolView → List ShownText
  | some view => view.title.toList.map (.heading false) ++ [.whole true view.content]
  | none => []

namespace Event

/-- The texts of an event behind its title, with what is drawn of them. -/
def shownFields (options : CellOptions) : Event → List ShownText
  | .model _ _ _ output failure =>
      .whole true output.completionText ::
        output.toolCalls.map (fun call => .whole false call.signature) ++
        failure.toList.map (.whole true)
  | .tool _ _ arguments view result failure =>
      shownArguments options arguments ++ shownView (view.map (·.fill arguments)) ++
        .preview options.previewLines (toolResultText result) ::
        failure.toList.map (fun failure => .whole true failure.message)
  | .error detail => [.whole true detail.message, .whole false detail.traceback]
  | .message chat =>
      .whole true chat.content.visibleText ::
        chat.toolCalls.map (fun call => .whole false call.signature)
  | .sandbox _ command output =>
      command.toList.map (.whole false) ++ output.toList.map (.preview options.previewLines)
  | event => event.fields.map (.whole true)

/-- The texts of an event with what is drawn of them. -/
def shown (options : CellOptions) : Event → List ShownText
  | .unknown => []
  | event => .heading true event.title :: event.shownFields options

theorem map_data_shownFields (event : Event) (options : CellOptions) :
    (event.shownFields options).map ShownText.data = event.fields := by
  cases event with
  | model => simp [shownFields, fields, ShownText.whole, Function.comp_def]
  | tool id function arguments view result failure =>
      have harguments : (shownArguments options arguments).map ShownText.data =
          if arguments.isEmpty then [] else [(Json.Value.object arguments).print] := by
        rw [shownArguments]
        split
        · rfl
        · split <;> rfl
      have hview : ∀ view : Option ToolView, (shownView view).map ShownText.data =
          match view with
          | some view => view.title.toList ++ [view.content]
          | none => [] := by
        rintro (_ | view)
        · rfl
        · simp [shownView, ShownText.heading, ShownText.whole, Function.comp_def]
      simp only [shownFields, fields, List.map_append, List.map_cons, harguments, hview]
      cases failure <;> rfl
  | _ => simp [shownFields, fields, ShownText.whole, ShownText.preview, Function.comp_def]

theorem title_ne_or_fields_eq (event : Event) : event.title ≠ "" ∨ event.fields = [] := by
  cases event with
  | info source data =>
      left
      rw [title]
      split <;> simp
  | message chat =>
      left
      rw [title]
      cases chat.role <;> decide
  | _ => simp [title, fields]

theorem drop_one_texts (event : Event) : event.texts.drop 1 = event.fields.filter (· ≠ "") := by
  have hdrop : ∀ (title : String) (fields : List String), title ≠ "" ∨ fields = [] →
      ((title :: fields).filter (· ≠ "")).drop 1 = fields.filter (· ≠ "") := by
    rintro title fields (htitle | rfl)
    · simp [htitle]
    · by_cases htitle : title = "" <;> simp [htitle]
  have htexts := hdrop event.title event.fields event.title_ne_or_fields_eq
  cases event with
  | spanEnd => rfl
  | unknown => rfl
  | _ => exact htexts

end Event

theorem Role.isSearchable_style (role : Role) : role.style.isSearchable = true := by
  cases role <;> rfl

theorem Event.isSearchable_titleStyle {event : Event} (h : event ≠ .unknown) :
    event.titleStyle.isSearchable = true := by
  cases event with
  | message chat => exact chat.role.isSearchable_style
  | unknown => exact absurd rfl h
  | _ => rfl

namespace CellFrame

theorem madeFrom_prose_all (texts : List String) (style : Style)
    (hstyle : style.isSearchable = true) :
    MadeFrom (fun frame => texts.flatMap (frame.prose · style))
      (texts.flatMap fun text => shownLines true text.toList) :=
  .flatMap texts fun text _ => madeFrom_prose text style hstyle

theorem madeFrom_raw_all (texts : List String) (style : Style)
    (hstyle : style.isSearchable = true) :
    MadeFrom (fun frame => texts.flatMap fun text => frame.raw text.toList style)
      (texts.flatMap fun text => shownLines false text.toList) :=
  .flatMap texts fun text _ => madeFrom_raw text.toList style hstyle

theorem flatMap_prose_filter (frame : CellFrame) (texts : List String) (style : Style) :
    (texts.filter (· ≠ "")).flatMap (frame.prose · style) =
      texts.flatMap (frame.prose · style) := by
  induction texts with
  | nil => rfl
  | cons text texts ih =>
      by_cases hempty : text = ""
      · simpa [hempty, prose, Text.allBlank] using ih
      · simpa [hempty] using ih

theorem madeFrom_arguments (options : CellOptions) (arguments : Members) :
    MadeFrom
      (fun frame =>
        if arguments.isEmpty then []
        else if options.expandArguments then
          frame.raw (Json.Value.object arguments).print.toList .toolArgs
        else [frame.note (argumentSummary arguments)])
      ((shownArguments options arguments).flatMap ShownText.lines) := by
  rw [shownArguments]
  split
  · exact .nil
  · split
    · simpa [ShownText.whole] using madeFrom_raw _ .toolArgs rfl
    · simpa [ShownText.names] using madeFrom_argumentSummary arguments

theorem madeFrom_view (view : Option ToolView) :
    MadeFrom
      (fun frame => match view with
        | some view =>
          view.title.toList.map (fun title => frame.note [⟨title, .title⟩]) ++
            frame.prose view.content .plain
        | none => [])
      ((shownView view).flatMap ShownText.lines) := by
  rcases view with _ | ⟨title, format, content⟩
  · exact .nil
  · have hcontent := madeFrom_prose content .plain rfl
    cases title with
    | none => simpa [shownView, ShownText.whole] using hcontent
    | some title =>
        have htitle := madeFrom_heading title .title rfl
        simpa [shownView, ShownText.whole, ShownText.heading] using htitle.append hcontent

end CellFrame

namespace Event

open CellFrame

theorem madeFrom_bodyRows (event : Event) (options : CellOptions) :
    MadeFrom (event.bodyRows · options)
      ((event.shownFields options).flatMap ShownText.lines) := by
  cases event with
  | model model role input output failure =>
      have htext := madeFrom_prose output.completionText .assistant rfl
      have hcalls := madeFrom_raw_all (output.toolCalls.map ToolCall.signature) .toolArgs rfl
      have hfailure := madeFrom_prose_all failure.toList .error rfl
      have h := (htext.append hcalls).append hfailure
      simpa [bodyRows, shownFields, ShownText.whole, List.flatMap_map] using h
  | tool id function arguments view result failure =>
      have harguments := madeFrom_arguments options arguments
      have hview := madeFrom_view (view.map (·.fill arguments))
      have hresult := madeFrom_preview (toolResultText result) options.previewLines
        .toolOutput rfl
      have hfailure := madeFrom_prose_all (failure.toList.map ToolError.message) .error rfl
      have h := ((harguments.append hview).append hresult).append hfailure
      simp only [List.flatMap_map] at h
      simp only [shownFields, List.flatMap_append, List.flatMap_cons, List.flatMap_map]
      rw [← List.append_assoc]
      exact h
  | error detail =>
      have hmessage := madeFrom_prose detail.message .error rfl
      have htraceback := madeFrom_raw detail.traceback.toList .muted rfl
      simpa [bodyRows, shownFields, ShownText.whole] using hmessage.append htraceback
  | message chat =>
      have htext := madeFrom_prose chat.content.visibleText chat.role.style
        chat.role.isSearchable_style
      have hcalls := madeFrom_raw_all (chat.toolCalls.map ToolCall.signature) .toolArgs rfl
      simpa [bodyRows, shownFields, ShownText.whole, List.flatMap_map] using htext.append hcalls
  | sampleInit sample =>
      have hinput := madeFrom_prose sample.input.visibleText .user rfl
      have htarget : MadeFrom
          (fun frame => if Text.allBlank (valueText sample.target).toList then []
            else frame.note [⟨"target:", .label⟩] :: frame.prose (valueText sample.target) .muted)
          (shownLines true (valueText sample.target).toList) := by
        by_cases hblank : Text.allBlank (valueText sample.target).toList = true
        · simpa [hblank, shownLines] using MadeFrom.nil
        · have hlabel := madeFrom_label "target:" .label rfl
          have hprose := madeFrom_prose (valueText sample.target) .muted rfl
          simpa [hblank] using hlabel.append hprose
      simpa [bodyRows, shownFields, fields, ShownText.whole] using hinput.append htarget
  | sandbox action command output =>
      have hcommand := madeFrom_raw_all command.toList .toolArgs rfl
      have houtput : MadeFrom
          (fun frame => output.toList.flatMap (frame.preview · options.previewLines .toolOutput))
          (output.toList.flatMap fun text => previewLines options.previewLines text.toList) :=
        .flatMap output.toList fun text _ =>
          madeFrom_preview text options.previewLines .toolOutput rfl
      simpa [bodyRows, shownFields, ShownText.whole, ShownText.preview, List.flatMap_map] using
        hcommand.append houtput
  | unknown => exact .nil
  | _ =>
      simp only [bodyRows, shownFields, drop_one_texts, flatMap_prose_filter, List.flatMap_map]
      exact madeFrom_prose_all _ .plain rfl

end Event

end TranscriptSearch
