import TranscriptSearch.Proofs.Event.PrintableTexts
import TranscriptSearch.Proofs.Screen.VerbatimTexts
import TranscriptSearch.Proofs.Text.WordRows

namespace TranscriptSearch

open Text

/-- The columns that a row takes on the screen. -/
def StyledLine.columns (line : StyledLine) : Nat :=
  Text.columns line.text.toList

/-- The columns that pieces of text take, each measured by itself. -/
def spanColumns (spans : List StyledSpan) : Nat :=
  sumOf (spans.map fun span => Text.columns span.text.toList)

@[simp] theorem spanColumns_nil : spanColumns [] = 0 := rfl

@[simp] theorem spanColumns_cons (span : StyledSpan) (spans : List StyledSpan) :
    spanColumns (span :: spans) = Text.columns span.text.toList + spanColumns spans := rfl

/-- Whether some of the pieces fill the room to its last column, and a piece that is not empty
comes next. -/
def IsFilledEarly (room : Nat) (spans : List StyledSpan) : Prop :=
  ∃ shown next rest, spans = shown ++ next :: rest ∧ spanColumns shown = room ∧ next.text ≠ ""

theorem isFilledEarly_cons_iff {room : Nat} {span : StyledSpan} {rest : List StyledSpan} :
    IsFilledEarly room (span :: rest) ↔
      (room = 0 ∧ span.text ≠ "") ∨ (Text.columns span.text.toList ≤ room ∧
        IsFilledEarly (room - Text.columns span.text.toList) rest) := by
  constructor
  · rintro ⟨shown, next, more, hsplit, hroom, hnext⟩
    cases shown with
    | nil =>
        obtain ⟨rfl, -⟩ := List.cons.inj hsplit
        exact .inl ⟨hroom.symm, hnext⟩
    | cons first shown =>
        obtain ⟨rfl, rfl⟩ := List.cons.inj hsplit
        rw [spanColumns_cons] at hroom
        exact .inr ⟨by omega, shown, next, more, rfl, by omega, hnext⟩
  · rintro (⟨rfl, hspan⟩ | ⟨hfits, shown, next, more, rfl, hroom, hnext⟩)
    · exact ⟨[], span, rest, rfl, rfl, hspan⟩
    · exact ⟨span :: shown, next, more, rfl, by rw [spanColumns_cons]; omega, hnext⟩

instance decidableIsFilledEarly : (room : Nat) → (spans : List StyledSpan) →
    Decidable (IsFilledEarly room spans)
  | _, [] => isFalse (by simp [IsFilledEarly])
  | room, span :: rest =>
      have := decidableIsFilledEarly (room - Text.columns span.text.toList) rest
      decidable_of_iff _ isFilledEarly_cons_iff.symm

/-- The pieces of the row that names the arguments of a tool in place of the arguments in full. -/
def Event.summaryPieces (options : CellOptions) : Event → List StyledSpan
  | .tool _ _ arguments _ _ _ =>
      if arguments.isEmpty || options.expandArguments then [] else argumentSummary arguments
  | _ => []

/-- Whether all pieces of text take one column for each character. -/
def ArePlain (spans : List StyledSpan) : Prop :=
  ∀ span ∈ spans, ConsistsOf isPlain span.text

@[simp] theorem arePlain_cons {span : StyledSpan} {spans : List StyledSpan} :
    ArePlain (span :: spans) ↔ ConsistsOf isPlain span.text ∧ ArePlain spans :=
  List.forall_mem_cons

theorem columns_eq_spanColumns {line : StyledLine} (h : ArePlain line.spans) :
    line.columns = spanColumns line.spans := by
  obtain ⟨spans⟩ := line
  have htext : ∀ c ∈ (spans.map StyledSpan.text).flatMap String.toList, isPlain c = true := by
    intro c hc
    obtain ⟨text, htext, hc⟩ := List.mem_flatMap.mp hc
    obtain ⟨span, hspan, rfl⟩ := List.mem_map.mp htext
    exact h span hspan c hc
  rw [StyledLine.columns, StyledLine.text, String.toList_join, columns_of_isPlain htext]
  induction spans with
  | nil => rfl
  | cons span spans ih =>
      obtain ⟨hspan, hrest⟩ := arePlain_cons.mp h
      simp only [List.map_cons, List.flatMap_cons, List.forall_mem_append] at htext
      have hlength := ih hrest htext.2
      simp only [List.map_cons, List.flatMap_cons, List.length_append, spanColumns_cons,
        columns_of_isPlain hspan, hlength]

namespace Text

theorem sanitize_of_isPlain {cs : List Char} (h : ∀ c ∈ cs, isPlain c = true) :
    sanitize cs = cs := by
  apply sanitize_of_forall
  intro c hc
  have hplain := h c hc
  refine ⟨?_, ?_, ?_⟩
  all_goals
    rintro rfl
    exact absurd hplain (by decide)

end Text

theorem ShownLine.rows_printable {line : ShownLine} (h : ∀ c ∈ line.source, isPrintable c = true)
    {width : Nat} (hwidth : 0 < width) :
    ∀ row ∈ line.rows width, (∀ c ∈ row, isPrintable c = true) ∧ row.length ≤ width := by
  rw [rows, sanitize_of_isPlain fun c hc => isPlain_of_isPrintable (h c hc)]
  split
  · intro row hrow
    exact ⟨fun c hc => h c ((pieces_wrapWords _ width).mem hrow hc),
      length_le_of_mem_wrapWords hwidth h hrow⟩
  · intro row hrow
    have hprintable : ∀ c ∈ row, isPrintable c = true :=
      fun c hc => h c ((pieces_wrapColumns isBlank _ width).mem hrow hc)
    refine ⟨hprintable,
      length_le_of_isWithin hwidth ?_ ((isGreedy_breakColumns _).within row hrow)⟩
    exact fun c hc => isPlain_of_isPrintable (hprintable c hc)

theorem isPrintable_of_mem_lines {cs line : List Char} (h : ∀ c ∈ cs, isPrintableOrBreak c = true)
    (hline : line ∈ lines cs) : ∀ c ∈ line, isPrintable c = true := by
  intro c hc
  have hkind := h c ((pieces_lines cs).mem hline hc)
  have hbreak : c ≠ '\n' := by
    rintro rfl
    exact not_mem_of_mem_lines hline hc
  simpa [isPrintableOrBreak, hbreak] using hkind

namespace CellFrame

theorem arePlain_fitSpans {spans : List StyledSpan} (h : ArePlain spans) (budget : Nat) :
    ArePlain (fitSpans budget spans) := by
  induction spans generalizing budget with
  | nil => exact h
  | cons span rest ih =>
      obtain ⟨hspan, hrest⟩ := arePlain_cons.mp h
      rw [fitSpans, sanitize_of_isPlain hspan]
      split
      · exact arePlain_cons.mpr ⟨by simpa using hspan, ih hrest _⟩
      · have hclip : ConsistsOf isPlain (.ofList (clip (budget - 1) span.text.toList)) :=
          consistsOf_ofList.mpr fun c hc => hspan c ((prefix_clip _ _).subset hc)
        have hellipsis : ConsistsOf isPlain "…" := by decide
        simp [hclip, hellipsis, ArePlain]

/-- Pieces take no more columns than there is room for them, unless they fill the room early; then
the ellipsis takes one more. -/
theorem spanColumns_fitSpans {spans : List StyledSpan} (h : ArePlain spans) (budget : Nat) :
    spanColumns (fitSpans budget spans) ≤ budget + 1 ∧
      (spanColumns (fitSpans budget spans) ≤ budget ↔ ¬ IsFilledEarly budget spans) := by
  induction spans generalizing budget with
  | nil => simp [fitSpans, IsFilledEarly]
  | cons span rest ih =>
      obtain ⟨hspan, hrest⟩ := arePlain_cons.mp h
      have hsize := columns_of_isPlain hspan
      rw [fitSpans, sanitize_of_isPlain hspan, isFilledEarly_cons_iff]
      split
      · next hfits =>
          obtain ⟨hle, hiff⟩ := ih hrest (budget - Text.columns span.text.toList)
          have hzero : ¬ (budget = 0 ∧ span.text ≠ "") := by
            rintro ⟨rfl, hfilled⟩
            exact hfilled (by simpa [hsize] using hfits)
          rw [or_iff_right hzero, not_and_or, ← hiff]
          simp only [spanColumns_cons, String.ofList_toList]
          omega
      · next hwide =>
          have hfilled : span.text ≠ "" := by
            intro hempty
            simp [hempty, Text.columns, Text.measure] at hwide
          have hclip : Text.columns (clip (budget - 1) span.text.toList) = budget - 1 := by
            rw [clip_of_isPlain hspan,
              columns_of_isPlain fun c hc => hspan c (List.mem_of_mem_take hc), List.length_take]
            omega
          have hellipsis : Text.columns "…".toList = 1 := by decide +kernel
          rw [spanColumns_cons, spanColumns_cons, spanColumns_nil, String.toList_ofList,
            hclip, hellipsis]
          simp only [hfilled, ne_eq, not_false_eq_true, and_true]
          omega

/-- The columns that the rows of a frame may take. -/
def rowColumns (frame : CellFrame) : Nat :=
  Text.columns frame.indent.toList + 2 + frame.width

section Printable

variable {frame : CellFrame} (hindent : ConsistsOf isPrintable frame.indent)

include hindent

theorem columns_line {lead : String} (hlead : lead = marker ∨ lead = noMarker)
    {spans : List StyledSpan} (h : ArePlain spans) :
    (⟨⟨frame.indent ++ lead, .guide⟩ :: spans⟩ : StyledLine).columns =
      Text.columns frame.indent.toList + 2 + spanColumns spans := by
  have hplain : ConsistsOf isPlain frame.indent := hindent.plain
  have hlead' : ConsistsOf isPlain lead ∧ lead.toList.length = 2 := by
    rcases hlead with rfl | rfl <;> decide
  have hboth : ConsistsOf isPlain (frame.indent ++ lead) :=
    consistsOf_append.mpr ⟨hplain, hlead'.1⟩
  rw [columns_eq_spanColumns (arePlain_cons.mpr ⟨hboth, h⟩), spanColumns_cons,
    columns_of_isPlain hboth, columns_of_isPlain hplain, String.toList_append, List.length_append,
    hlead'.2]

theorem columns_row_le {lead : String} (hlead : lead = marker ∨ lead = noMarker) (style : Style)
    {text : List Char} (htext : ∀ c ∈ text, isPrintable c = true)
    (hlength : text.length ≤ frame.width) :
    (frame.row lead style text).columns ≤ frame.rowColumns := by
  have hspans : ArePlain [⟨.ofList text, style⟩] := by
    simpa [ArePlain] using fun c hc => isPlain_of_isPrintable (htext c hc)
  rw [row, columns_line hindent hlead hspans, rowColumns, spanColumns_cons, spanColumns_nil,
    String.toList_ofList, columns_of_isPrintable htext]
  omega

theorem columns_note {spans : List StyledSpan} (h : ArePlain spans) :
    (frame.note spans).columns =
      Text.columns frame.indent.toList + 2 + spanColumns (fitSpans frame.width spans) :=
  columns_line hindent (.inr rfl) (arePlain_fitSpans h frame.width)

theorem columns_note_le {spans : List StyledSpan} (h : ArePlain spans) :
    (frame.note spans).columns ≤ frame.rowColumns + 1 ∧
      ((frame.note spans).columns ≤ frame.rowColumns ↔ ¬ IsFilledEarly frame.width spans) := by
  obtain ⟨hle, hiff⟩ := spanColumns_fitSpans h frame.width
  rw [columns_note hindent h, rowColumns, ← hiff]
  omega

variable (hwidth : 0 < frame.width)

include hwidth

theorem columns_note_singleton_le {text : String} (h : ConsistsOf isPlain text) (style : Style) :
    (frame.note [⟨text, style⟩]).columns ≤ frame.rowColumns := by
  have hspans : ArePlain [⟨text, style⟩] := by simpa [ArePlain] using h
  rw [(columns_note_le hindent hspans).2, isFilledEarly_cons_iff]
  rintro (⟨hzero, -⟩ | ⟨-, shown, next, rest, hsplit, -⟩)
  · omega
  · simp at hsplit

theorem columns_header_le {title : String} (h : ConsistsOf isPrintable title) (style : Style) :
    ∀ line ∈ frame.header title style, line.columns ≤ frame.rowColumns := by
  have hrows : ∀ row ∈ wrapWords (sanitize title.toList) frame.width,
      (∀ c ∈ row, isPrintable c = true) ∧ row.length ≤ frame.width :=
    (⟨title.toList, true⟩ : ShownLine).rows_printable h hwidth
  intro line hline
  rw [header] at hline
  split at hline
  · simp at hline
  · next first rest hwrapped =>
      rw [hwrapped, List.forall_mem_cons] at hrows
      obtain ⟨⟨hfirst, hlength⟩, hrest⟩ := hrows
      rcases List.mem_cons.mp hline with rfl | hline
      · exact columns_row_le hindent (.inl rfl) style hfirst hlength
      · obtain ⟨row, hmem, rfl⟩ := List.mem_map.mp hline
        exact columns_row_le hindent (.inr rfl) style (hrest row hmem).1 (hrest row hmem).2

theorem columns_lines_le {cs : List Char} (h : ∀ c ∈ cs, isPrintableOrBreak c = true)
    (prose : Bool) (style : Style) :
    ∀ row ∈ (if allBlank cs then []
        else (lines cs).flatMap fun line =>
          ((⟨line, prose⟩ : ShownLine).rows frame.width).map (frame.row noMarker style)),
      row.columns ≤ frame.rowColumns := by
  intro row hrow
  split at hrow
  · simp at hrow
  · obtain ⟨line, hline, hrow⟩ := List.mem_flatMap.mp hrow
    obtain ⟨text, htext, rfl⟩ := List.mem_map.mp hrow
    obtain ⟨hprintable, hlength⟩ :=
      ShownLine.rows_printable (isPrintable_of_mem_lines h hline) hwidth text htext
    exact columns_row_le hindent (.inr rfl) style hprintable hlength

theorem columns_prose_le {text : String} (h : ConsistsOf isPrintableOrBreak text)
    (style : Style) :
    ∀ row ∈ frame.prose text style, row.columns ≤ frame.rowColumns :=
  columns_lines_le hindent hwidth h true style

theorem columns_raw_le {cs : List Char} (h : ∀ c ∈ cs, isPrintableOrBreak c = true)
    (style : Style) :
    ∀ row ∈ frame.raw cs style, row.columns ≤ frame.rowColumns :=
  columns_lines_le hindent hwidth h false style

theorem columns_preview_le {text : String} (h : ConsistsOf isPrintableOrBreak text) (limit : Nat)
    (style : Style) : ∀ row ∈ frame.preview text limit style, row.columns ≤ frame.rowColumns := by
  have hshown : ∀ c ∈ unlines ((lines text.toList).take limit), isPrintableOrBreak c = true := by
    refine forall_mem_unlines (fun line hline c hc => ?_) (by decide)
    exact h c ((pieces_lines text.toList).mem (List.mem_of_mem_take hline) hc)
  have hnote : ∀ (hidden : Nat) (noun : String), ConsistsOf isPlain noun →
      ConsistsOf isPlain ("… " ++ toString hidden ++ " more " ++ noun) := by
    intro hidden noun hnoun
    simp only [consistsOf_append]
    exact ⟨⟨⟨by decide, (consistsOf_toString_nat hidden).plain⟩, by decide⟩, hnoun⟩
  rw [preview]
  split
  · simp
  · refine List.forall_mem_append.mpr ⟨columns_raw_le hindent hwidth hshown style, ?_⟩
    split
    · simp
    · rw [List.forall_mem_singleton]
      refine columns_note_singleton_le hindent hwidth (hnote _ _ ?_) .truncation
      split <;> decide

end Printable

end CellFrame

namespace Event

open CellFrame

variable {frame : CellFrame} {event : Event} {options : CellOptions}

theorem arePlain_intersperse {pieces : List StyledSpan} (h : ArePlain pieces)
    {between : StyledSpan}
    (hbetween : ConsistsOf isPlain between.text) : ArePlain (pieces.intersperse between) := by
  induction pieces with
  | nil => exact h
  | cons piece pieces ih =>
      obtain ⟨hpiece, hrest⟩ := arePlain_cons.mp h
      cases pieces with
      | nil => exact h
      | cons next pieces =>
          rw [List.intersperse_cons_cons, arePlain_cons, arePlain_cons]
          exact ⟨hpiece, hbetween, ih hrest⟩

theorem arePlain_argumentSummary {arguments : Members}
    (h : AllConsistOf isPrintable (Json.memberStrings arguments)) :
    ArePlain (argumentSummary arguments) := by
  have hnames : ArePlain (arguments.map fun member => ⟨member.1, .toolArgs⟩) := by
    refine List.forall_mem_map.mpr fun member hmember => ?_
    exact (h.of_mem_keys hmember).plain
  have hcount : ConsistsOf isPlain (toString arguments.length) :=
    (consistsOf_toString_nat _).plain
  have hlast : ∀ noun, ConsistsOf isPlain noun →
      ConsistsOf isPlain (" (" ++ toString arguments.length ++ " " ++ noun ++ ")") := by
    intro noun hnoun
    simp only [consistsOf_append]
    exact ⟨⟨⟨⟨by decide, hcount⟩, by decide⟩, hnoun⟩, by decide⟩
  rw [argumentSummary, List.cons_append, arePlain_cons]
  refine ⟨by decide, List.forall_mem_append.mpr ⟨arePlain_intersperse hnames (by decide), ?_⟩⟩
  exact List.forall_mem_singleton.mpr (hlast _ (by split <;> decide))

theorem arePlain_summaryPieces (h : AllConsistOf isPrintable event.strings)
    (options : CellOptions) :
    ArePlain (event.summaryPieces options) := by
  rw [summaryPieces.eq_def]
  split
  · split
    · simp [ArePlain]
    · exact arePlain_argumentSummary (allConsistOf_strings_tool h).1
  · simp [ArePlain]

theorem note_mem_bodyRows (h : event.summaryPieces options ≠ []) :
    frame.note (event.summaryPieces options) ∈ event.bodyRows frame options := by
  cases event with
  | tool id function arguments view result failure =>
      rw [summaryPieces] at h ⊢
      split at h
      · exact absurd rfl h
      · next hdrawn =>
          rw [if_neg hdrawn]
          simp only [Bool.or_eq_true, not_or] at hdrawn
          simp [bodyRows, hdrawn.1, hdrawn.2]
  | _ => exact absurd rfl h

section Fits

variable (hindent : ConsistsOf isPrintable frame.indent) (hwidth : 0 < frame.width)

include hindent hwidth

theorem columns_prose_all_le {texts : List String} (h : AllConsistOf isPrintableOrBreak texts)
    (style : Style) :
    ∀ row ∈ texts.flatMap (frame.prose · style), row.columns ≤ frame.rowColumns :=
  List.forall_mem_flatMap.mpr fun text htext =>
    columns_prose_le hindent hwidth (h text htext) style

theorem columns_signatures_le {calls : List ToolCall}
    (h : AllConsistOf isPrintableOrBreak (calls.map ToolCall.signature)) (style : Style) :
    ∀ row ∈ calls.flatMap (fun call => frame.raw call.signature.toList style),
      row.columns ≤ frame.rowColumns :=
  List.forall_mem_flatMap.mpr fun call hcall =>
    columns_raw_le hindent hwidth (allConsistOf_map.mp h call hcall) style

theorem columns_bodyRows_le (h : AllConsistOf isPrintable event.strings)
    (htool : ∀ id function arguments view result failure,
      event ≠ .tool id function arguments view result failure) :
    ∀ row ∈ event.bodyRows frame options, row.columns ≤ frame.rowColumns := by
  have hfields := allConsistOf_fields h
  cases event with
  | tool id function arguments view result failure =>
      exact absurd rfl (htool id function arguments view result failure)
  | model name role history output failure =>
      simp only [fields, List.cons_append, allConsistOf_cons, allConsistOf_append] at hfields
      obtain ⟨hcompletion, hcalls, hfailure⟩ := hfields
      simp only [bodyRows, List.forall_mem_append]
      exact ⟨⟨columns_prose_le hindent hwidth hcompletion .assistant,
        columns_signatures_le hindent hwidth hcalls .toolArgs⟩,
        columns_prose_all_le hindent hwidth hfailure .error⟩
  | error detail =>
      simp only [fields, allConsistOf_cons] at hfields
      simp only [bodyRows, List.forall_mem_append]
      exact ⟨columns_prose_le hindent hwidth hfields.1 .error,
        columns_raw_le hindent hwidth hfields.2.1 .muted⟩
  | message chat =>
      simp only [fields, allConsistOf_cons] at hfields
      simp only [bodyRows, List.forall_mem_append]
      exact ⟨columns_prose_le hindent hwidth hfields.1 chat.role.style,
        columns_signatures_le hindent hwidth hfields.2 .toolArgs⟩
  | sampleInit sample =>
      simp only [fields, allConsistOf_cons] at hfields
      obtain ⟨hinput, htarget, -⟩ := hfields
      have hheading : ConsistsOf isPlain "target:" := by decide
      simp only [bodyRows, List.forall_mem_append]
      refine ⟨columns_prose_le hindent hwidth hinput .user, ?_⟩
      split
      · simp
      · rw [List.forall_mem_cons]
        exact ⟨columns_note_singleton_le hindent hwidth hheading .label,
          columns_prose_le hindent hwidth htarget .muted⟩
  | sandbox action command output =>
      obtain ⟨hcommand, houtput⟩ := allConsistOf_append.mp hfields
      simp only [bodyRows, List.forall_mem_append, List.forall_mem_flatMap]
      exact ⟨fun text htext => columns_raw_le hindent hwidth (hcommand text htext) .toolArgs,
        fun text htext =>
          columns_preview_le hindent hwidth (houtput text htext) options.previewLines .toolOutput⟩
  | unknown => simp [bodyRows]
  | _ =>
      simp only [bodyRows, drop_one_texts, flatMap_prose_filter]
      exact columns_prose_all_le hindent hwidth hfields .plain

theorem columns_tool_le_or {id function : String} {arguments : Members} {view : Option ToolView}
    {result : Json.Value} {failure : Option ToolError}
    (h : AllConsistOf isPrintable (tool id function arguments view result failure).strings) :
    ∀ row ∈ (tool id function arguments view result failure).bodyRows frame options,
      row.columns ≤ frame.rowColumns ∨
        row = frame.note
          ((tool id function arguments view result failure).summaryPieces options) := by
  obtain ⟨harguments, hview, hresult, hfailure⟩ := allConsistOf_strings_tool h
  have hwritten := (Json.consistsOf_print (.object arguments) harguments).printableOrBreak
  have hshown := consistsOf_toolResultText hresult
  simp only [bodyRows, List.forall_mem_append]
  refine ⟨⟨⟨?arguments, ?view⟩, fun row hrow => .inl ?result⟩, fun row hrow => .inl ?failure⟩
  case arguments =>
    rw [summaryPieces]
    split
    · simp
    · next hsome =>
        split
        · exact fun row hrow => .inl (columns_raw_le hindent hwidth hwritten .toolArgs row hrow)
        · next hnames => simp [hsome, hnames]
  case view =>
    split
    · next filled hfilled =>
        have hstrings := hview filled hfilled
        rw [ToolView.strings, allConsistOf_append, allConsistOf_cons] at hstrings
        obtain ⟨htitle, hcontent, -⟩ := hstrings
        rw [List.forall_mem_append, List.forall_mem_map]
        refine ⟨fun title hmem => .inl ?_, fun row hrow => .inl ?_⟩
        · exact columns_note_singleton_le hindent hwidth (htitle title hmem).plain .title
        · exact columns_prose_le hindent hwidth hcontent.printableOrBreak .plain row hrow
    · simp
  case result =>
    exact columns_preview_le hindent hwidth hshown options.previewLines .toolOutput row hrow
  case failure =>
    have hrows := columns_prose_all_le hindent hwidth hfailure.printableOrBreak .error
    rw [Option.toList_map, List.flatMap_map] at hrows
    exact hrows row hrow

theorem columns_bodyRows_le_or (h : AllConsistOf isPrintable event.strings)
    (options : CellOptions) :
    ∀ row ∈ event.bodyRows frame options, row.columns ≤ frame.rowColumns ∨
      row = frame.note (event.summaryPieces options) := by
  cases event with
  | tool id function arguments view result failure => exact columns_tool_le_or hindent hwidth h
  | _ =>
      intro row hrow
      exact .inl (columns_bodyRows_le hindent hwidth h (by simp) row hrow)

end Fits

end Event

theorem Event.consistsOf_drawnTitle {event : Event} (h : AllConsistOf isPrintable event.strings) :
    ConsistsOf isPrintable event.drawnTitle := by
  rw [drawnTitle.eq_def]
  split
  · decide
  · exact consistsOf_title h

namespace CellFrame

theorem toList_levelIndent (levels : Nat) :
    (String.join (List.replicate levels levelIndent)).toList =
      List.replicate (2 * levels) ' ' := by
  rw [String.toList_join]
  induction levels with
  | zero => rfl
  | succ levels ih =>
      rw [List.replicate_succ, List.flatMap_cons, ih, Nat.mul_succ, Nat.add_comm,
        List.replicate_add]
      rfl

theorem consistsOf_indent (depth width : Nat) :
    ConsistsOf isPrintable (new depth width).indent := by
  intro c hc
  rw [new, toList_levelIndent] at hc
  rw [List.eq_of_mem_replicate hc]
  rfl

variable {depth width : Nat} (h : 2 * min depth 8 + 12 ≤ width)

theorem columns_indent : Text.columns (new depth width).indent.toList = 2 * min depth 8 := by
  rw [columns_of_isPrintable (consistsOf_indent depth width), new, toList_levelIndent,
    List.length_replicate]
  rfl

include h

theorem width_new : (new depth width).width = width - (2 * min depth 8 + 2) := by
  have hmarker : Text.columns marker.toList = 2 := by decide +kernel
  change max (width - (Text.columns (new depth width).indent.toList + Text.columns marker.toList))
    minWidth = _
  rw [columns_indent, hmarker, minWidth]
  omega

theorem rowColumns_new : (new depth width).rowColumns = width := by
  rw [rowColumns, columns_indent, width_new h]
  omega

end CellFrame

namespace Item

open CellFrame

/-- The rows of an item whose strings are printable keep within the screen, unless names of
arguments fill their row early; then that row, and no other, takes one column more than the screen
has. -/
theorem columns_render_le_iff (item : Item) (width : Nat) (options : CellOptions)
    (hprintable : AllConsistOf isPrintable item.event.strings)
    (hwidth : 2 * min item.depth 8 + 12 ≤ width) :
    (∀ line ∈ (item.render width options).lines, width < line.columns →
        line = (new item.depth width).note (item.event.summaryPieces options) ∧
        line.columns = width + 1) ∧
      ((∀ line ∈ (item.render width options).lines, line.columns ≤ width) ↔
        ¬ IsFilledEarly (width - (2 * min item.depth 8 + 2))
          (item.event.summaryPieces options)) := by
  have hindent := consistsOf_indent item.depth width
  have hroom := width_new hwidth
  have hpositive : 0 < (new item.depth width).width := by omega
  have hheader := columns_header_le hindent hpositive (Event.consistsOf_drawnTitle hprintable)
    item.event.titleStyle
  have hbody := Event.columns_bodyRows_le_or hindent hpositive hprintable options
  obtain ⟨hle, hiff⟩ := columns_note_le hindent (Event.arePlain_summaryPieces hprintable options)
  rw [rowColumns_new hwidth] at hheader hbody hle hiff
  rw [hroom] at hiff
  have hrows : ∀ line ∈ (item.render width options).lines, line.columns ≤ width ∨
      line = (new item.depth width).note (item.event.summaryPieces options) :=
    List.forall_mem_append.mpr ⟨fun line hline => .inl (hheader line hline), hbody⟩
  constructor
  · intro line hline hwide
    obtain rfl := (hrows line hline).resolve_left (by omega)
    exact ⟨rfl, by omega⟩
  · constructor
    · intro hfits hearly
      have hpieces : item.event.summaryPieces options ≠ [] := by
        obtain ⟨shown, next, rest, hsplit, -⟩ := hearly
        simp [hsplit]
      have hnote : (new item.depth width).note (item.event.summaryPieces options) ∈
          (item.render width options).lines :=
        List.mem_append_right _ (Event.note_mem_bodyRows hpieces)
      exact hiff.mp (hfits _ hnote) hearly
    · intro hroomy line hline
      rcases hrows line hline with hfits | rfl
      · exact hfits
      · exact hiff.mpr hroomy

/-- A call with a presentation and two arguments, whose names are cut in the middle of the second
one. -/
def readCall : Item where
  id := "item-1"
  depth := 1
  timestamp := none
  event := .tool "call-1" "read_file"
    [("path", .string "src/lib.rs"), ("line_numbers", .array [.number (.int 1), .bool true])]
    (some ⟨some "Read \x7b\x7bpath\x7d\x7d", .text, "reading \x7b\x7bpath\x7d\x7d"⟩)
    (.string "the first line of the file, which is long") none

theorem readCall_columns_le :
    (∃ line ∈ (readCall.render 20 ⟨5, false⟩).lines, line.text = "    args: path, lin…") ∧
      ∀ line ∈ (readCall.render 20 ⟨5, false⟩).lines, line.columns ≤ 20 := by
  have hprintable : AllConsistOf isPrintable readCall.event.strings := by decide +kernel
  have hroomy : ¬ IsFilledEarly 16 (readCall.event.summaryPieces ⟨5, false⟩) := by decide +kernel
  have hwidth : 2 * min readCall.depth 8 + 12 ≤ 20 := by decide
  exact ⟨by decide +kernel,
    (columns_render_le_iff readCall 20 ⟨5, false⟩ hprintable hwidth).2.mpr hroomy⟩

/-- A call whose one argument has a name that fills the row to the last column. -/
def filledCall : Item where
  id := "item-1"
  depth := 0
  timestamp := none
  event := .tool "call-1" "f" [("path", .string "x")] none (.string "") none

/-- The screen has just the width that is asked for, and the row of the names is one column
wider. -/
theorem filledCall_columns_gt :
    AllConsistOf isPrintable filledCall.event.strings ∧ 2 * min filledCall.depth 8 + 12 ≤ 12 ∧
      ∃ line ∈ (filledCall.render 12 ⟨5, false⟩).lines,
        line.text = "  args: path…" ∧ line.columns = 13 := by
  decide +kernel

end Item

end TranscriptSearch
