import TranscriptSearch.Proofs.Screen.ShownTexts

namespace TranscriptSearch

open Text

/-- The names of arguments that are drawn in place of the arguments in full. -/
def Event.drawnNames (options : CellOptions) : Event → List String
  | .tool _ _ arguments _ _ _ => if options.expandArguments then [] else arguments.map Prod.fst
  | _ => []

/-- Whether an event is drawn as it stands: no line of it has an escape, a carriage return or a
tab, and names of arguments are drawn just as they are written in the data. -/
structure Event.IsDrawnVerbatim (options : CellOptions) (event : Event) : Prop where
  lines : ∀ text ∈ event.shown options, ∀ line ∈ text.lines, ∀ c ∈ line.source,
    c ≠ '\x1b' ∧ c ≠ '\r' ∧ c ≠ '\t'
  names : ∀ name ∈ event.drawnNames options, ∀ c ∈ name.toList, Json.escapeChar c = [c]

instance (options : CellOptions) (event : Event) : Decidable (event.IsDrawnVerbatim options) :=
  let plain (c : Char) : Bool := c != '\x1b' && c != '\r' && c != '\t'
  let linesPlain := (event.shown options).all fun text =>
    text.lines.all fun line => line.source.all plain
  let namesPlain := (event.drawnNames options).all fun name =>
    name.toList.all fun c => Json.escapeChar c == [c]
  decidable_of_decidable_of_iff (p := (linesPlain && namesPlain) = true) <| by
    simp only [linesPlain, namesPlain, plain, Bool.and_eq_true, List.all_eq_true, bne_iff_ne,
      beq_iff_eq, and_assoc]
    exact ⟨fun h => ⟨h.1, h.2⟩, fun h => ⟨h.lines, h.names⟩⟩

namespace Text

theorem sanitize_of_forall {cs : List Char} (h : ∀ c ∈ cs, c ≠ '\x1b' ∧ c ≠ '\r' ∧ c ≠ '\t') :
    sanitize cs = cs := by
  induction cs with
  | nil => rfl
  | cons c cs ih =>
      obtain ⟨hescape, hreturn, htab⟩ := h c (by simp)
      have hrest := ih fun c hc => h c (by simp [hc])
      rw [sanitize] at hrest ⊢
      simp [hrest, hescape, hreturn, htab]

end Text

namespace ShownLine

theorem pieces_map_text {shown : List ShownLine} {data : List Char}
    (h : ∀ line ∈ shown, ∀ c ∈ line.source, c ≠ '\x1b' ∧ c ≠ '\r' ∧ c ≠ '\t')
    (hsources : Pieces (fun _ => true) (shown.map ShownLine.source) data) :
    Pieces (fun _ => true) (shown.map ShownLine.text) data := by
  induction shown generalizing data with
  | nil => exact hsources
  | cons line shown ih =>
      have hline : Pieces (fun _ => true) [line.text] line.source := by
        rw [text, sanitize_of_forall (h line (by simp))]
        split
        · exact (pieces_trim _).mono (by simp)
        · exact .single _ _
      cases hsources with
      | cons gap source hgap hrest =>
          have htexts := ih (fun line hline => h line (by simp [hline])) hrest
          exact (hline.append htexts).prepend hgap

end ShownLine

namespace ShownText

/-- Whether the lines of a text that are drawn are pieces of its data. -/
def IsCut (text : ShownText) : Prop :=
  Pieces (fun _ => true) (text.lines.map ShownLine.source) text.data.toList

@[simp] theorem isCut_heading (prose : Bool) (text : String) : (heading prose text).IsCut :=
  .single _ _

theorem pieces_shownLines (prose : Bool) (cs : List Char) :
    Pieces (fun _ => true) ((shownLines prose cs).map ShownLine.source) cs := by
  rw [shownLines]
  split
  · exact .nil (by simp)
  · simpa [Function.comp_def] using (pieces_lines cs).mono (by simp)

@[simp] theorem isCut_whole (prose : Bool) (text : String) : (whole prose text).IsCut :=
  pieces_shownLines prose text.toList

@[simp] theorem isCut_preview (limit : Nat) (text : String) : (preview limit text).IsCut := by
  rw [IsCut, preview, previewLines]
  split
  · exact .nil (by simp)
  · have hfirst := ((pieces_lines text.toList).mono (by simp)).take limit
    have hjoined := pieces_lines_unlines (by simp)
      (fun line hline => not_mem_of_mem_lines (List.mem_of_mem_take hline)) hfirst
    rw [shownLines]
    split
    · exact .nil (by simp)
    · simpa [Function.comp_def] using hjoined

theorem toList_printString {name : String} (h : ∀ c ∈ name.toList, Json.escapeChar c = [c]) :
    (Json.printString name).toList = '"' :: (name.toList ++ ['"']) := by
  have hname : name.toList.flatMap Json.escapeChar = name.toList := by
    generalize name.toList = cs at h
    induction cs with
    | nil => rfl
    | cons c cs ih =>
        rw [List.flatMap_cons, h c (by simp), ih fun c hc => h c (by simp [hc])]
        rfl
  simp [Json.printString, hname]

theorem pieces_printMember {member : String × Json.Value}
    (h : ∀ c ∈ member.1.toList, Json.escapeChar c = [c]) {pieces : List (List Char)}
    {rest : List Char} (hrest : Pieces (fun _ => true) pieces rest) :
    Pieces (fun _ => true) (member.1.toList :: pieces)
      ((Json.printString member.1 ++ ":" ++ member.2.print).toList ++ rest) := by
  have hname : Pieces (fun _ => true) [member.1.toList] (Json.printString member.1).toList := by
    rw [toList_printString h]
    exact .cons ['"'] _ (by simp) (.nil (by simp))
  have hvalue : Pieces (fun _ => true) pieces ((":" ++ member.2.print).toList ++ rest) :=
    hrest.behind _
  simpa [List.append_assoc] using hname.append hvalue

theorem pieces_printMembers {members : Members}
    (h : ∀ member ∈ members, ∀ c ∈ member.1.toList, Json.escapeChar c = [c]) :
    Pieces (fun _ => true) (members.map (·.1.toList)) (Json.printMembers members).toList := by
  induction members with
  | nil => exact .nil (by simp)
  | cons member members ih =>
      have hrest := ih fun member hmember => h member (by simp [hmember])
      have hmember := (pieces_printMember (h member (by simp)) hrest).behind [',']
      simpa [Json.printMembers, List.append_assoc] using hmember

theorem isCut_names {arguments : Members}
    (h : ∀ name ∈ arguments.map Prod.fst, ∀ c ∈ name.toList, Json.escapeChar c = [c]) :
    (names arguments).IsCut := by
  have hnames : ∀ member ∈ arguments, ∀ c ∈ member.1.toList, Json.escapeChar c = [c] :=
    fun member hmember => h member.1 (List.mem_map_of_mem hmember)
  have hpieces : Pieces (fun _ => true) (arguments.map (·.1.toList))
      (Json.Value.object arguments).print.toList := by
    cases arguments with
    | nil => exact .nil (by simp)
    | cons member members =>
        have hclose : Pieces (fun _ => true) [] ['\x7d'] := .nil (by simp)
        have hrest := (pieces_printMembers fun member hmember =>
          hnames member (List.mem_cons_of_mem _ hmember)).append hclose
        have hmember := (pieces_printMember (hnames member (by simp)) hrest).behind ['\x7b']
        simpa [Json.Value.print, List.append_assoc] using hmember
  simpa [IsCut, names, nameLines, Function.comp_def] using hpieces

end ShownText

namespace Event

theorem isCut_of_mem_shownFields {options : CellOptions} {event : Event}
    (h : ∀ name ∈ event.drawnNames options, ∀ c ∈ name.toList, Json.escapeChar c = [c]) :
    ∀ text ∈ event.shownFields options, text.IsCut := by
  cases event with
  | tool id function arguments view result failure =>
      have harguments : ∀ text ∈ shownArguments options arguments, text.IsCut := by
        rw [shownArguments]
        split
        · simp
        · split
          · simp
          · next hcollapsed =>
              rw [drawnNames, if_neg hcollapsed] at h
              simpa using ShownText.isCut_names h
      have hview : ∀ view : Option ToolView, ∀ text ∈ shownView view, text.IsCut := by
        rintro (_ | view)
        · simp [shownView]
        · simp [shownView, or_imp, forall_and]
      intro text htext
      simp only [shownFields, List.mem_append, List.mem_cons, List.mem_map] at htext
      rcases htext with (htext | htext) | rfl | ⟨failure, -, rfl⟩
      · exact harguments text htext
      · exact hview _ text htext
      · exact ShownText.isCut_preview _ _
      · exact ShownText.isCut_whole _ _
  | _ => simp [shownFields, or_imp, forall_and]

theorem isCut_of_mem_shown {options : CellOptions} {event : Event}
    (h : ∀ name ∈ event.drawnNames options, ∀ c ∈ name.toList, Json.escapeChar c = [c])
    {text : ShownText} (htext : text ∈ event.shown options) : text.IsCut := by
  have hfields := isCut_of_mem_shownFields h
  cases event with
  | unknown => simp [shown] at htext
  | _ =>
      rcases List.mem_cons.mp htext with rfl | htext
      · exact ShownText.isCut_heading true _
      · exact hfields text htext

end Event

end TranscriptSearch
