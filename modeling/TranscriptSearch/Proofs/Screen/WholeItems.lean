import TranscriptSearch.Proofs.Match.WordMatches
import TranscriptSearch.Proofs.Screen.MatchedRows
import TranscriptSearch.Proofs.Screen.RenderedCount

namespace TranscriptSearch

open Text

namespace ShownText

/-- Whether the lines of a text that are drawn hold what the text holds. -/
def IsWhole (term : SearchTerm) (text : ShownText) : Prop :=
  term.matchedChars (text.lines.map ShownLine.source) = term.matchedIn text.data

variable {term : SearchTerm} (hterm : term.IsWord)

theorem isWhole_heading (term : SearchTerm) (prose : Bool) (text : String) :
    (heading prose text).IsWhole term := by
  simp [IsWhole, heading]

include hterm

theorem matchedChars_shownLines (prose : Bool) (cs : List Char) :
    term.matchedChars ((shownLines prose cs).map ShownLine.source) =
      term.matchedIn (.ofList cs) := by
  rw [shownLines]
  split
  · next hblank =>
      rw [hterm.matchedIn_of_blank (List.all_eq_true.mp hblank)]
      rfl
  · rw [List.map_map, ← hterm.matchedChars_lines]
    simp [Function.comp_def]

theorem isWhole_whole (prose : Bool) (text : String) : (whole prose text).IsWhole term := by
  have hlines := matchedChars_shownLines hterm prose text.toList
  rwa [String.ofList_toList] at hlines

theorem isWhole_preview {limit : Nat} {text : String}
    (h : (Text.lines text.toList).length ≤ limit) :
    (preview limit text).IsWhole term := by
  rw [IsWhole, preview, previewLines, List.take_of_length_le h]
  split
  · next hblank =>
      have hnone := hterm.matchedIn_of_blank (List.all_eq_true.mp hblank)
      rw [String.ofList_toList] at hnone
      rw [hnone]
      rfl
  · rw [matchedChars_shownLines hterm, hterm.matchedIn_unlines, hterm.matchedChars_lines,
      String.ofList_toList]

theorem IsWhole.matchedChars_lines {text : ShownText} (h : text.IsWhole term) (hcut : text.IsCut)
    (hplain : ∀ c ∈ text.data.toList, c ≠ '\x1b' ∧ c ≠ '\r' ∧ c ≠ '\t') :
    term.matchedChars (text.lines.map ShownLine.text) = term.matchedIn text.data := by
  rw [← h]
  have hline : ∀ line ∈ text.lines,
      term.matchedIn (.ofList line.text) = term.matchedIn (.ofList line.source) := by
    intro line hline
    have hsource : sanitize line.source = line.source := by
      apply sanitize_of_forall
      intro c hc
      exact hplain c (hcut.mem (List.mem_map_of_mem hline) hc)
    rw [ShownLine.text, hsource]
    split
    · exact hterm.matchedIn_trim _
    · rfl
  rw [SearchTerm.matchedChars, SearchTerm.matchedChars, List.flatMap_map, List.flatMap_map,
    List.flatMap_def, List.flatMap_def, List.map_congr_left hline]

end ShownText

theorem matchedTexts_filledTexts (term : SearchTerm) (texts : List (List Char)) :
    term.matchedTexts (filledTexts texts) = term.matchedChars texts := by
  rw [SearchTerm.matchedTexts_eq_flatMap]
  induction texts with
  | nil => rfl
  | cons text texts ih =>
      cases text with
      | nil => simpa [filledTexts] using ih
      | cons c cs => simpa [filledTexts] using ih

namespace Event

def previewLength : Event → Nat
  | .tool _ _ _ _ result _ => (lines (toolResultText result).toList).length
  | .sandbox _ _ (some output) => (lines output.toList).length
  | _ => 0

theorem filter_map_data_shown (event : Event) (options : CellOptions) :
    ((event.shown options).map ShownText.data).filter (· ≠ "") = event.texts := by
  have htexts : (event.title :: (event.shownFields options).map ShownText.data).filter (· ≠ "") =
      (event.title :: event.fields).filter (· ≠ "") := by
    rw [map_data_shownFields]
  cases event with
  | unknown => rfl
  | spanEnd => rfl
  | _ => exact htexts

theorem flatMap_data_shown (event : Event) (options : CellOptions) (term : SearchTerm) :
    (event.shown options).flatMap (fun text => term.matchedIn text.data) =
      term.matchedTexts event.texts := by
  have hfilter : ∀ texts : List String,
      (texts.filter (· ≠ "")).flatMap term.matchedIn = texts.flatMap term.matchedIn := by
    intro texts
    induction texts with
    | nil => rfl
    | cons text texts ih =>
        by_cases hempty : text = ""
        · simpa [hempty] using ih
        · simpa [hempty] using ih
  rw [SearchTerm.matchedTexts_eq_flatMap, ← filter_map_data_shown event options, hfilter,
    List.flatMap_map]

variable {event : Event} {limit : Nat} {term : SearchTerm}

theorem isWhole_of_mem_shownFields (hterm : term.IsWord) (hlimit : event.previewLength ≤ limit) :
    ∀ text ∈ event.shownFields ⟨limit, true⟩, text.IsWhole term := by
  have hwhole := ShownText.isWhole_whole hterm
  cases event with
  | tool id function arguments view result failure =>
      have harguments : ∀ text ∈ shownArguments ⟨limit, true⟩ arguments, text.IsWhole term := by
        rw [shownArguments]
        split
        · simp
        · simp [hwhole]
      have hview : ∀ view : Option ToolView, ∀ text ∈ shownView view, text.IsWhole term := by
        rintro (_ | view)
        · simp [shownView]
        · simp [shownView, ShownText.isWhole_heading, hwhole, or_imp, forall_and]
      intro text htext
      simp only [shownFields, List.mem_append, List.mem_cons, List.mem_map] at htext
      rcases htext with (htext | htext) | rfl | ⟨failure, -, rfl⟩
      · exact harguments text htext
      · exact hview _ text htext
      · exact ShownText.isWhole_preview hterm hlimit
      · exact hwhole _ _
  | sandbox action command output =>
      cases output with
      | none => simp [shownFields, hwhole]
      | some output =>
          have hpreview := ShownText.isWhole_preview hterm hlimit
          simp [shownFields, hwhole, hpreview, or_imp, forall_and]
  | _ => simp [shownFields, hwhole, or_imp, forall_and]

theorem isWhole_of_mem_shown (hterm : term.IsWord) (hlimit : event.previewLength ≤ limit)
    {text : ShownText} (htext : text ∈ event.shown ⟨limit, true⟩) : text.IsWhole term := by
  have hfields := isWhole_of_mem_shownFields hterm hlimit
  cases event with
  | unknown => simp [shown] at htext
  | _ =>
      rcases List.mem_cons.mp htext with rfl | htext
      · exact ShownText.isWhole_heading term true _
      · exact hfields text htext

theorem matchedChars_drawnTexts (hterm : term.IsWord) (hlimit : event.previewLength ≤ limit)
    (hplain : ∀ text ∈ event.texts, ∀ c ∈ text.toList, c ≠ '\x1b' ∧ c ≠ '\r' ∧ c ≠ '\t') :
    term.matchedChars (event.drawnTexts ⟨limit, true⟩) = term.matchedTexts event.texts := by
  have htext : ∀ text ∈ event.shown ⟨limit, true⟩,
      term.matchedChars (text.lines.map ShownLine.text) = term.matchedIn text.data := by
    intro text htext
    have hcut : text.IsCut := by
      refine isCut_of_mem_shown ?_ htext
      cases event <;> simp [drawnNames]
    apply (isWhole_of_mem_shown hterm hlimit htext).matchedChars_lines hterm hcut
    by_cases hfilled : text.data = ""
    · simp [hfilled]
    · apply hplain
      rw [← event.filter_map_data_shown ⟨limit, true⟩]
      exact List.mem_filter.mpr ⟨List.mem_map_of_mem htext, by simpa using hfilled⟩
  rw [← event.flatMap_data_shown ⟨limit, true⟩, drawnTexts, List.map_flatMap,
    SearchTerm.matchedChars, List.flatMap_assoc, List.flatMap_def, List.flatMap_def]
  congr 1
  exact List.map_congr_left htext

theorem bodyRows_of_previewLength_le (frame : CellFrame) (hlimit : event.previewLength ≤ limit) :
    event.bodyRows frame ⟨limit, true⟩ = event.bodyRows frame ⟨event.previewLength, true⟩ := by
  have hpreview : ∀ (text : String) {limit : Nat} (style : Style),
      (Text.lines text.toList).length ≤ limit → frame.preview text limit style =
        frame.preview text (Text.lines text.toList).length style := by
    intro text limit style h
    simp only [CellFrame.preview, List.take_of_length_le h, Nat.sub_eq_zero_of_le h,
      List.take_length, Nat.sub_self]
  cases event with
  | tool id function arguments view result failure =>
      simp only [bodyRows]
      rw [hpreview _ _ hlimit]
      rfl
  | sandbox action command output =>
      cases output with
      | none => rfl
      | some output =>
          simp only [bodyRows, Option.toList_some, List.flatMap_singleton]
          rw [hpreview _ _ hlimit]
          rfl
  | _ => rfl

end Event

namespace Item

theorem exists_matchedTexts_render_eq (item : Item) :
    ∃ wide, ∀ width limit, wide ≤ width → item.event.previewLength ≤ limit → ∀ term : SearchTerm,
      (item.render width ⟨limit, true⟩).matchedTexts term =
        term.matchedChars (item.event.drawnTexts ⟨item.event.previewLength, true⟩) := by
  let options : CellOptions := ⟨item.event.previewLength, true⟩
  have hmade := item.event.madeFrom_rows options
  obtain ⟨bound, hbound⟩ := hmade.wide
  obtain ⟨wide, hwide⟩ := CellFrame.exists_wide item.depth bound
  refine ⟨wide, ?_⟩
  intro width limit hwidth hlimit term
  have hruns := RenderedItem.runs_map_text (hmade.apart (CellFrame.new item.depth width))
  have hsearched := hruns.trans (hbound _ (hwide width hwidth))
  rw [RenderedItem.matchedTexts_eq, render,
    Event.bodyRows_of_previewLength_le _ hlimit, hsearched, matchedTexts_filledTexts]
  rfl

/-- An item without escapes, tabs and carriage returns, with its arguments drawn in full: from
some width and some limit of output lines on, a term without white space matches in its rows, in
the order in which they are drawn, just the texts that it matches in the texts of the item. -/
theorem matchedTexts_render (item : Item)
    (hplain : ∀ text ∈ item.texts, ∀ c ∈ text.toList, c ≠ '\x1b' ∧ c ≠ '\r' ∧ c ≠ '\t') :
    ∃ wide long, ∀ width limit, wide ≤ width → long ≤ limit →
      ∀ word : String, word ≠ "" → (∀ c ∈ word.toList, isBlank c = false) →
        ∃ term, SearchTerm.ofString? word = some term ∧
          (item.render width ⟨limit, true⟩).matchedTexts term = term.matchedTexts item.texts ∧
          (item.render width ⟨limit, true⟩).count term = term.countIn item.texts ∧
          ∀ n, ((item.render width ⟨limit, true⟩).locate? term n).map
              (item.render width ⟨limit, true⟩).textAt =
            (term.locate? item.texts n).map (·.textIn item.texts) := by
  obtain ⟨wide, hwide⟩ := item.exists_matchedTexts_render_eq
  refine ⟨wide, item.event.previewLength, ?_⟩
  intro width limit hwidth hlimit word hfilled hword
  obtain ⟨term, hterm, hisWord⟩ := SearchTerm.exists_isWord hfilled hword
  have htexts : (item.render width ⟨limit, true⟩).matchedTexts term =
      term.matchedTexts item.texts := by
    rw [hwide width limit hwidth hlimit]
    exact Event.matchedChars_drawnTexts hisWord (Nat.le_refl _) hplain
  refine ⟨term, hterm, htexts, ?_, ?_⟩
  · have hlength := congrArg List.length htexts
    rwa [RenderedItem.length_matchedTexts, SearchTerm.length_matchedTexts] at hlength
  · intro n
    rw [RenderedItem.map_locate?, SearchTerm.map_locate?, htexts]

/-- A tool call that failed, with arguments and a presentation that names one of them. -/
def failedCall : Item where
  id := "item-1"
  depth := 1
  timestamp := none
  event := .tool "call-1" "grep" [("pattern", .string "Error"), ("path", .string "log")]
    (some ⟨some "Lines with \x7b\x7bpattern\x7d\x7d", .markdown,
      "\n  in \x7b\x7bpath\x7d\x7d: errors \n"⟩)
    (.string "ERROR one\n\n  no error") (some ⟨"timeout", "an error: terror"⟩)

theorem matchedTexts_render_failedCall :
    ∃ wide long term, SearchTerm.ofString? "error" = some term ∧
      (failedCall.render wide ⟨long, true⟩).matchedTexts term =
        term.matchedTexts failedCall.texts ∧
      term.matchedTexts failedCall.texts =
        ["Error", "Error", "error", "ERROR", "error", "error", "error"] := by
  have hplain : ∀ text ∈ failedCall.texts, ∀ c ∈ text.toList, c ≠ '\x1b' ∧ c ≠ '\r' ∧
      c ≠ '\t' := by
    have hall : (failedCall.texts.all fun text =>
        text.toList.all fun c => c != '\x1b' && c != '\r' && c != '\t') = true := by
          decide +kernel
    simpa only [List.all_eq_true, Bool.and_eq_true, bne_iff_ne, and_assoc] using hall
  have hword : ∀ c ∈ "error".toList, isBlank c = false := by
    have hall : ("error".toList.all fun c => !isBlank c) = true := by decide +kernel
    simpa only [List.all_eq_true, Bool.not_eq_true'] using hall
  obtain ⟨wide, long, h⟩ := matchedTexts_render failedCall hplain
  obtain ⟨term, hterm, htexts, -⟩ :=
    h wide long (Nat.le_refl _) (Nat.le_refl _) "error" (by decide) hword
  have hkey : term = ⟨fold "error".toList, true, by decide +kernel⟩ :=
    Option.some.inj (hterm.symm.trans (dif_neg (by decide +kernel)))
  refine ⟨wide, long, term, hterm, htexts, ?_⟩
  subst hkey
  decide +kernel

end Item

end TranscriptSearch
