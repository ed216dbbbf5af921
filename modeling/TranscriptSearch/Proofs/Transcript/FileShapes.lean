import TranscriptSearch.Proofs.Json.LongerTexts
import TranscriptSearch.Proofs.Json.ValueEquality
import TranscriptSearch.Proofs.Transcript.LineLayout

namespace TranscriptSearch.SourceEvent

open Json (Value)
open Text (Layout)

/-- An event as it stands in a file.  What has a list that a document keeps its events in is
none. -/
structure IsEventObject (value : Value) : Prop where
  event : (value.member? "event").isSome
  events : value.member? "events" = none
  samples : value.member? "samples" = none

def readLine (line : List Char) : Option Value :=
  Json.parse? (.ofList line)

theorem readLine_nil : readLine [] = none :=
  rfl

/-- The ways of keeping events in a file: a list in an object, in the first sample of a log or on
its own, and lines. -/
inductive HoldsEvents (text : String) (events : List Value) : Prop
  | object {document : Value} :
      readLine (Text.trim text.toList) = some document →
        document.member? "events" = some (.array events) → HoldsEvents text events
  | log {document sample : Value} {samples : List Value} :
      readLine (Text.trim text.toList) = some document →
        (document.member? "events").bind Value.items? = none →
          document.member? "samples" = some (.array (sample :: samples)) →
            sample.member? "events" = some (.array events) → HoldsEvents text events
  | list : readLine (Text.trim text.toList) = some (.array events) → HoldsEvents text events
  | lines {lines : List (List Char)} :
      Layout lines text.toList → lines.map readLine = events.map some → HoldsEvents text events

/-- The list of the first sample of a log. -/
def sampleList? (document : Value) : Option (List Value) := do
  let sample ← (← (← document.member? "samples").items?).head?
  (← sample.member? "events").items?

theorem eventList?_of_object (members : List (String × Value)) :
    eventList? (.object members) =
      (((Value.object members).member? "events").bind Value.items?).or
        (sampleList? (.object members)) := by
  rw [eventList?]
  · cases ((Value.object members).member? "events").bind Value.items? with
    | none => rfl
    | some => rfl
  · exact nofun

theorem ofDocument_of_eventList? {document : Value} {events : List Value}
    (h : eventList? document = some events) : ofDocument document = .ok (events.map ofValue) := by
  rw [ofDocument, h]

theorem IsEventObject.ofDocument_eq {event : Value} (h : IsEventObject event) :
    ofDocument event = .ok [ofValue event] := by
  obtain ⟨kind, hkind⟩ := Option.isSome_iff_exists.mp h.event
  cases event with
  | object members =>
      have hlist : eventList? (.object members) = none := by
        rw [eventList?_of_object, h.events, sampleList?, h.samples]
        rfl
      rw [ofDocument, hlist]
      simp only [hkind]
  | _ => exact absurd hkind nofun

theorem ofText_of_readLine {text : String} {document : Value}
    (h : readLine (Text.trim text.toList) = some document) :
    ofText text = ofDocument document := by
  have hne : ¬ (Text.trim text.toList).isEmpty = true := by
    intro hempty
    rw [List.isEmpty_iff.mp hempty, readLine_nil] at h
    exact absurd h nofun
  rw [readLine] at h
  simp only [ofText, if_neg hne, h]

theorem ofText_of_readLine_eq_none {text : String} (hne : Text.trim text.toList ≠ [])
    (h : readLine (Text.trim text.toList) = none) :
    ofText text = ofLines (Text.trim text.toList) := by
  rw [readLine] at h
  simp only [ofText, List.isEmpty_iff, if_neg hne, h]

theorem ofLines_of_layout {lines : List (List Char)} {cs : List Char} (h : Layout lines cs) :
    ofLines cs =
      let malformed := (lines.filter fun line => (readLine line).isNone).length
      if (lines.filterMap readLine).isEmpty && 0 < malformed then
        .error (.noReadableLine malformed)
      else .ok ((lines.filterMap readLine).map ofValue) := by
  have hread : (fun line => Json.parse? (.ofList line)) = readLine := rfl
  rw [ofLines, filledLines_of_layout h, hread]
  simp only [List.filterMap_map, List.filter_map, List.length_map]
  rfl

theorem isBlank_of_isSpace {c : Char} (h : Json.isSpace c = true) : Text.isBlank c = true := by
  simp only [Json.isSpace, Bool.or_eq_true, decide_eq_true_eq] at h
  rcases h with ((rfl | rfl) | rfl) | rfl
  · rfl
  · rfl
  · rfl
  · rfl

theorem skipSpace_ne_nil {cs : List Char} (h : ∃ c ∈ cs, Text.isBlank c = false) :
    Json.skipSpace cs ≠ [] := by
  obtain ⟨c, hc, hfilled⟩ := h
  intro hnil
  have hspace := List.dropWhile_eq_nil_iff.mp hnil c hc
  exact Bool.false_ne_true (hfilled.symm.trans (isBlank_of_isSpace hspace))

theorem IsEventObject.ne_number {event : Value} (h : IsEventObject event) (number : Json.Number) :
    event ≠ .number number := by
  rintro rfl
  exact absurd h.event nofun

section Lines

variable {lines : List (List Char)} {events : List Value} {text : String}

theorem filterMap_readLine_filter (lines : List (List Char)) :
    (lines.filter fun line => (readLine line).isSome).filterMap readLine =
      lines.filterMap readLine := by
  rw [List.filterMap_filter]
  congr
  funext line
  split
  · rfl
  · next hnone => exact (Option.not_isSome_iff_eq_none.mp hnone).symm

theorem filterMap_readLine_eq (h : lines.map readLine = events.map some) :
    lines.filterMap readLine = events := by
  have hread : lines.filterMap readLine = (lines.map readLine).filterMap id := by
    rw [List.filterMap_map]
    rfl
  rw [hread, h, List.filterMap_map]
  exact List.filterMap_some

theorem filter_isNone_eq_nil (h : lines.map readLine = events.map some) :
    (lines.filter fun line => (readLine line).isNone) = [] := by
  rw [List.filter_eq_nil_iff]
  intro line hline
  have hmem := List.mem_map_of_mem (f := readLine) hline
  rw [h] at hmem
  obtain ⟨event, -, hread⟩ := List.mem_map.mp hmem
  rw [← hread]
  exact nofun

theorem readLine_trim_eq_none {line next cs : List Char} (h : Layout (line :: next :: lines) cs)
    {event : Value} (hread : readLine line = some event) (hevent : IsEventObject event) :
    readLine (Text.trim cs) = none := by
  obtain ⟨more, htrim, hfilled⟩ := h.exists_trim_eq
  rw [htrim]
  exact Json.parse?_append_eq_none hread hevent.ne_number (skipSpace_ne_nil hfilled)

theorem ofText_of_lines (hevents : ∀ event ∈ events, IsEventObject event)
    (h : Layout lines text.toList) (hread : lines.map readLine = events.map some) :
    ofText text = .ok (events.map ofValue) := by
  cases lines with
  | nil =>
      obtain rfl := List.map_eq_nil_iff.mp hread.symm
      simp only [ofText, h.trim_eq_nil]
      rfl
  | cons line rest =>
      obtain ⟨event, others, rfl, hline, hothers⟩ := List.map_eq_cons_iff.mp hread.symm
      have hevent := hevents event List.mem_cons_self
      cases rest with
      | nil =>
          obtain rfl := List.map_eq_nil_iff.mp hothers
          rw [ofText_of_readLine (h.trim_eq ▸ hline.symm), hevent.ofDocument_eq]
          rfl
      | cons next lines =>
          have htrim : Text.trim text.toList ≠ [] := by
            obtain ⟨c, hc, -⟩ := h.trim.exists_filled
            exact List.ne_nil_of_mem hc
          rw [ofText_of_readLine_eq_none htrim (readLine_trim_eq_none h hline.symm hevent),
            ofLines_of_layout h.trim, filterMap_readLine_eq hread, filter_isNone_eq_nil hread]
          rfl

theorem ofText_of_malformed (hne : lines ≠ []) (h : Layout lines text.toList)
    (hread : (lines.filter fun line => (readLine line).isSome).map readLine = events.map some)
    (hwhole : readLine (Text.trim text.toList) = none) :
    ofText text =
      if events = [] then .error (.noReadableLine lines.length)
      else .ok (events.map ofValue) := by
  have htrim : Text.trim text.toList ≠ [] := by
    obtain ⟨line, rest, rfl⟩ := List.exists_cons_of_ne_nil hne
    obtain ⟨c, hc, -⟩ := h.trim.exists_filled
    exact List.ne_nil_of_mem hc
  rw [ofText_of_readLine_eq_none htrim hwhole, ofLines_of_layout h.trim,
    ← filterMap_readLine_filter, filterMap_readLine_eq hread]
  split
  · next hnil =>
      rw [hnil, List.map_nil, List.map_eq_nil_iff, List.filter_eq_nil_iff] at hread
      have hall : (lines.filter fun line => (readLine line).isNone) = lines := by
        rw [List.filter_eq_self]
        intro line hline
        exact Option.isNone_iff_eq_none.mpr (Option.not_isSome_iff_eq_none.mp (hread line hline))
      have hlength := List.length_pos_iff.mpr hne
      simp only [hnil, hall, List.isEmpty_nil, Bool.true_and, decide_eq_true_eq, if_pos hlength]
  · next hevents =>
      have hempty : events.isEmpty = false := List.isEmpty_eq_false_iff.mpr hevents
      simp only [hempty, Bool.false_and, Bool.false_eq_true, if_false]

end Lines

theorem HoldsEvents.ofText_eq {text : String} {events : List Value} (h : HoldsEvents text events)
    (hevents : ∀ event ∈ events, IsEventObject event) :
    ofText text = .ok (events.map ofValue) := by
  cases h with
  | @object document hread hmember =>
      rw [ofText_of_readLine hread]
      apply ofDocument_of_eventList?
      cases document with
      | object members =>
          rw [eventList?_of_object, hmember]
          rfl
      | _ => exact absurd hmember nofun
  | @log document sample samples hread hmember hsamples hsample =>
      rw [ofText_of_readLine hread]
      apply ofDocument_of_eventList?
      cases document with
      | object members =>
          rw [eventList?_of_object, hmember, sampleList?, hsamples]
          simp [Value.items?, hsample]
      | _ => exact absurd hsamples nofun
  | list hread =>
      rw [ofText_of_readLine hread]
      rfl
  | lines hlayout hread => exact ofText_of_lines hevents hlayout hread

/-- The shape of a file and its layout make no difference, and no more do lines that are not JSON,
unless nothing else is left of the file. -/
theorem ofText_of_shapes {events : List Value} (hevents : ∀ event ∈ events, IsEventObject event) :
    (∀ text, HoldsEvents text events → ofText text = .ok (events.map ofValue)) ∧
      ∀ text longer : String, ∀ lines longerLines : List (List Char),
        Layout lines text.toList → lines.map readLine = events.map some →
          Layout longerLines longer.toList →
            (longerLines.filter fun line => (readLine line).isSome) = lines →
              readLine (Text.trim longer.toList) = none →
                (lines ≠ [] → ofText longer = ofText text) ∧
                  (lines = [] → longerLines ≠ [] →
                    ofText longer = .error (.noReadableLine longerLines.length)) := by
  refine ⟨fun text h => h.ofText_eq hevents, ?_⟩
  intro text longer lines longerLines hlayout hread hlonger hlines hwhole
  rw [← hlines] at hread
  constructor
  · intro hne
    have hlongerLines : longerLines ≠ [] := by
      rintro rfl
      exact hne hlines.symm
    have hne' : events ≠ [] := by
      rintro rfl
      rw [hlines] at hread
      exact hne (List.map_eq_nil_iff.mp hread)
    rw [ofText_of_malformed hlongerLines hlonger hread hwhole, if_neg hne',
      ofText_of_lines hevents hlayout (hlines ▸ hread)]
  · intro hnil hlongerLines
    have hevents' : events = [] := by
      rw [hlines, hnil] at hread
      exact List.map_eq_nil_iff.mp hread.symm
    rw [ofText_of_malformed hlongerLines hlonger hread hwhole, if_pos hevents']

theorem ofText_of_shapes_two :
    let event : Value := .object [("event", .string "input"), ("input", .string "a")]
    let other : Value := .object [("event", .null)]
    let result : Except SourceError (List SourceEvent) := .ok ([event, other].map ofValue)
    let line := "\x7b\"input\":\"a\",\"event\":\"input\"\x7d"
    let next := "\x7b\"event\":null\x7d"
    let list := "[" ++ line ++ "," ++ next ++ "]"
    let object := "\x7b\"events\":" ++ list ++ "\x7d"
    let log := "\x7b\"samples\":[" ++ object ++ "]\x7d"
    let file := "\r\n" ++ line ++ " \r\n\r\n" ++ next ++ "\n"
    let longer := "no\n" ++ line ++ "\nno\n" ++ next
    ofText object = result ∧ ofText log = result ∧ ofText list = result ∧ ofText file = result ∧
      ofText longer = ofText file ∧ ofText "no\nno" = .error (.noReadableLine 2) := by
  intro event other result line next list object log file longer
  have hevents : ∀ value ∈ [event, other], IsEventObject value := by
    intro value hvalue
    rcases List.mem_pair.mp hvalue with hvalue | hvalue
    · rw [hvalue]
      exact ⟨rfl, rfl, rfl⟩
    · rw [hvalue]
      exact ⟨rfl, rfl, rfl⟩
  have hread : [line.toList, next.toList].map readLine = [event, other].map some := by
    decide +kernel
  have hobject : readLine (Text.trim object.toList) =
      some (.object [("events", .array [event, other])]) := by decide +kernel
  have hlog : readLine (Text.trim log.toList) =
      some (.object [("samples", .array [.object [("events", .array [event, other])]])]) := by
    decide +kernel
  have hfile : Layout [line.toList, next.toList] file.toList :=
    filledLines_eq_iff.mp (by decide +kernel)
  have hlonger : Layout ["no".toList, line.toList, "no".toList, next.toList] longer.toList :=
    filledLines_eq_iff.mp (by decide +kernel)
  have hnos : Layout ["no".toList, "no".toList] "no\nno".toList :=
    filledLines_eq_iff.mp (by decide +kernel)
  obtain ⟨hshapes, hlines⟩ := ofText_of_shapes hevents
  refine ⟨hshapes _ (.object hobject rfl), hshapes _ (.log hlog rfl rfl rfl),
    hshapes _ (.list (by decide +kernel)), hshapes _ (.lines hfile hread), ?_, ?_⟩
  · exact (hlines _ _ _ _ hfile hread hlonger (by decide +kernel) (by decide +kernel)).1 nofun
  · have hempty :=
      (ofText_of_shapes (List.forall_mem_nil IsEventObject)).2 "" "no\nno" [] _ (.nil rfl)
      rfl hnos (by decide +kernel) (by decide +kernel)
    exact hempty.2 rfl nofun

end TranscriptSearch.SourceEvent
