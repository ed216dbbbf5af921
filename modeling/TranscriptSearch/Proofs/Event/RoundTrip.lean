import TranscriptSearch.Event.Encode
import TranscriptSearch.Transcript.Item

namespace TranscriptSearch

open Json (Value)
open Record

namespace Record

@[simp] theorem fields?_object (names : List String) (members : Members) :
    fields? names (.object members) = some (names.map (members.lookup ·)) := rfl

theorem named?_string {α : Type} {all : List α} {name : α → String} {a : α} (form : WordForm)
    (h : all.find? (name · == name a) = some a) :
    named? form all name (.string (name a)) = some a := h

section Fields

variable {α : Type} {encode : α → Value} {read : Value → Option α} {key other : String}

@[simp] theorem string?_string (text : String) : Value.string? (.string text) = some text := rfl

@[simp] theorem members?_object (members : Members) : members? (.object members) = some members :=
  rfl

@[simp] theorem any?_eq (value : Value) : any? value = some value := rfl

@[simp] theorem required?_some (value : Value) : required? read (some value) = read value := rfl

@[simp] theorem defaulted?_some (default : α) (value : Value) :
    defaulted? default read (some value) = read value := rfl

@[simp] theorem lookup_optionalMember_of_ne (h : other ≠ key) (field : Option α) :
    (optionalMember key encode field).lookup other = none := by
  cases field with
  | none => rfl
  | some a => rw [optionalMember, List.lookup_cons, beq_false_of_ne h, List.lookup_nil]

@[simp] theorem lookup_nonemptyMember_of_ne (h : other ≠ key) (items : List α) :
    (nonemptyMember key encode items).lookup other = none := by
  cases items with
  | nil => rfl
  | cons item items =>
      rw [nonemptyMember, List.lookup_cons, beq_false_of_ne h, List.lookup_nil]
      nofun

theorem object_ne_null (members : Members) : Value.object members ≠ .null := by
  intro h
  cases h

theorem optional?_lookup_optionalMember (key : String) (hread : ∀ a, read (encode a) = some a)
    (hnull : ∀ a, encode a ≠ .null) (field : Option α) :
    optional? read ((optionalMember key encode field).lookup key) = some field := by
  cases field with
  | none => rfl
  | some a =>
      -- A value that is written as null would be read as a field left out.
      have hvalue : optional? read (some (encode a)) = (read (encode a)).map some := by
        rw [optional?]
        exact hnull a
      rw [optionalMember, List.lookup_cons_self, hvalue, hread]
      rfl

theorem list?_array (hread : ∀ a, read (encode a) = some a) (items : List α) :
    list? read (.array (items.map encode)) = some items := by
  change (items.map encode).mapM read = some items
  induction items with
  | nil => rfl
  | cons item items ih => simp [hread, ih]

theorem defaulted?_lookup_nonemptyMember (key : String) (hread : ∀ a, read (encode a) = some a)
    (items : List α) :
    defaulted? [] (list? read) ((nonemptyMember key encode items).lookup key) = some items := by
  cases items with
  | nil => rfl
  | cons item items =>
      rw [nonemptyMember, List.lookup_cons_self]
      · exact list?_array hread (item :: items)
      · nofun

theorem optional?_lookup_text (key : String) (field : Option String) :
    optional? Value.string? ((optionalMember key Value.string field).lookup key) =
      some field := by
  apply optional?_lookup_optionalMember
  · intro text
    rfl
  · nofun

end Fields

end Record

theorem Role.decode?_name (form : WordForm) (role : Role) :
    Role.decode? form (.string role.name) = some role := by
  apply named?_string
  cases role <;> decide

theorem ViewFormat.decode?_name (form : WordForm) (format : ViewFormat) :
    ViewFormat.decode? form (.string format.name) = some format := by
  apply named?_string
  cases format <;> decide

theorem ChangeOp.decode?_name (op : ChangeOp) :
    ChangeOp.decode? (.string op.name) = some op := by
  apply named?_string
  cases op <;> decide

theorem Decision.decode?_name (decision : Decision) :
    Decision.decode? (.string decision.name) = some decision := by
  cases decision <;> rfl

theorem ContentPart.decode?_encode (part : ContentPart) :
    ContentPart.decode? part.encode = some part := by
  cases part <;> rfl

theorem MessageContent.decode?_encode (content : MessageContent) :
    MessageContent.decode? content.encode = some content := by
  cases content with
  | text body => rfl
  | parts pieces =>
      change (list? ContentPart.decode? (.array (pieces.map ContentPart.encode))).map parts = _
      rw [list?_array ContentPart.decode?_encode]
      rfl

theorem ToolCall.decode?_encode (call : ToolCall) :
    ToolCall.decode? call.encode = some call := rfl

theorem ChatMessage.decode?_encode (form : WordForm) (chat : ChatMessage) :
    ChatMessage.decode? form chat.encode = some chat := by
  have hcalls :=
    defaulted?_lookup_nonemptyMember "tool_calls" ToolCall.decode?_encode chat.toolCalls
  simp [decode?, encode, Role.decode?_name, List.lookup_cons,
    MessageContent.decode?_encode, hcalls]

theorem ModelChoice.decode?_encode (choice : ModelChoice) :
    ModelChoice.decode? choice.encode = some choice := by
  simp [decode?, encode, List.lookup_cons, ChatMessage.decode?_encode]

theorem ModelOutput.decode?_encode (output : ModelOutput) :
    ModelOutput.decode? output.encode = some output := by
  have hcompletion := optional?_lookup_text "completion" output.completion
  have hchoices := defaulted?_lookup_nonemptyMember "choices" ModelChoice.decode?_encode
    output.choices
  simp [decode?, encode, List.lookup_cons, List.lookup_append, hcompletion, hchoices]

theorem ToolView.decode?_encode (form : WordForm) (view : ToolView) :
    ToolView.decode? form view.encode = some view := by
  have htitle := optional?_lookup_text "title" view.title
  simp [decode?, encode, List.lookup_cons, List.lookup_append, ViewFormat.decode?_name, htitle]

theorem ToolError.decode?_encode (failure : ToolError) :
    ToolError.decode? failure.encode = some failure := rfl

theorem ErrorDetail.decode?_encode (detail : ErrorDetail) :
    ErrorDetail.decode? detail.encode = some detail := rfl

theorem LoggedMessage.decode?_encode (record : LoggedMessage) :
    LoggedMessage.decode? record.encode = some record := rfl

theorem StateChange.decode?_encode (change : StateChange) :
    StateChange.decode? change.encode = some change := by
  simp [decode?, encode, List.lookup_cons, ChangeOp.decode?_name]

theorem ScoreDetail.decode?_encode (detail : ScoreDetail) :
    ScoreDetail.decode? detail.encode = some detail := by
  have hanswer := optional?_lookup_text "answer" detail.answer
  have hexplanation := optional?_lookup_text "explanation" detail.explanation
  simp [decode?, encode, List.lookup_cons, List.lookup_append, hanswer, hexplanation]

theorem SampleInput.decode?_encode (input : SampleInput) :
    SampleInput.decode? input.encode = some input := by
  cases input with
  | text body => rfl
  | messages conversation =>
      change (list? (ChatMessage.decode? .null)
        (.array (conversation.map ChatMessage.encode))).map messages = _
      rw [list?_array (ChatMessage.decode?_encode .null)]
      rfl

theorem SampleInfo.decode?_encode (sample : SampleInfo) :
    SampleInfo.decode? sample.encode = some sample := by
  simp [decode?, encode, List.lookup_cons, SampleInput.decode?_encode]

namespace Event

theorem decode?_encode (event : Event) : Event.decode? event.encode = some event := by
  change Event.decodeBody? event.kind event.encode = some event
  cases event with
  | sampleInit sample =>
      simp [decodeBody?, encode, encodeBody, kind, List.lookup_cons, SampleInfo.decode?_encode]
  | model name role messages output failure =>
      have hrole := optional?_lookup_text "role" role
      have hmessages := defaulted?_lookup_nonemptyMember "input"
        (ChatMessage.decode?_encode .nullOrEmpty) messages
      have hfailure := optional?_lookup_text "error" failure
      simp [decodeBody?, encode, encodeBody, kind, List.lookup_cons,
        List.lookup_append, ModelOutput.decode?_encode, hrole, hmessages, hfailure]
  | tool id function arguments view result failure =>
      have hview := optional?_lookup_optionalMember "view"
        (ToolView.decode?_encode .nullOrEmpty) (fun _ => object_ne_null _) view
      have hfailure := optional?_lookup_optionalMember "error"
        ToolError.decode?_encode (fun _ => object_ne_null _) failure
      simp [decodeBody?, encode, encodeBody, kind, List.lookup_cons,
        List.lookup_append, hview, hfailure]
  | info source data =>
      have hsource := optional?_lookup_text "source" source
      simp [decodeBody?, encode, encodeBody, kind, List.lookup_cons, List.lookup_append, hsource]
  | approval request decision explanation =>
      have hexplanation := optional?_lookup_text "explanation" explanation
      simp [decodeBody?, encode, encodeBody, kind, List.lookup_cons,
        Decision.decode?_name, hexplanation]
  | score detail =>
      simp [decodeBody?, encode, encodeBody, kind, List.lookup_cons, ScoreDetail.decode?_encode]
  | state changes =>
      simp [decodeBody?, encode, encodeBody, kind, List.lookup_cons,
        list?_array StateChange.decode?_encode]
  | store changes =>
      simp [decodeBody?, encode, encodeBody, kind, List.lookup_cons,
        list?_array StateChange.decode?_encode]
  | spanBegin id name kind =>
      have hkind := optional?_lookup_text "type" kind
      simp [decodeBody?, encode, encodeBody, Event.kind, List.lookup_cons, hkind]
  | sandbox action command output =>
      have hcommand := optional?_lookup_text "cmd" command
      have houtput := optional?_lookup_text "output" output
      simp [decodeBody?, encode, encodeBody, kind, List.lookup_cons,
        List.lookup_append, hcommand, houtput]
  | message chat =>
      simp [decodeBody?, encode, encodeBody, kind, List.lookup_cons, ChatMessage.decode?_encode]
  | _ => rfl

theorem member?_encode_eq_none (event : Event) {key : String}
    (h : key = "uuid" ∨ key = "timestamp") :
    event.encode.member? key = none := by
  rcases h with rfl | rfl
  all_goals
    cases event <;>
      simp [Value.member?, encode, encodeBody, List.lookup_cons, List.lookup_append]

/-- Every event is read as it was written.  So no two events are written alike, and in a
transcript no event that stands as it is written is taken for an unknown one. -/
theorem written_reads_back :
    (∀ event : Event, Event.decode? event.encode = some event) ∧ Function.Injective encode ∧
      ∀ event : Event, SourceEvent.ofValue event.encode = ⟨none, none, event⟩ := by
  refine ⟨decode?_encode, ?_, ?_⟩
  · intro a b hab
    have hread := congrArg Event.decode? hab
    rw [decode?_encode, decode?_encode] at hread
    exact Option.some.inj hread
  · intro event
    have huuid := event.member?_encode_eq_none (.inl rfl)
    have htimestamp := event.member?_encode_eq_none (.inr rfl)
    simp [SourceEvent.ofValue, huuid, htimestamp, decode?_encode]

end Event

end TranscriptSearch
