import TranscriptSearch.Event.Text
import TranscriptSearch.Proofs.Event.Placeholders
import TranscriptSearch.Proofs.Text.PlainColumns

namespace TranscriptSearch

open Json (Value)
open Text (isPrintable)

namespace Text

/-- Whether all characters of a text are of a kind. -/
def ConsistsOf (kind : Char → Bool) (text : String) : Prop :=
  ∀ c ∈ text.toList, kind c = true

instance (kind : Char → Bool) (text : String) : Decidable (ConsistsOf kind text) :=
  decidable_of_iff (text.toList.all kind = true) List.all_eq_true

/-- Whether all characters of some texts are of a kind. -/
def AllConsistOf (kind : Char → Bool) (texts : List String) : Prop :=
  ∀ text ∈ texts, ConsistsOf kind text

instance (kind : Char → Bool) (texts : List String) : Decidable (AllConsistOf kind texts) :=
  List.decidableBAll _ texts

/-- Whether a character is printable or ends a line. -/
def isPrintableOrBreak (c : Char) : Bool :=
  isPrintable c || c == '\n'

variable {kind other : Char → Bool}

theorem ConsistsOf.mono {text : String} (h : ConsistsOf kind text)
    (hkind : ∀ c, kind c = true → other c = true) : ConsistsOf other text :=
  fun c hc => hkind c (h c hc)

@[simp] theorem consistsOf_append {a b : String} :
    ConsistsOf kind (a ++ b) ↔ ConsistsOf kind a ∧ ConsistsOf kind b := by
  simp [ConsistsOf, or_imp, forall_and]

@[simp] theorem consistsOf_ofList {cs : List Char} :
    ConsistsOf kind (.ofList cs) ↔ ∀ c ∈ cs, kind c = true := by
  simp [ConsistsOf]

@[simp] theorem allConsistOf_nil : AllConsistOf kind [] := by simp [AllConsistOf]

@[simp] theorem allConsistOf_cons {text : String} {texts : List String} :
    AllConsistOf kind (text :: texts) ↔ ConsistsOf kind text ∧ AllConsistOf kind texts :=
  List.forall_mem_cons

@[simp] theorem allConsistOf_append {texts more : List String} :
    AllConsistOf kind (texts ++ more) ↔ AllConsistOf kind texts ∧ AllConsistOf kind more :=
  List.forall_mem_append

@[simp] theorem allConsistOf_map {α : Type} {parts : List α} {text : α → String} :
    AllConsistOf kind (parts.map text) ↔ ∀ part ∈ parts, ConsistsOf kind (text part) :=
  List.forall_mem_map

@[simp] theorem allConsistOf_flatMap {α : Type} {parts : List α} {strings : α → List String} :
    AllConsistOf kind (parts.flatMap strings) ↔
      ∀ part ∈ parts, AllConsistOf kind (strings part) := by
  simp only [AllConsistOf, List.mem_flatMap]
  exact ⟨fun h part hpart text htext => h text ⟨part, hpart, htext⟩,
    fun h text ⟨part, hpart, htext⟩ => h part hpart text htext⟩

theorem forall_mem_unlines {texts : List (List Char)}
    (h : ∀ text ∈ texts, ∀ c ∈ text, kind c = true)
    (hbreak : kind '\n' = true) : ∀ c ∈ unlines texts, kind c = true := by
  induction texts with
  | nil => simp [unlines]
  | cons text texts ih =>
      obtain ⟨htext, hrest⟩ := List.forall_mem_cons.mp h
      by_cases hlast : texts = []
      · simpa [unlines, hlast] using htext
      · rw [unlines, List.intercalate_cons_of_ne_nil hlast, List.forall_mem_append,
          List.forall_mem_append, List.forall_mem_singleton]
        exact ⟨⟨htext, hbreak⟩, ih hrest⟩

theorem consistsOf_joinLines {texts : List String}
    (h : AllConsistOf isPrintableOrBreak texts) :
    ConsistsOf isPrintableOrBreak ("\n".intercalate texts) := by
  have hjoined : ("\n".intercalate texts).toList = unlines (texts.map String.toList) := by
    simp [unlines]
  rw [ConsistsOf, hjoined]
  exact forall_mem_unlines (List.forall_mem_map.mpr h) (by decide)

theorem ConsistsOf.printableOrBreak {text : String} (h : ConsistsOf isPrintable text) :
    ConsistsOf isPrintableOrBreak text :=
  h.mono fun c hc => by simp [isPrintableOrBreak, hc]

theorem ConsistsOf.plain {text : String} (h : ConsistsOf isPrintable text) :
    ConsistsOf isPlain text :=
  h.mono fun _ => isPlain_of_isPrintable

theorem AllConsistOf.printableOrBreak {texts : List String} (h : AllConsistOf isPrintable texts) :
    AllConsistOf isPrintableOrBreak texts :=
  fun text htext => (h text htext).printableOrBreak

theorem isPrintable_of_isDigit {c : Char} (h : c.isDigit = true) : isPrintable c = true := by
  rw [Char.isDigit_iff_toNat] at h
  have hfirst : '0'.toNat = 48 := rfl
  have hlast : '9'.toNat = 57 := rfl
  simp only [isPrintable, Bool.and_eq_true, decide_eq_true_eq]
  omega

theorem consistsOf_toString_nat (n : Nat) : ConsistsOf isPrintable (toString n) := by
  intro c hc
  rw [Nat.toString_eq_repr, Nat.toList_repr] at hc
  exact isPrintable_of_isDigit (Nat.isDigit_of_mem_toDigits (by decide) (by decide) hc)

end Text

namespace Json

open Text

mutual

/-- The strings in a value, the keys of its objects among them. -/
def Value.strings : Value → List String
  | .string text => [text]
  | .array items => itemStrings items
  | .object members => memberStrings members
  | _ => []

def itemStrings : List Value → List String
  | [] => []
  | item :: items => item.strings ++ itemStrings items

def memberStrings : List (String × Value) → List String
  | [] => []
  | member :: members => member.1 :: member.2.strings ++ memberStrings members

end

theorem mem_digitsOf {n : Nat} : ∀ c ∈ digitsOf n, isPrintable c = true :=
  fun _ hc => isPrintable_of_isDigit (Nat.isDigit_of_mem_toDigits (by decide) (by decide) hc)

theorem consistsOf_printFloat (x : Binary64) : ConsistsOf isPrintable (printFloat x) := by
  have hzeros : ∀ n, ∀ c ∈ List.replicate n '0', isPrintable c = true := by
    intro n c hc
    rw [List.eq_of_mem_replicate hc]
    rfl
  have hsign : ∀ c ∈ (if x.negative then ['-'] else []), isPrintable c = true := by
    split
    · simp [isPrintable]
    · simp
  have hdigits : ∀ c ∈ digitsOf x.shortest.digits, isPrintable c = true := mem_digitsOf
  have htake : ∀ n, ∀ c ∈ (digitsOf x.shortest.digits).take n, isPrintable c = true :=
    fun n c hc => hdigits c (List.mem_of_mem_take hc)
  have hdrop : ∀ n, ∀ c ∈ (digitsOf x.shortest.digits).drop n, isPrintable c = true :=
    fun n c hc => hdigits c (List.mem_of_mem_drop hc)
  simp only [printFloat]
  rw [consistsOf_ofList, List.forall_mem_append]
  refine ⟨hsign, ?_⟩
  split
  · simp [isPrintable]
  · split
    · split
      · simp only [List.forall_mem_append]
        exact ⟨⟨hdigits, hzeros _⟩, by simp [isPrintable]⟩
      · simp only [List.forall_mem_append, List.forall_mem_cons]
        exact ⟨htake _, by decide, hdrop _⟩
    · split
      · simp only [List.forall_mem_append]
        exact ⟨⟨by simp [isPrintable], hzeros _⟩, hdigits⟩
      · have hfraction : ∀ c ∈ (if (digitsOf x.shortest.digits).length = 1 then []
            else '.' :: (digitsOf x.shortest.digits).drop 1), isPrintable c = true := by
          split
          · simp
          · exact List.forall_mem_cons.mpr ⟨by decide, hdrop 1⟩
        have hpower : ∀ sign ∈ ['-', '+'], ∀ c ∈ ['e', sign], isPrintable c = true := by
          simp [isPrintable]
        rw [List.forall_mem_append, List.forall_mem_append, List.forall_mem_append]
        exact ⟨⟨⟨htake 1, hfraction⟩, hpower _ (by split <;> simp)⟩, mem_digitsOf⟩

theorem consistsOf_printNumber (value : Number) : ConsistsOf isPrintable (printNumber value) := by
  cases value with
  | int value =>
      cases value with
      | ofNat n => exact consistsOf_toString_nat n
      | negSucc n =>
          change ConsistsOf isPrintable ("-" ++ toString (n + 1))
          rw [consistsOf_append]
          exact ⟨by decide, consistsOf_toString_nat (n + 1)⟩
  | float value => exact consistsOf_printFloat value

theorem isPrintable_of_mem_escapeChar {c : Char} (h : isPrintable c = true) :
    ∀ d ∈ escapeChar c, isPrintable d = true := by
  rw [escapeChar.eq_def]
  split
  case h_8 =>
      simp only [isPrintable, Bool.and_eq_true, decide_eq_true_eq] at h
      rw [if_neg (by omega)]
      simpa [isPrintable] using h
  all_goals simp [isPrintable]

theorem consistsOf_printString {text : String} (h : ConsistsOf isPrintable text) :
    ConsistsOf isPrintable (printString text) := by
  rw [printString, consistsOf_ofList]
  have hescaped : ∀ c ∈ text.toList.flatMap escapeChar, isPrintable c = true := by
    intro c hc
    obtain ⟨d, hd, hc⟩ := List.mem_flatMap.mp hc
    exact isPrintable_of_mem_escapeChar (h d hd) c hc
  have hquote : isPrintable '"' = true := by decide
  simpa [hquote, or_imp, forall_and] using hescaped

mutual

theorem consistsOf_print (value : Value) (h : AllConsistOf isPrintable value.strings) :
    ConsistsOf isPrintable value.print := by
  cases value with
  | null => decide
  | bool value => cases value <;> decide
  | number value => exact consistsOf_printNumber value
  | string text => exact consistsOf_printString (h text (by simp [Value.strings]))
  | array items =>
      cases items with
      | nil => decide
      | cons item items =>
          simp only [Value.strings, itemStrings, allConsistOf_append] at h
          simp only [Value.print, consistsOf_append]
          exact ⟨⟨⟨by decide, consistsOf_print item h.1⟩,
            consistsOf_printItems items h.2⟩, by decide⟩
  | object members =>
      cases members with
      | nil => decide
      | cons member members =>
          simp only [Value.strings, memberStrings, List.cons_append, allConsistOf_cons,
            allConsistOf_append] at h
          simp only [Value.print, consistsOf_append]
          exact ⟨⟨⟨⟨⟨by decide, consistsOf_printString h.1⟩, by decide⟩,
            consistsOf_print member.2 h.2.1⟩, consistsOf_printMembers members h.2.2⟩, by decide⟩

theorem consistsOf_printItems (items : List Value)
    (h : AllConsistOf isPrintable (itemStrings items)) :
    ConsistsOf isPrintable (printItems items) := by
  cases items with
  | nil => decide
  | cons item items =>
      simp only [itemStrings, allConsistOf_append] at h
      simp only [printItems, consistsOf_append]
      exact ⟨⟨by decide, consistsOf_print item h.1⟩, consistsOf_printItems items h.2⟩

theorem consistsOf_printMembers (members : List (String × Value))
    (h : AllConsistOf isPrintable (memberStrings members)) :
    ConsistsOf isPrintable (printMembers members) := by
  cases members with
  | nil => decide
  | cons member members =>
      simp only [memberStrings, List.cons_append, allConsistOf_cons, allConsistOf_append] at h
      simp only [printMembers, consistsOf_append]
      exact ⟨⟨⟨⟨by decide, consistsOf_printString h.1⟩, by decide⟩,
        consistsOf_print member.2 h.2.1⟩, consistsOf_printMembers members h.2.2⟩

end

end Json

def ContentPart.strings : ContentPart → List String
  | .text body | .reasoning body => [body]
  | .image source => [source]
  | .other => []

def MessageContent.strings : MessageContent → List String
  | .text body => [body]
  | .parts pieces => pieces.flatMap ContentPart.strings

def ToolCall.strings (call : ToolCall) : List String :=
  call.id :: call.function :: Json.memberStrings call.arguments

def ChatMessage.strings (chat : ChatMessage) : List String :=
  chat.content.strings ++ chat.toolCalls.flatMap ToolCall.strings

def ModelOutput.strings (output : ModelOutput) : List String :=
  output.model :: output.completion.toList ++ output.choices.flatMap (·.message.strings)

def ToolView.strings (view : ToolView) : List String :=
  view.title.toList ++ [view.content]

def ToolError.strings (failure : ToolError) : List String :=
  [failure.kind, failure.message]

def StateChange.strings (change : StateChange) : List String :=
  change.path :: change.value.strings

def SampleInput.strings : SampleInput → List String
  | .text body => [body]
  | .messages conversation => conversation.flatMap ChatMessage.strings

/-- The strings in an event, those that are not drawn among them. -/
def Event.strings : Event → List String
  | .sampleInit sample => sample.input.strings ++ sample.target.strings
  | .model name role history output failure =>
      name :: role.toList ++ history.flatMap ChatMessage.strings ++ output.strings ++
        failure.toList
  | .tool id function arguments view result failure =>
      id :: function :: Json.memberStrings arguments ++ view.toList.flatMap ToolView.strings ++
        result.strings ++ failure.toList.flatMap ToolError.strings
  | .error detail => [detail.message, detail.traceback]
  | .info source data => source.toList ++ data.strings
  | .logger record => [record.level, record.message]
  | .input text => [text]
  | .approval request _ explanation => request :: explanation.toList
  | .score detail => detail.value.strings ++ detail.answer.toList ++ detail.explanation.toList
  | .state changes | .store changes => changes.flatMap StateChange.strings
  | .spanBegin id name kind => id :: name :: kind.toList
  | .spanEnd id => [id]
  | .subtask name given result => name :: given.strings ++ result.strings
  | .sandbox action command output => action :: command.toList ++ output.toList
  | .message chat => chat.strings
  | .unknown => []

section Printable

open Text

theorem consistsOf_valueText {value : Value} (h : AllConsistOf isPrintable value.strings) :
    ConsistsOf isPrintable (valueText value) := by
  rw [valueText.eq_def]
  split
  · decide
  · exact h _ (by simp [Value.strings])
  · exact Json.consistsOf_print value h

theorem consistsOf_signature {call : ToolCall} (h : AllConsistOf isPrintable call.strings) :
    ConsistsOf isPrintable call.signature := by
  simp only [ToolCall.strings, allConsistOf_cons] at h
  simp only [ToolCall.signature, consistsOf_append]
  exact ⟨⟨⟨h.2.1, by decide⟩, Json.consistsOf_print _ h.2.2⟩, by decide⟩

theorem allConsistOf_map_signature {calls : List ToolCall}
    (h : AllConsistOf isPrintable (calls.flatMap ToolCall.strings)) :
    AllConsistOf isPrintable (calls.map ToolCall.signature) :=
  List.forall_mem_map.mpr fun call hcall =>
    consistsOf_signature (allConsistOf_flatMap.mp h call hcall)

theorem consistsOf_visibleText {content : MessageContent}
    (h : AllConsistOf isPrintable content.strings) :
    ConsistsOf isPrintableOrBreak content.visibleText := by
  cases content with
  | text body => exact (h body (by simp [MessageContent.strings])).printableOrBreak
  | parts pieces =>
      simp only [MessageContent.strings, allConsistOf_flatMap] at h
      apply consistsOf_joinLines
      intro text htext
      obtain ⟨part, hpart, hshown⟩ := List.mem_filterMap.mp htext
      cases part with
      | text body =>
          obtain rfl := Option.some.inj hshown
          exact (h _ hpart body (by simp [ContentPart.strings])).printableOrBreak
      | _ => simp [ContentPart.text?] at hshown

theorem consistsOf_visibleText_sample {input : SampleInput}
    (h : AllConsistOf isPrintable input.strings) :
    ConsistsOf isPrintableOrBreak input.visibleText := by
  cases input with
  | text body => exact (h body (by simp [SampleInput.strings])).printableOrBreak
  | messages conversation =>
      simp only [SampleInput.strings, allConsistOf_flatMap] at h
      apply consistsOf_joinLines
      intro text htext
      obtain ⟨chat, hchat, rfl⟩ := List.mem_map.mp (List.mem_filter.mp htext).1
      exact consistsOf_visibleText (allConsistOf_append.mp (h chat hchat)).1

theorem allConsistOf_head?_choices {output : ModelOutput}
    (h : AllConsistOf isPrintable output.strings) :
    ∀ choice ∈ output.choices.head?, AllConsistOf isPrintable choice.message.strings := by
  intro choice hchoice
  simp only [ModelOutput.strings, allConsistOf_append, allConsistOf_flatMap] at h
  exact h.2 choice (List.mem_of_mem_head? hchoice)

theorem consistsOf_completionText {output : ModelOutput}
    (h : AllConsistOf isPrintable output.strings) :
    ConsistsOf isPrintableOrBreak output.completionText := by
  have hchoices : ConsistsOf isPrintableOrBreak
      ((output.choices.head?.map (·.message.content.visibleText)).getD "") := by
    have hfirst := allConsistOf_head?_choices h
    cases hhead : output.choices.head? with
    | none => simp [ConsistsOf]
    | some choice => exact consistsOf_visibleText (allConsistOf_append.mp (hfirst choice hhead)).1
  rw [ModelOutput.completionText]
  split
  · next completion hcompletion =>
      split
      · exact hchoices
      · exact (h completion (by simp [ModelOutput.strings, hcompletion])).printableOrBreak
  · exact hchoices

theorem allConsistOf_signatures {output : ModelOutput}
    (h : AllConsistOf isPrintable output.strings) :
    AllConsistOf isPrintable (output.toolCalls.map ToolCall.signature) := by
  have hfirst := allConsistOf_head?_choices h
  rw [ModelOutput.toolCalls]
  cases hhead : output.choices.head? with
  | none => simp
  | some choice =>
      have hcalls := (allConsistOf_append.mp (hfirst choice hhead)).2
      exact allConsistOf_map_signature hcalls

theorem Text.AllConsistOf.of_lookup {members : Members}
    (h : AllConsistOf isPrintable (Json.memberStrings members))
    {key : String} {value : Value} (hlookup : members.lookup key = some value) :
    AllConsistOf isPrintable value.strings := by
  induction members with
  | nil => simp at hlookup
  | cons member members ih =>
      simp only [Json.memberStrings, List.cons_append, allConsistOf_cons,
        allConsistOf_append] at h
      rw [List.lookup_cons] at hlookup
      split at hlookup
      · rw [← Option.some.inj hlookup]
        exact h.2.1
      · exact ih h.2.2 hlookup

theorem Text.AllConsistOf.of_mem_keys {members : Members}
    (h : AllConsistOf isPrintable (Json.memberStrings members)) {member : String × Value}
    (hmember : member ∈ members) : ConsistsOf isPrintable member.1 := by
  induction members with
  | nil => simp at hmember
  | cons first members ih =>
      simp only [Json.memberStrings, List.cons_append, allConsistOf_cons,
        allConsistOf_append] at h
      rcases List.mem_cons.mp hmember with rfl | hmember
      · exact h.1
      · exact ih h.2.2 hmember

theorem Text.AllConsistOf.of_mem_items {items : List Value}
    (h : AllConsistOf isPrintable (Json.itemStrings items)) :
    ∀ item ∈ items, AllConsistOf isPrintable item.strings := by
  induction items with
  | nil => simp
  | cons item items ih =>
      simp only [Json.itemStrings, allConsistOf_append] at h
      exact List.forall_mem_cons.mpr ⟨h.1, ih h.2⟩

theorem Text.AllConsistOf.of_member? {value member : Value}
    (h : AllConsistOf isPrintable value.strings) {key : String}
    (hmember : value.member? key = some member) : AllConsistOf isPrintable member.strings := by
  cases value with
  | object members => exact h.of_lookup hmember
  | _ => simp [Value.member?] at hmember

theorem mem_strings_of_string? {value : Value} {text : String} (h : value.string? = some text) :
    text ∈ value.strings := by
  cases value with
  | string body =>
      rw [Option.some.inj h]
      exact List.mem_singleton_self text
  | _ => simp [Value.string?] at h

theorem consistsOf_toolResultText {value : Value} (h : AllConsistOf isPrintable value.strings) :
    ConsistsOf isPrintableOrBreak (toolResultText value) := by
  rw [toolResultText.eq_def]
  split
  · next parts =>
      dsimp only
      split
      · exact (Json.consistsOf_print _ h).printableOrBreak
      · apply consistsOf_joinLines
        intro text htext
        obtain ⟨part, hpart, hshown⟩ := List.mem_filterMap.mp htext
        obtain ⟨value, hvalue, hstring⟩ := Option.bind_eq_some_iff.mp hshown
        have hstrings := (AllConsistOf.of_mem_items h part hpart).of_member? hvalue
        exact (hstrings text (mem_strings_of_string? hstring)).printableOrBreak
  · exact (consistsOf_valueText h).printableOrBreak

theorem forall_mem_argumentText {value : Value} (h : AllConsistOf isPrintable value.strings) :
    ∀ c ∈ Template.argumentText value, isPrintable c = true := by
  rw [Template.argumentText.eq_def]
  split
  · exact h _ (by simp [Value.strings])
  · exact Json.consistsOf_print value h

theorem forall_mem_of_splitAtPair {kind : Char → Bool} {mark : Char} {cs before after : List Char}
    (h : Template.splitAtPair mark cs = some (before, after)) (hcs : ∀ c ∈ cs, kind c = true) :
    (∀ c ∈ before, kind c = true) ∧ ∀ c ∈ after, kind c = true := by
  obtain ⟨rfl, -⟩ := Template.eq_append_of_splitAtPair h
  obtain ⟨hbefore, hrest⟩ := List.forall_mem_append.mp hcs
  exact ⟨hbefore, fun c hc => hrest c (by simp [hc])⟩

theorem forall_mem_fill {arguments : Members}
    (h : AllConsistOf isPrintable (Json.memberStrings arguments))
    {template : List Char} (htemplate : ∀ c ∈ template, isPrintable c = true) :
    ∀ c ∈ Template.fill arguments template, isPrintable c = true := by
  fun_induction Template.fill arguments template with
  | case1 => exact htemplate
  | case2 => exact htemplate
  | case3 template before afterOpen hopen key rest hclose _ inserted ih =>
      obtain ⟨hbefore, hafter⟩ := forall_mem_of_splitAtPair hopen htemplate
      obtain ⟨hkey, hrest⟩ := forall_mem_of_splitAtPair hclose hafter
      have hinserted : ∀ c ∈ inserted, isPrintable c = true := by
        simp only [inserted]
        split
        · next value hvalue => exact forall_mem_argumentText (h.of_lookup hvalue)
        · rw [List.forall_mem_append, List.forall_mem_append]
          exact ⟨⟨by simp [isPrintable], hkey⟩, by simp [isPrintable]⟩
      rw [List.forall_mem_append, List.forall_mem_append]
      exact ⟨⟨hbefore, hinserted⟩, ih hrest⟩

theorem allConsistOf_fill {arguments : Members}
    (h : AllConsistOf isPrintable (Json.memberStrings arguments))
    {view : ToolView} (hview : AllConsistOf isPrintable view.strings) :
    AllConsistOf isPrintable (view.fill arguments).strings := by
  have hfill : ∀ text, ConsistsOf isPrintable text →
      ConsistsOf isPrintable (.ofList (Template.fill arguments text.toList)) :=
    fun text htext => consistsOf_ofList.mpr (forall_mem_fill h htext)
  simp only [ToolView.strings, allConsistOf_append, allConsistOf_cons] at hview ⊢
  refine ⟨?_, hfill _ hview.2.1, allConsistOf_nil⟩
  rw [ToolView.fill, Option.toList_map]
  exact List.forall_mem_map.mpr fun title htitle => hfill title (hview.1 title htitle)

theorem consistsOf_summary {change : StateChange} (h : AllConsistOf isPrintable change.strings) :
    ConsistsOf isPrintable change.summary := by
  simp only [StateChange.strings, allConsistOf_cons] at h
  have hop : ConsistsOf isPrintable change.op.name := by
    cases change.op <;> decide
  have hplace : ConsistsOf isPrintable (change.op.name ++ " " ++ change.path) := by
    simp only [consistsOf_append]
    exact ⟨⟨hop, by decide⟩, h.1⟩
  rw [StateChange.summary]
  split
  · exact hplace
  · rw [consistsOf_append, consistsOf_append]
    exact ⟨⟨hplace, by decide⟩, consistsOf_valueText h.2⟩

theorem allConsistOf_summaries {changes : List StateChange}
    (h : AllConsistOf isPrintable (changes.flatMap StateChange.strings)) :
    AllConsistOf isPrintableOrBreak (changes.map StateChange.summary) :=
  allConsistOf_map.mpr fun change hchange =>
    (consistsOf_summary (allConsistOf_flatMap.mp h change hchange)).printableOrBreak

namespace Event

theorem consistsOf_of_textOrNone {field : Option String}
    (h : AllConsistOf isPrintable field.toList) {text : String}
    (htext : textOrNone field = some text) :
    ConsistsOf isPrintable text := by
  rw [textOrNone.eq_def] at htext
  split at htext
  · simp at htext
  · exact h text (by simp [htext])

theorem consistsOf_title {event : Event} (h : AllConsistOf isPrintable event.strings) :
    ConsistsOf isPrintable event.title := by
  cases event with
  | model name role history output failure =>
      simp only [strings, List.cons_append, allConsistOf_cons] at h
      exact consistsOf_append.mpr ⟨by decide, h.1⟩
  | tool id function arguments view result failure =>
      simp only [strings, List.cons_append, allConsistOf_cons] at h
      exact consistsOf_append.mpr ⟨by decide, h.2.1⟩
  | info source data =>
      have hsource := (allConsistOf_append.mp h).1
      rw [title]
      split
      · next text htext =>
          exact consistsOf_append.mpr ⟨by decide, consistsOf_of_textOrNone hsource htext⟩
      · decide
  | logger record => exact consistsOf_append.mpr ⟨by decide, h _ (by simp [strings])⟩
  | approval request decision explanation =>
      refine consistsOf_append.mpr ⟨by decide, ?_⟩
      cases decision <;> decide
  | spanBegin id name kind =>
      simp only [strings, allConsistOf_cons] at h
      rw [title]
      split
      · next text htext =>
          simp only [consistsOf_append]
          exact ⟨⟨consistsOf_of_textOrNone h.2.2 htext, by decide⟩, h.2.1⟩
      · exact h.2.1
  | subtask name given result =>
      simp only [strings, List.cons_append, allConsistOf_cons] at h
      exact consistsOf_append.mpr ⟨by decide, h.1⟩
  | sandbox action command output =>
      simp only [strings, List.cons_append, allConsistOf_cons] at h
      exact consistsOf_append.mpr ⟨by decide, h.1⟩
  | message chat =>
      rw [title]
      cases chat.role <;> decide
  | _ =>
      rw [title]
      decide

theorem allConsistOf_strings_tool {id function : String} {arguments : Members}
    {view : Option ToolView} {result : Value} {failure : Option ToolError}
    (h : AllConsistOf isPrintable
      (Event.tool id function arguments view result failure).strings) :
    AllConsistOf isPrintable (Json.memberStrings arguments) ∧
      (∀ filled, view.map (·.fill arguments) = some filled →
        AllConsistOf isPrintable filled.strings) ∧
      AllConsistOf isPrintable result.strings ∧
      AllConsistOf isPrintable (failure.map ToolError.message).toList := by
  simp only [strings, List.cons_append, allConsistOf_cons, allConsistOf_append] at h
  obtain ⟨-, -, ⟨⟨harguments, hview⟩, hresult⟩, hfailure⟩ := h
  refine ⟨harguments, ?_, hresult, ?_⟩
  · intro filled hfilled
    obtain ⟨view', rfl, rfl⟩ := Option.map_eq_some_iff.mp hfilled
    exact allConsistOf_fill harguments (allConsistOf_flatMap.mp hview view' (by simp))
  · rw [Option.toList_map, allConsistOf_map]
    intro detail hdetail
    exact allConsistOf_flatMap.mp hfailure detail hdetail _ (by simp [ToolError.strings])

theorem allConsistOf_fields {event : Event} (h : AllConsistOf isPrintable event.strings) :
    AllConsistOf isPrintableOrBreak event.fields := by
  cases event with
  | sampleInit sample =>
      obtain ⟨hinput, htarget⟩ := allConsistOf_append.mp h
      simp only [fields, allConsistOf_cons]
      exact ⟨consistsOf_visibleText_sample hinput,
        (consistsOf_valueText htarget).printableOrBreak, allConsistOf_nil⟩
  | model name role history output failure =>
      obtain ⟨h, hfailure⟩ := allConsistOf_append.mp h
      have houtput := (allConsistOf_append.mp h).2
      simp only [fields, List.cons_append, allConsistOf_cons, allConsistOf_append]
      exact ⟨consistsOf_completionText houtput,
        (allConsistOf_signatures houtput).printableOrBreak, hfailure.printableOrBreak⟩
  | tool id function arguments view result failure =>
      obtain ⟨harguments, hview, hresult, hfailure⟩ := allConsistOf_strings_tool h
      have hwritten := (Json.consistsOf_print (.object arguments) harguments).printableOrBreak
      simp only [fields, allConsistOf_append, allConsistOf_cons]
      refine ⟨⟨?written, ?shown⟩, consistsOf_toolResultText hresult, hfailure.printableOrBreak⟩
      case written =>
        split
        · exact allConsistOf_nil
        · exact allConsistOf_cons.mpr ⟨hwritten, allConsistOf_nil⟩
      case shown =>
        split
        · next view' hfilled => exact (hview view' hfilled).printableOrBreak
        · exact allConsistOf_nil
  | error detail => exact h.printableOrBreak
  | info source data =>
      have hdata := (allConsistOf_append.mp h).2
      simpa [fields] using (consistsOf_valueText hdata).printableOrBreak
  | logger record => exact (allConsistOf_cons.mp h).2.printableOrBreak
  | input text => exact h.printableOrBreak
  | approval request decision explanation => exact h.printableOrBreak
  | score detail =>
      simp only [strings, allConsistOf_append] at h
      simp only [fields, allConsistOf_cons, allConsistOf_append]
      exact ⟨(consistsOf_valueText h.1.1).printableOrBreak, h.1.2.printableOrBreak,
        h.2.printableOrBreak⟩
  | state changes => exact allConsistOf_summaries h
  | store changes => exact allConsistOf_summaries h
  | subtask name given result =>
      simp only [strings, List.cons_append, allConsistOf_cons, allConsistOf_append] at h
      simp only [fields, allConsistOf_cons]
      exact ⟨(consistsOf_valueText h.2.1).printableOrBreak,
        (consistsOf_valueText h.2.2).printableOrBreak, allConsistOf_nil⟩
  | sandbox action command output => exact (allConsistOf_cons.mp h).2.printableOrBreak
  | message chat =>
      obtain ⟨hcontent, hcalls⟩ := allConsistOf_append.mp h
      simp only [fields, allConsistOf_cons]
      exact ⟨consistsOf_visibleText hcontent,
        (allConsistOf_map_signature hcalls).printableOrBreak⟩
  | _ => exact allConsistOf_nil

end Event

end Printable

end TranscriptSearch
