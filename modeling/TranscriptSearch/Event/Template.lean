import TranscriptSearch.Event.Message

namespace TranscriptSearch

open Json (Value)

/-- The markup of a presentation. -/
inductive ViewFormat where
  | text
  | markdown
deriving DecidableEq

/-- The presentation of a tool call. -/
structure ToolView where
  title : Option String
  format : ViewFormat
  content : String
deriving DecidableEq

def ToolView.displayText (view : ToolView) : String :=
  match view.title with
  | some title => title ++ "\n\n" ++ view.content
  | none => view.content

namespace Template

/-- What comes before and behind the first place where a character stands twice. -/
def splitAtPair (mark : Char) : List Char → Option (List Char × List Char)
  | a :: b :: rest =>
    if a = mark ∧ b = mark then some ([], rest)
    else (splitAtPair mark (b :: rest)).map fun (before, after) => (a :: before, after)
  | _ => none

theorem length_of_splitAtPair {mark : Char} {cs before after : List Char}
    (h : splitAtPair mark cs = some (before, after)) :
    before.length + after.length + 2 = cs.length := by
  fun_induction splitAtPair mark cs generalizing before after with
  | case1 a b rest hab =>
    simp only [Option.some.injEq, Prod.mk.injEq] at h
    simp [← h.1, ← h.2]
  | case2 a b rest hab ih =>
    simp only [Option.map_eq_some_iff, Prod.mk.injEq, Prod.exists] at h
    obtain ⟨before', after', h', rfl, rfl⟩ := h
    have := ih h'
    simp only [List.length_cons] at this ⊢
    omega
  | case3 => simp at h

/-- The text that an argument puts in the place of its placeholder: a string itself, any other
value as JSON. -/
def argumentText : Value → List Char
  | .string text => text.toList
  | value => value.print.toList

/-- A template with the placeholders of known arguments replaced.  An opening pair of braces goes
with the next closing pair; the placeholder of an unknown argument stays, and so does an opening
pair without a closing one.  Inserted text is not looked at again. -/
def fill (arguments : Members) (template : List Char) : List Char :=
  match h : splitAtPair '\x7b' template with
  | none => template
  | some (before, afterOpen) =>
    match h' : splitAtPair '\x7d' afterOpen with
    | none => template
    | some (key, rest) =>
      have : rest.length < template.length := by
        have := length_of_splitAtPair h
        have := length_of_splitAtPair h'
        omega
      let inserted := match arguments.lookup (.ofList key) with
        | some value => argumentText value
        | none => ['\x7b', '\x7b'] ++ key ++ ['\x7d', '\x7d']
      before ++ inserted ++ fill arguments rest
termination_by template.length

end Template

/-- A presentation with its placeholders replaced by arguments. -/
def ToolView.fill (view : ToolView) (arguments : Members) : ToolView :=
  let fillText (text : String) : String := .ofList (Template.fill arguments text.toList)
  { view with title := view.title.map fillText, content := fillText view.content }

end TranscriptSearch
