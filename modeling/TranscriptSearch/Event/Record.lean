import TranscriptSearch.Json.Value

/-!
Reading records from JSON.  A record is an object whose members are its fields, or an array of its
fields in their order; members of other names do not matter, but further items do.  Nothing is
converted: a field is read only from a value of its own kind.
-/
namespace TranscriptSearch.Record

open Json (Value)

/-- The fields of a record, in the order of their names; a field that is left out is `none`. -/
def fields? (names : List String) : Value → Option (List (Option Value))
  | .object members => some (names.map fun name => members.lookup name)
  | .array items =>
    if items.length ≤ names.length then
      some (items.map some ++ List.replicate (names.length - items.length) none)
    else none
  | _ => none

/-- The tag of a tagged record, which is the member of the given key or the first item, and the
record itself. -/
def tagged? (key : String) (readTag : Value → Option String) :
    Value → Option (String × Value)
  | .object members => ((members.lookup key).bind readTag).map (·, .object members)
  | .array (tag :: items) => (readTag tag).map (·, .array items)
  | _ => none

def required? {α : Type} (read : Value → Option α) (field : Option Value) : Option α :=
  field.bind read

def defaulted? {α : Type} (default : α) (read : Value → Option α) : Option Value → Option α
  | none => some default
  | some value => read value

def optional? {α : Type} (read : Value → Option α) : Option Value → Option (Option α)
  | none | some .null => some none
  | some value => (read value).map some

def any? (value : Value) : Option Value :=
  some value

def list? {α : Type} (read : Value → Option α) (value : Value) : Option (List α) :=
  value.items?.bind (·.mapM read)

def members? : Value → Option (List (String × Value))
  | .object members => some members
  | _ => none

/-- How a word may be written besides as a string: as the only key of an object whose value is
null, or also whose value is the empty object. -/
inductive WordForm where
  | null
  | nullOrEmpty

def word? (form : WordForm) : Value → Option String
  | .string word => some word
  | .object [(word, .null)] => some word
  | .object [(word, .object [])] =>
    match form with
    | .null => none
    | .nullOrEmpty => some word
  | _ => none

/-- The one of the given things that goes by the word a value is written for. -/
def named? {α : Type} (form : WordForm) (all : List α) (name : α → String) (value : Value) :
    Option α :=
  (word? form value).bind fun word => all.find? (name · == word)

end TranscriptSearch.Record
