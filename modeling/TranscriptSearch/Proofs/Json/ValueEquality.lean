import TranscriptSearch.Json.Value

namespace TranscriptSearch.Json

mutual

def Value.same : Value → Value → Bool
  | .null, .null => true
  | .bool a, .bool b => a = b
  | .number a, .number b => a = b
  | .string a, .string b => a = b
  | .array a, .array b => sameItems a b
  | .object a, .object b => sameMembers a b
  | _, _ => false

def sameItems : List Value → List Value → Bool
  | [], [] => true
  | a :: as, b :: bs => a.same b && sameItems as bs
  | _, _ => false

def sameMembers : List (String × Value) → List (String × Value) → Bool
  | [], [] => true
  | (key, a) :: as, (other, b) :: bs => key = other && a.same b && sameMembers as bs
  | _, _ => false

end

mutual

theorem Value.same_iff : (a b : Value) → (a.same b = true ↔ a = b)
  | .null, b => by cases b <;> simp [Value.same]
  | .bool a, b => by cases b <;> simp [Value.same]
  | .number a, b => by cases b <;> simp [Value.same]
  | .string a, b => by cases b <;> simp [Value.same]
  | .array a, b => by
      cases b with
      | array b => simp [Value.same, sameItems_iff a b]
      | _ => simp [Value.same]
  | .object a, b => by
      cases b with
      | object b => simp [Value.same, sameMembers_iff a b]
      | _ => simp [Value.same]

theorem sameItems_iff : (as bs : List Value) → (sameItems as bs = true ↔ as = bs)
  | [], bs => by cases bs <;> simp [sameItems]
  | a :: as, bs => by
      cases bs with
      | nil => simp [sameItems]
      | cons b bs => simp [sameItems, a.same_iff b, sameItems_iff as bs]

theorem sameMembers_iff : (as bs : List (String × Value)) → (sameMembers as bs = true ↔ as = bs)
  | [], bs => by cases bs <;> simp [sameMembers]
  | (key, a) :: as, bs => by
      cases bs with
      | nil => simp [sameMembers]
      | cons member bs =>
          obtain ⟨other, b⟩ := member
          simp [sameMembers, a.same_iff b, sameMembers_iff as bs]

end

instance : DecidableEq Value :=
  fun a b => decidable_of_iff (a.same b = true) (a.same_iff b)

end TranscriptSearch.Json
