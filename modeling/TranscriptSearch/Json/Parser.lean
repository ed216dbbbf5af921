import TranscriptSearch.Json.Value

/-!
Reading JSON text.  The grammar is the standard's, with arrays and objects nested at most 127
deep; a number with fraction or exponent, or too long for 64 bits, is read as a floating-point
number from as many of its first digits as fit 64 bits.
-/
namespace TranscriptSearch.Json

/-- What is left of a text after something has been read from its front. -/
abbrev Rest (cs : List Char) := { rest : List Char // rest.length < cs.length }

/-- What is left of a text after something or nothing has been read from its front. -/
abbrev Tail (cs : List Char) := { rest : List Char // rest.length ≤ cs.length }

def Rest.widen {shorter cs : List Char} (rest : Rest shorter) (h : shorter.length ≤ cs.length) :
    Rest cs :=
  ⟨rest.1, Nat.lt_of_lt_of_le rest.2 h⟩

def isSpace (c : Char) : Bool :=
  c = ' ' || c = '\t' || c = '\n' || c = '\r'

def skipSpace (cs : List Char) : List Char :=
  cs.dropWhile isSpace

theorem length_skipSpace_le (cs : List Char) : (skipSpace cs).length ≤ cs.length :=
  (List.dropWhile_sublist isSpace).length_le

def hexValue? (c : Char) : Option Nat :=
  if '0' ≤ c ∧ c ≤ '9' then some (c.toNat - 48)
  else if 'a' ≤ c ∧ c ≤ 'f' then some (c.toNat - 87)
  else if 'A' ≤ c ∧ c ≤ 'F' then some (c.toNat - 55)
  else none

def hexValues? (a b c d : Char) : Option Nat := do
  return ((← hexValue? a) * 16 + (← hexValue? b)) * 256 + (← hexValue? c) * 16 + (← hexValue? d)

def simpleEscape? : Char → Option Char
  | '"' => some '"'
  | '\\' => some '\\'
  | '/' => some '/'
  | 'b' => some '\x08'
  | 'f' => some '\x0c'
  | 'n' => some '\n'
  | 'r' => some '\r'
  | 't' => some '\t'
  | _ => none

/-- The rest of a string behind its opening quote, up to the closing one.  Two escapes may
together name a character above U+FFFF; half of such a pair is refused. -/
def readChars : (cs : List Char) → Option (List Char × Rest cs)
  | '"' :: rest => some ([], ⟨rest, by simp⟩)
  | '\\' :: 'u' :: a :: b :: c :: d :: rest =>
    match hexValues? a b c d with
    | none => none
    | some code =>
      if 0xD800 ≤ code ∧ code < 0xDC00 then
        match rest with
        | '\\' :: 'u' :: e :: f :: g :: h :: rest =>
          match hexValues? e f g h, readChars rest with
          | some low, some (cs, rest) =>
            if 0xDC00 ≤ low ∧ low < 0xE000 then
              some (Char.ofNat (0x10000 + (code - 0xD800) * 0x400 + (low - 0xDC00)) :: cs,
                rest.widen (by simp +arith))
            else none
          | _, _ => none
        | _ => none
      else if 0xDC00 ≤ code ∧ code < 0xE000 then none
      else (readChars rest).map fun (cs, rest) =>
        (Char.ofNat code :: cs, rest.widen (by simp +arith))
  | '\\' :: c :: rest =>
    match simpleEscape? c, readChars rest with
    | some escaped, some (cs, rest) => some (escaped :: cs, rest.widen (by simp +arith))
    | _, _ => none
  | c :: rest =>
    if c.toNat < 0x20 then none
    else (readChars rest).map fun (cs, rest) => (c :: cs, rest.widen (by simp +arith))
  | [] => none

def maxWord : Nat := UInt64.size - 1

/-- A number that begins with the given digits and goes on with as many more as fit 64 bits, and
the count of the digits that did not. -/
def accumulate (significand : Nat) : List Char → Nat × Nat
  | [] => (significand, 0)
  | c :: digits =>
    let next := significand * 10 + (c.toNat - 48)
    if next ≤ maxWord then accumulate next digits else (significand, digits.length + 1)

/-- The parts of a written number. -/
structure Literal where
  negative : Bool
  whole : List Char
  fraction : Option (List Char)
  /-- The exponent, with its sign. -/
  exponent : Option Int

/-- The number that a literal stands for.  Digits that do not fit 64 bits count only by their
place. -/
def Literal.value? (literal : Literal) : Option Number := do
  let (significand, skipped) := accumulate 0 literal.whole
  match literal.fraction, literal.exponent, skipped with
  | none, none, 0 =>
    if !literal.negative then return .int significand
    else if 0 < significand ∧ significand ≤ UInt64.size / 2 then return .int (-significand)
    else
      let x ← Binary64.ofRatio? significand 1
      return .float x.neg
  | fraction, exponent, skipped =>
    let places := fraction.getD []
    let (significand, unread) := accumulate significand places
    let power : Int := skipped - (places.length - unread : Nat) + exponent.getD 0
    let x ← Binary64.ofDecimal? significand power
    return .float (if literal.negative then x.neg else x)

def natOfDigits (digits : List Char) : Nat :=
  digits.foldl (fun n c => n * 10 + (c.toNat - 48)) 0

/-- The digits at the front of a text, of which there must be one. -/
def readDigits : (cs : List Char) → Option (List Char × Rest cs)
  | [] => none
  | c :: cs =>
    if c.isDigit then
      some (c :: cs.takeWhile Char.isDigit, ⟨cs.dropWhile Char.isDigit, by
        have := (List.dropWhile_sublist (l := cs) Char.isDigit).length_le
        simp only [List.length_cons]
        omega⟩)
    else none

def readFraction : (cs : List Char) → Option (Option (List Char) × Tail cs)
  | '.' :: cs => (readDigits cs).map fun (digits, rest) =>
    (some digits, ⟨rest.1, by have := rest.2; simp only [List.length_cons]; omega⟩)
  | cs => some (none, ⟨cs, Nat.le_refl _⟩)

def readSign : (cs : List Char) → Int × Tail cs
  | '-' :: cs => (-1, ⟨cs, by simp⟩)
  | '+' :: cs => (1, ⟨cs, by simp⟩)
  | cs => (1, ⟨cs, Nat.le_refl _⟩)

def readExponent : (cs : List Char) → Option (Option Int × Tail cs)
  | [] => some (none, ⟨[], Nat.le_refl _⟩)
  | c :: cs =>
    if c = 'e' ∨ c = 'E' then
      let (sign, cs') := readSign cs
      (readDigits cs'.1).map fun (digits, rest) =>
        (some (sign * natOfDigits digits), ⟨rest.1, by
          have := rest.2
          have := cs'.2
          simp only [List.length_cons]
          omega⟩)
    else some (none, ⟨c :: cs, Nat.le_refl _⟩)

/-- Whether the digits of a whole number have a zero in front that does not count. -/
def hasLeadingZero (digits : List Char) : Bool :=
  digits.head? = some '0' && digits.length ≠ 1

/-- The literal at the front of a text, behind the minus sign if it has one. -/
def readUnsigned (negative : Bool) (cs : List Char) : Option (Literal × Rest cs) :=
  match readDigits cs with
  | none => none
  | some (whole, rest) =>
    if hasLeadingZero whole then none
    else
      match readFraction rest.1 with
      | none => none
      | some (fraction, rest') =>
        match readExponent rest'.1 with
        | none => none
        | some (exponent, rest'') =>
          some (⟨negative, whole, fraction, exponent⟩, ⟨rest''.1, by
            have := rest.2
            have := rest'.2
            have := rest''.2
            omega⟩)

def readNumber (cs : List Char) : Option (Number × Rest cs) :=
  let literal? : Option (Literal × Rest cs) :=
    match cs with
    | '-' :: rest =>
      (readUnsigned true rest).map fun (literal, rest) => (literal, rest.widen (by simp))
    | cs => readUnsigned false cs
  match literal? with
  | some (literal, rest) => literal.value?.map (·, rest)
  | none => none

def readWord (word cs : List Char) (h : word ≠ []) : Option (Rest cs) :=
  if hp : word.isPrefixOf cs then
    some ⟨cs.drop word.length, by
      have := (List.isPrefixOf_iff_prefix.1 hp).length_le
      have := List.length_pos_iff.2 h
      simp only [List.length_drop]
      omega⟩
  else none

/-- The items of an array behind the first item's place, each read by `readItem`, up to the
closing bracket. -/
def readItems (readItem : (cs : List Char) → Option (Value × Rest cs)) (cs : List Char) :
    Option (List Value × Rest cs) :=
  match readItem (skipSpace cs) with
  | none => none
  | some (item, rest) =>
    match h : skipSpace rest.1 with
    | ']' :: after =>
      some ([item], ⟨after, by
        have := rest.2
        have := length_skipSpace_le cs
        have h' := length_skipSpace_le rest.1
        rw [h, List.length_cons] at h'
        omega⟩)
    | ',' :: after =>
      have hlt : after.length < cs.length := by
        have := rest.2
        have := length_skipSpace_le cs
        have h' := length_skipSpace_le rest.1
        rw [h, List.length_cons] at h'
        omega
      (readItems readItem after).map fun (items, rest) =>
        (item :: items, rest.widen (Nat.le_of_lt hlt))
    | _ => none
termination_by cs.length

/-- One member of an object, where each value is read by `readItem`. -/
def readMember (readItem : (cs : List Char) → Option (Value × Rest cs)) (cs : List Char) :
    Option ((String × Value) × Rest cs) :=
  match h : skipSpace cs with
  | '"' :: rest =>
    match readChars rest with
    | none => none
    | some (key, rest') =>
      match h' : skipSpace rest'.1 with
      | ':' :: rest'' =>
        (readItem (skipSpace rest'')).map fun (value, last) =>
          ((.ofList key, value), ⟨last.1, by
            have h₁ := length_skipSpace_le cs
            have h₂ := length_skipSpace_le rest'.1
            have h₃ := length_skipSpace_le rest''
            have := rest'.2
            have := last.2
            rw [h, List.length_cons] at h₁
            rw [h', List.length_cons] at h₂
            omega⟩)
      | _ => none
  | _ => none

/-- The members of an object behind the first member's place, up to the closing brace. -/
def readMembers (readItem : (cs : List Char) → Option (Value × Rest cs)) (cs : List Char) :
    Option (List (String × Value) × Rest cs) :=
  match readMember readItem cs with
  | none => none
  | some (member, rest) =>
    match h : skipSpace rest.1 with
    | '\x7d' :: after =>
      some ([member], ⟨after, by
        have := rest.2
        have h' := length_skipSpace_le rest.1
        rw [h, List.length_cons] at h'
        omega⟩)
    | ',' :: after =>
      have hlt : after.length < cs.length := by
        have := rest.2
        have h' := length_skipSpace_le rest.1
        rw [h, List.length_cons] at h'
        omega
      (readMembers readItem after).map fun (members, rest) =>
        (member :: members, rest.widen (Nat.le_of_lt hlt))
    | _ => none
termination_by cs.length

/-- Members sorted by key.  Of members with one key the last stays. -/
def sortMembers (members : List (String × Value)) : List (String × Value) :=
  members.foldl (fun sorted (key, value) => insertMember key value sorted) []

/-- The value at the front of a text, with arrays and objects nested at most `depth` deep. -/
def readValue (depth : Nat) (cs : List Char) : Option (Value × Rest cs) :=
  match cs with
  | [] => none
  | c :: rest =>
    match c with
    | 'n' => (readWord "null".toList (c :: rest) (by decide)).map (.null, ·)
    | 't' => (readWord "true".toList (c :: rest) (by decide)).map (.bool true, ·)
    | 'f' => (readWord "false".toList (c :: rest) (by decide)).map (.bool false, ·)
    | '"' => (readChars rest).map fun (text, after) =>
        (.string (.ofList text), after.widen (by simp))
    | '[' =>
      match depth with
      | 0 => none
      | depth + 1 =>
        match h : skipSpace rest with
        | ']' :: after => some (.array [], ⟨after, by
            have h' := length_skipSpace_le rest
            rw [h, List.length_cons] at h'
            simp only [List.length_cons]
            omega⟩)
        | _ => (readItems (readValue depth) rest).map fun (items, after) =>
            (.array items, after.widen (by simp))
    | '\x7b' =>
      match depth with
      | 0 => none
      | depth + 1 =>
        match h : skipSpace rest with
        | '\x7d' :: after => some (.object [], ⟨after, by
            have h' := length_skipSpace_le rest
            rw [h, List.length_cons] at h'
            simp only [List.length_cons]
            omega⟩)
        | _ => (readMembers (readValue depth) rest).map fun (members, after) =>
            (.object (sortMembers members), after.widen (by simp))
    | _ => (readNumber (c :: rest)).map fun (value, after) => (.number value, after)

def maxDepth : Nat := 127

def parse? (text : String) : Option Value :=
  match readValue maxDepth (skipSpace text.toList) with
  | some (value, rest) => if skipSpace rest.1 = [] then some value else none
  | none => none

end TranscriptSearch.Json
