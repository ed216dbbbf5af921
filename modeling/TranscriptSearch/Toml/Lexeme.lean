import TranscriptSearch.Timestamp

namespace TranscriptSearch.Toml

def isBlank (c : Char) : Bool :=
  c = ' ' || c = '\t'

def skipBlanks (cs : List Char) : List Char :=
  cs.dropWhile isBlank

/-- A character that may stand in a comment or, as it is, in a string: anything but a control
character of ASCII other than a tab. -/
def isTextChar (c : Char) : Bool :=
  c = '\t' || 0x20 ≤ c.toNat && c.toNat ≠ 0x7F

/-- A text without the comment at its front, if there is one. -/
def skipComment : List Char → List Char
  | '#' :: cs => cs.dropWhile isTextChar
  | cs => cs

def afterBreak? : List Char → Option (List Char)
  | '\n' :: cs => some cs
  | '\r' :: '\n' :: cs => some cs
  | _ => none

/-- What is left behind the end of a line, on which nothing but a comment may still stand. -/
def afterLine? (cs : List Char) : Option (List Char) :=
  match skipComment (skipBlanks cs) with
  | [] => some []
  | cs => afterBreak? cs

def skipBreaks : List Char → List Char
  | '\r' :: '\n' :: cs => skipBreaks cs
  | c :: cs => if isBlank c || c = '\n' then skipBreaks cs else c :: cs
  | [] => []

/-- A text without the blanks, line breaks and comments at its front, up to a number of
comments. -/
def skipLayoutFor : Nat → List Char → List Char
  | 0, cs => cs
  | fuel + 1, cs =>
    match skipBreaks cs with
    | '#' :: rest => skipLayoutFor fuel (rest.dropWhile isTextChar)
    | rest => rest

/-- A text without the blanks, line breaks and comments at its front. -/
def skipLayout (cs : List Char) : List Char :=
  skipLayoutFor (cs.length + 1) cs

def digitValue? (base : Nat) (c : Char) : Option Nat :=
  let value? : Option Nat :=
    if '0' ≤ c ∧ c ≤ '9' then some (c.toNat - 48)
    else if 'a' ≤ c ∧ c ≤ 'f' then some (c.toNat - 87)
    else if 'A' ≤ c ∧ c ≤ 'F' then some (c.toNat - 55)
    else none
  value?.filter (· < base)

def ofDigits (base : Nat) (digits : List Char) : Nat :=
  digits.foldl (fun n c => n * base + (digitValue? base c).getD 0) 0

/-- The character with a code that is written in a fixed number of hexadecimal digits. -/
def readCode (count : Nat) (cs : List Char) : Option (Char × List Char) :=
  let digits := cs.take count
  if digits.length = count ∧ digits.all fun c => (digitValue? 16 c).isSome then
    let code := ofDigits 16 digits
    if code < 0xD800 ∨ 0xDFFF < code ∧ code < 0x110000 then
      some (.ofNat code, cs.drop count)
    else none
  else none

/-- The character that an escape stands for, behind its backslash. -/
def readEscape : List Char → Option (Char × List Char)
  | 'b' :: cs => some ('\x08', cs)
  | 't' :: cs => some ('\t', cs)
  | 'n' :: cs => some ('\n', cs)
  | 'f' :: cs => some ('\x0c', cs)
  | 'r' :: cs => some ('\r', cs)
  | '"' :: cs => some ('"', cs)
  | '\\' :: cs => some ('\\', cs)
  | 'u' :: cs => readCode 4 cs
  | 'U' :: cs => readCode 8 cs
  | _ => none

/-- The rest of a string of one line with escapes, up to its closing quote. -/
def readBasicFor : Nat → List Char → Option (List Char × List Char)
  | _, '"' :: cs => some ([], cs)
  | fuel + 1, '\\' :: cs => do
    let (c, cs) ← readEscape cs
    let (text, cs) ← readBasicFor fuel cs
    return (c :: text, cs)
  | fuel + 1, c :: cs =>
    if isTextChar c then (readBasicFor fuel cs).map fun (text, cs) => (c :: text, cs) else none
  | _, _ => none

/-- The rest of a string of one line without escapes, up to its closing quote. -/
def readLiteral (cs : List Char) : Option (List Char × List Char) :=
  let isContent := fun c => isTextChar c && c ≠ '\''
  match cs.dropWhile isContent with
  | '\'' :: rest => some (cs.takeWhile isContent, rest)
  | _ => none

/-- A text without the line break at its front, if there is one. -/
def skipOneBreak (cs : List Char) : List Char :=
  (afterBreak? cs).getD cs

/-- The end of a string of several lines, at the quotes in front of which it stands.  Of more than
three quotes, up to two still belong to the string. -/
def closeLong (quote : Char) (cs : List Char) : List Char × List Char :=
  let extra := min ((cs.takeWhile (· = quote)).length - 3) 2
  (List.replicate extra quote, cs.drop (3 + extra))

/-- The rest of a string of several lines, with escapes if it is quoted by `"`. -/
def readLongFor (quote : Char) : Nat → List Char → Option (List Char × List Char)
  | 0, _ => none
  | _, [] => none
  | fuel + 1, c :: cs =>
    if c = quote ∧ cs.take 2 = [quote, quote] then some (closeLong quote (c :: cs))
    else if c = '\\' ∧ quote = '"' then
      match afterBreak? (skipBlanks cs) with
      | some cs => readLongFor quote fuel (skipBreaks cs)
      | none => do
        let (c, cs) ← readEscape cs
        let (text, cs) ← readLongFor quote fuel cs
        return (c :: text, cs)
    else
      match afterBreak? (c :: cs) with
      | some cs => (readLongFor quote fuel cs).map fun (text, cs) => ('\n' :: text, cs)
      | none =>
        if isTextChar c then
          (readLongFor quote fuel cs).map fun (text, cs) => (c :: text, cs)
        else none

def readShortString : List Char → Option (String × List Char)
  | '"' :: cs => (readBasicFor (cs.length + 1) cs).map fun (text, cs) => (.ofList text, cs)
  | '\'' :: cs => (readLiteral cs).map fun (text, cs) => (.ofList text, cs)
  | _ => none

def readString (cs : List Char) : Option (String × List Char) :=
  let long (quote : Char) (cs : List Char) : Option (String × List Char) :=
    let cs := skipOneBreak cs
    (readLongFor quote (cs.length + 1) cs).map fun (text, cs) => (.ofList text, cs)
  match cs with
  | '"' :: '"' :: '"' :: rest => long '"' rest
  | '\'' :: '\'' :: '\'' :: rest => long '\'' rest
  | cs => readShortString cs

def isKeyChar (c : Char) : Bool :=
  c.isAlphanum || c = '-' || c = '_'

def readKeyPart (cs : List Char) : Option (String × List Char) :=
  match cs.takeWhile isKeyChar with
  | [] => readShortString cs
  | part => some (.ofList part, cs.dropWhile isKeyChar)

def readKeyFor : Nat → List Char → Option (List String × List Char)
  | 0, _ => none
  | fuel + 1, cs => do
    let (part, cs) ← readKeyPart (skipBlanks cs)
    match skipBlanks cs with
    | '.' :: cs =>
      let (parts, cs) ← readKeyFor fuel cs
      return (part :: parts, cs)
    | cs => return ([part], cs)

/-- How many levels arrays, tables in braces and dotted keys stay below. -/
def maxLevels : Nat := 80

def readKey (cs : List Char) : Option (List String × List Char) :=
  (readKeyFor (cs.length + 1) cs).filter fun (parts, _) => parts.length < maxLevels

def readDigitsFor (base : Nat) : Nat → List Char → Option (List Char × List Char)
  | 0, _ => none
  | _, [] => none
  | fuel + 1, c :: cs =>
    if (digitValue? base c).isNone then none
    else
      match cs with
      | '_' :: cs => (readDigitsFor base fuel cs).map fun (digits, cs) => (c :: digits, cs)
      | d :: _ =>
        if (digitValue? base d).isNone then some ([c], cs)
        else (readDigitsFor base fuel cs).map fun (digits, cs) => (c :: digits, cs)
      | [] => some ([c], [])

def readDigits (base : Nat) (cs : List Char) : Option (List Char × List Char) :=
  readDigitsFor base (cs.length + 1) cs

def readSign : List Char → Bool × List Char
  | '-' :: cs => (true, cs)
  | '+' :: cs => (false, cs)
  | cs => (false, cs)

/-- The digits of a decimal whole number.  A zero has no digits behind it. -/
def readWhole : List Char → Option (List Char × List Char)
  | '0' :: cs => some (['0'], cs)
  | cs => readDigits 10 cs

def fitsWord (value : Int) : Bool :=
  let bound : Nat := UInt64.size / 2
  value < bound && -bound ≤ value

def readInteger (cs : List Char) : Option (Int × List Char) :=
  let based (base : Nat) (cs : List Char) : Option (Int × List Char) :=
    (readDigits base cs).map fun (digits, cs) => (ofDigits base digits, cs)
  let number? : Option (Int × List Char) := match cs with
    | '0' :: 'x' :: cs => based 16 cs
    | '0' :: 'o' :: cs => based 8 cs
    | '0' :: 'b' :: cs => based 2 cs
    | cs =>
      let (negative, cs) := readSign cs
      (readWhole cs).map fun (digits, cs) =>
        let value : Int := ofDigits 10 digits
        (if negative then -value else value, cs)
  number?.filter fun (value, _) => fitsWord value

/-- Whether `significand * 10 ^ power` is rounded to infinity as a floating-point number of 64
bits. -/
def isInfinite (significand : Nat) (power : Int) : Bool :=
  let limit : Nat := Nat.pow 2 1024 - Nat.pow 2 970
  if significand = 0 then false
  else if 0 ≤ power then 400 < power || limit ≤ significand * Nat.pow 10 power.toNat
  else
    let digits := (toString significand).length
    (-power).toNat < digits && limit * Nat.pow 10 (-power).toNat ≤ significand

def readExponent (cs : List Char) : Option (Option Int × List Char) :=
  match cs with
  | c :: rest =>
    if c = 'e' ∨ c = 'E' then
      let (negative, rest) := readSign rest
      (readDigits 10 rest).map fun (digits, rest) =>
        let value : Int := ofDigits 10 digits
        (some (if negative then -value else value), rest)
    else some (none, cs)
  | [] => some (none, cs)

/-- A number with a fraction or an exponent.  One that is too large is refused, unless it is
negative. -/
def readDecimal (cs : List Char) : Option (Unit × List Char) := do
  let (negative, cs) := readSign cs
  let (whole, cs) ← readWhole cs
  let (fraction, cs) ← match cs with
    | '.' :: cs => (readDigits 10 cs).map fun (digits, cs) => (some digits, cs)
    | cs => some (none, cs)
  let (exponent, cs) ← readExponent cs
  if fraction.isNone ∧ exponent.isNone then none
  else
    let places := fraction.getD []
    let power : Int := exponent.getD 0 - places.length
    if !negative ∧ isInfinite (ofDigits 10 (whole ++ places)) power then none
    else return ((), cs)

def afterWord? (word : String) (cs : List Char) : Option (List Char) :=
  if word.toList.isPrefixOf cs then some (cs.drop word.length) else none

/-- A number that is not whole: a decimal one, infinity, or none at all. -/
def readFloat (cs : List Char) : Option (Unit × List Char) :=
  let special : Option (Unit × List Char) :=
    let cs := (readSign cs).2
    ((afterWord? "inf" cs).orElse fun _ => afterWord? "nan" cs).map fun cs => ((), cs)
  (readDecimal cs).orElse fun _ => special

def readTwoDigits (limit : Nat) : List Char → Option (Nat × List Char)
  | a :: b :: cs => ((Timestamp.twoDigits? a b).filter (· ≤ limit)).map fun n => (n, cs)
  | _ => none

def afterChar? (c : Char) : List Char → Option (List Char)
  | d :: cs => if c = d then some cs else none
  | [] => none

def readDate (cs : List Char) : Option (Unit × List Char) := do
  let (century, cs) ← readTwoDigits 99 cs
  let (year, cs) ← readTwoDigits 99 cs
  let (month, cs) ← readTwoDigits 12 (← afterChar? '-' cs)
  let (day, cs) ← readTwoDigits 31 (← afterChar? '-' cs)
  let date : CalendarDate := ⟨century * 100 + year, month, day⟩
  if date.isValid then return ((), cs) else none

def readTime (cs : List Char) : Option (Unit × List Char) := do
  let (_, cs) ← readTwoDigits 23 cs
  let (_, cs) ← readTwoDigits 59 (← afterChar? ':' cs)
  let (_, cs) ← readTwoDigits 60 (← afterChar? ':' cs)
  let (_, cs) ← Timestamp.readFraction? cs
  return ((), cs)

def readOffset : List Char → Option (Unit × List Char)
  | 'Z' :: cs => some ((), cs)
  | 'z' :: cs => some ((), cs)
  | c :: cs =>
    if c = '+' ∨ c = '-' then do
      let (_, cs) ← readTwoDigits 23 cs
      let (_, cs) ← readTwoDigits 59 (← afterChar? ':' cs)
      return ((), cs)
    else none
  | [] => none

def readDatetime (cs : List Char) : Option (Unit × List Char) :=
  match readDate cs with
  | none => readTime cs
  | some (_, afterDate) =>
    match afterDate with
    | [] => some ((), [])
    | delimiter :: rest =>
      if delimiter = 'T' ∨ delimiter = 't' ∨ delimiter = ' ' then
        match readTime rest with
        | none => some ((), afterDate)
        | some (_, afterTime) => some ((readOffset afterTime).getD ((), afterTime))
      else some ((), afterDate)

end TranscriptSearch.Toml
