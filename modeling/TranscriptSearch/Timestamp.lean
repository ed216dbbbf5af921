import TranscriptSearch.Text.Blank

namespace TranscriptSearch

/-- A day of the calendar. -/
structure CalendarDate where
  year : Int
  month : Nat
  day : Nat
deriving DecidableEq

namespace CalendarDate

def isLeapYear (year : Int) : Bool :=
  year % 4 = 0 && (year % 100 ≠ 0 || year % 400 = 0)

def daysInMonth (year : Int) (month : Nat) : Nat :=
  if month = 2 then (if isLeapYear year then 29 else 28)
  else if month = 4 ∨ month = 6 ∨ month = 9 ∨ month = 11 then 30
  else 31

def isValid (date : CalendarDate) : Bool :=
  1 ≤ date.month && date.month ≤ 12 && 1 ≤ date.day &&
    date.day ≤ daysInMonth date.year date.month

def next (date : CalendarDate) : CalendarDate :=
  if date.day < daysInMonth date.year date.month then { date with day := date.day + 1 }
  else if date.month < 12 then ⟨date.year, date.month + 1, 1⟩
  else ⟨date.year + 1, 1, 1⟩

def previous (date : CalendarDate) : CalendarDate :=
  if 1 < date.day then { date with day := date.day - 1 }
  else if 1 < date.month then ⟨date.year, date.month - 1, daysInMonth date.year (date.month - 1)⟩
  else ⟨date.year - 1, 12, 31⟩

end CalendarDate

/-- A point in time, in Coordinated Universal Time.  The second may be 60. -/
structure Timestamp where
  date : CalendarDate
  /-- Minutes since midnight. -/
  minute : Nat
  second : Nat
  nanosecond : Nat
deriving DecidableEq

namespace Timestamp

def twoDigits? (a b : Char) : Option Nat :=
  if a.isDigit && b.isDigit then some ((a.toNat - 48) * 10 + (b.toNat - 48)) else none

/-- The fraction of a second at the front of a text, in nanoseconds, and the rest.  Digits behind
the ninth do not count. -/
def readFraction? : List Char → Option (Nat × List Char)
  | '.' :: cs =>
    let digits := cs.takeWhile Char.isDigit
    if digits.isEmpty then none
    else
      let counted := (digits ++ List.replicate 9 '0').take 9
      some (counted.foldl (fun n c => n * 10 + (c.toNat - 48)) 0, cs.dropWhile Char.isDigit)
  | cs => some (0, cs)

def readOffset? : List Char → Option Int
  | ['Z'] | ['z'] => some 0
  | [sign, a, b, ':', c, d] => do
    let hours ← twoDigits? a b
    let minutes ← twoDigits? c d
    if 23 < hours ∨ 59 < minutes then none
    else if sign = '+' then some (hours * 60 + minutes : Nat)
    else if sign = '-' ∨ sign = '−' then some (-(hours * 60 + minutes : Nat))
    else none
  | _ => none

/-- The same time of day with its offset taken off, which may lead into the day before or
after. -/
def atUniversalTime (date : CalendarDate) (minute second nanosecond : Nat) (offset : Int) :
    Timestamp :=
  let shifted : Int := minute - offset
  if shifted < 0 then ⟨date.previous, (shifted + 1440).toNat, second, nanosecond⟩
  else if 1440 ≤ shifted then ⟨date.next, (shifted - 1440).toNat, second, nanosecond⟩
  else ⟨date, shifted.toNat, second, nanosecond⟩

/-- The point in time that a text stands for: date and time of day with `T` or a blank between
them, a fraction of a second or none, and an offset. -/
def parse? (text : String) : Option Timestamp :=
  match text.toList with
  | y₁ :: y₂ :: y₃ :: y₄ :: '-' :: m₁ :: m₂ :: '-' :: d₁ :: d₂ :: separator ::
      h₁ :: h₂ :: ':' :: n₁ :: n₂ :: ':' :: s₁ :: s₂ :: rest => do
    let date : CalendarDate :=
      ⟨(← twoDigits? y₁ y₂) * 100 + (← twoDigits? y₃ y₄), ← twoDigits? m₁ m₂, ← twoDigits? d₁ d₂⟩
    let hour ← twoDigits? h₁ h₂
    let minute ← twoDigits? n₁ n₂
    let second ← twoDigits? s₁ s₂
    let (nanosecond, rest) ← readFraction? rest
    let offset ← readOffset? rest
    let isSeparated := separator = 'T' || separator = 't' || separator = ' '
    if isSeparated && date.isValid && hour ≤ 23 && minute ≤ 59 && second ≤ 60 then
      return atUniversalTime date (hour * 60 + minute) second nanosecond offset
    else none
  | _ => none

/-- The number at the front of a text behind white space, of one digit and up to `limit`. -/
def readNumber? (limit : Nat) (cs : List Char) : Option (Nat × List Char) :=
  let cs := cs.dropWhile Text.isBlank
  let digits := (cs.takeWhile Char.isDigit).take limit
  if digits.isEmpty then none
  else some (digits.foldl (fun n c => n * 10 + (c.toNat - 48)) 0, cs.drop digits.length)

/-- The number at the front of a text, between a least and a greatest one. -/
def readBetween? (least greatest : Nat) (cs : List Char) : Option (Nat × List Char) :=
  (readNumber? 2 cs).filter fun (n, _) => least ≤ n && n ≤ greatest

/-- The rest of a text behind white space and a certain character. -/
def afterMark? (mark : Char) (cs : List Char) : Option (List Char) :=
  match cs.dropWhile Text.isBlank with
  | c :: cs => if c = mark then some cs else none
  | [] => none

/-- The year at the front of a text behind white space: up to four digits, or a sign and any
number of digits. -/
def readYear? (cs : List Char) : Option (Int × List Char) :=
  match cs.dropWhile Text.isBlank with
  | '-' :: cs => (readSigned cs).map fun (year, cs) => (-year, cs)
  | '+' :: cs => readSigned cs
  | cs => (readNumber? 4 cs).map fun (year, cs) => (year, cs)
where
  /-- The digits behind a sign, which must follow it at once. -/
  readSigned (cs : List Char) : Option (Int × List Char) :=
    if (cs.head?.map Char.isDigit).getD false then
      (readNumber? cs.length cs).map fun (year, cs) => (year, cs)
    else none

/-- The offset at the front of a text, in minutes, and the rest.  Hours and minutes may stand
apart. -/
def readLooseOffset? : List Char → Option (Int × List Char)
  | 'Z' :: cs | 'z' :: cs => some (0, cs)
  | sign :: a :: b :: cs =>
    if [sign, a, b].map Char.toUpper = ['U', 'T', 'C'] then some (0, cs)
    else
      match cs.dropWhile fun c => c = ':' || Text.isBlank c with
      | c :: d :: rest => do
        let hours ← twoDigits? a b
        let minutes ← twoDigits? c d
        if 23 < hours ∨ 59 < minutes then none
        else if sign = '+' then some (hours * 60 + minutes, rest)
        else if sign = '-' ∨ sign = '−' then some (-(hours * 60 + minutes), rest)
        else none
      | _ => none
  | _ => none

def knowsYear (year : Int) : Bool :=
  -262143 ≤ year && year ≤ 262142

/-- The point in time that a loosely written text stands for: white space may stand before every
part and at the end, numbers may be short, and a year may have a sign and more digits. -/
def parseLoose? (text : String) : Option Timestamp := do
  let (year, cs) ← readYear? text.toList
  let (month, cs) ← readBetween? 1 12 (← afterMark? '-' cs)
  let (day, cs) ← readBetween? 1 31 (← afterMark? '-' cs)
  let separator ← cs.head?
  let (hour, cs) ← readBetween? 0 23 cs.tail
  let (minute, cs) ← readBetween? 0 59 (← afterMark? ':' cs)
  let (second, cs) ← readBetween? 0 60 (← afterMark? ':' cs)
  let (nanosecond, cs) ← readFraction? cs
  let (offset, cs) ← readLooseOffset? (cs.dropWhile Text.isBlank)
  let date : CalendarDate := ⟨year, month, day⟩
  let time := atUniversalTime date (hour * 60 + minute) second nanosecond offset
  let isSeparated := separator = 'T' || separator = 't' || separator = ' '
  if isSeparated && Text.allBlank cs && date.isValid && knowsYear year &&
      knowsYear time.date.year then
    return time
  else none

/-- A number with zeros in front up to the given count of digits. -/
def padded (width n : Nat) : List Char :=
  let digits := Nat.toDigits 10 n
  List.replicate (width - digits.length) '0' ++ digits

/-- A year in four digits, with a sign if it takes more or comes before the year zero. -/
def yearText (year : Int) : List Char :=
  let sign := if year < 0 then ['-'] else if 9999 < year then ['+'] else []
  sign ++ padded 4 year.natAbs

/-- A fraction of a second in as many groups of three digits as it needs. -/
def fractionText (nanosecond : Nat) : List Char :=
  if nanosecond = 0 then []
  else if nanosecond % 1000000 = 0 then '.' :: padded 3 (nanosecond / 1000000)
  else if nanosecond % 1000 = 0 then '.' :: padded 6 (nanosecond / 1000)
  else '.' :: padded 9 nanosecond

def text (time : Timestamp) : String :=
  .ofList (yearText time.date.year ++ '-' :: padded 2 time.date.month ++
    '-' :: padded 2 time.date.day ++ 'T' :: padded 2 (time.minute / 60) ++
    ':' :: padded 2 (time.minute % 60) ++ ':' :: padded 2 time.second ++
    fractionText time.nanosecond ++ ['Z'])

end Timestamp

end TranscriptSearch
