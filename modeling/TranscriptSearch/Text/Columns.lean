import TranscriptSearch.Text.ColumnTable
import TranscriptSearch.Text.PictographTable

/-!
Terminal columns.  A character by itself takes none, one or two columns, and a single one takes
three.  In a text a character may take fewer or more, by what stands behind it: marks and joiners
bind pictographs into one glyph, selectors make a sign a pictograph or a pictograph a sign, and
some scripts draw letters as one.  So a text is measured from its end to its front.
-/
namespace TranscriptSearch.Text

def isControl (c : Char) : Bool :=
  c.toNat < 0x20 || (0x7F ≤ c.toNat && c.toNat < 0xA0)

/-- The columns that a character takes by itself.  A control character takes none. -/
def charColumns (c : Char) : Nat :=
  if 0x20 ≤ c.toNat && c.toNat < 0x7F then 1
  else if isControl c || zeroColumnCodes.contains c then 0
  else if c = '\u17D8' then 3
  else if wideCodes.contains c then 2
  else 1

def isSkinTone (c : Char) : Bool :=
  0x1F3FB ≤ c.toNat && c.toNat ≤ 0x1F3FF

/-- Whether a character is one of the letters of which two make a flag. -/
def isFlagLetter (c : Char) : Bool :=
  0x1F1E6 ≤ c.toNat && c.toNat ≤ 0x1F1FF

/-- Whether a character is a letter of the tag that tells the flag of a region. -/
def isTagLetter (c : Char) : Bool :=
  0xE0061 ≤ c.toNat && c.toNat ≤ 0xE007A

def isTagDigit (c : Char) : Bool :=
  0xE0030 ≤ c.toNat && c.toNat ≤ 0xE0039

def alefCodes : CodeRanges :=
  [(0x622, 0x623), (0x625, 0x625), (0x627, 0x627), (0x671, 0x673), (0x675, 0x675), (0x773, 0x774),
   (0x870, 0x882)]

def lamCodes : CodeRanges :=
  [(0x644, 0x644), (0x6B5, 0x6B8), (0x76A, 0x76A), (0x8A6, 0x8A6), (0x8C7, 0x8C7)]

def subscriptKhmerCodes : CodeRanges :=
  [(0x1780, 0x1782), (0x1784, 0x1787), (0x1789, 0x178C), (0x178E, 0x1793), (0x1795, 0x1798),
   (0x179B, 0x179D), (0x17A0, 0x17A0), (0x17A2, 0x17A2), (0x17A7, 0x17A7), (0x17AB, 0x17AC),
   (0x17AF, 0x17AF)]

def tifinaghCodes : CodeRanges :=
  [(0x2D31, 0x2D65), (0x2D6F, 0x2D6F)]

def lisuToneCodes : CodeRanges :=
  [(0xA4F8, 0xA4FB)]

def lisuToneEndCodes : CodeRanges :=
  [(0xA4FC, 0xA4FD)]

/-- Marks that are not drawn, so that letters on both sides of them can still be drawn as one. -/
def hiddenMarkCodes : CodeRanges :=
  [(0x34F, 0x34F), (0x17B4, 0x17B5), (0x180B, 0x180D), (0x180F, 0x180F), (0xFE00, 0xFE0F),
   (0xE0100, 0xE01EF)]

/-- A letter that may be drawn as one with letters in front of it. -/
inductive Ligature where
  /-- Arabic alef, which waits for lam. -/
  | alef
  /-- Hebrew lamed, which waits for alef. -/
  | lamed
  /-- Buginese ya, which waits for the vowel sign i. -/
  | ya
  /-- Buginese ya behind the vowel sign i, which waits for a. -/
  | yaBehindVowel
  /-- A Tifinagh consonant, which waits for another one. -/
  | tifinagh
  /-- A Tifinagh consonant behind the consonant joiner. -/
  | tifinaghJoined
  /-- A Lisu tone letter that ends a pair. -/
  | lisuTone
  /-- The Old Turkic letter i. -/
  | orkhonI
  /-- A Khmer letter, which waits for the sign that puts it below another one. -/
  | subscriptKhmer
deriving DecidableEq

/-- What the characters behind a place form, as far as it matters to the columns of those in
front. -/
inductive Behind where
  | plain
  | lineFeed
  | skinTone
  /-- One letter of a flag. -/
  | flagLetter
  /-- Two or more letters of flags. -/
  | flagLetters
  | pictograph
  /-- A joiner in front of a pictograph. -/
  | joiner
  /-- A frame for keys in front of such a joiner. -/
  | joinedKey
  /-- One letter of a flag in front of such a joiner. -/
  | joinedFlagLetter
  /-- Letters that make whole flags in front of such a joiner. -/
  | joinedFlags
  /-- Whole flags and one letter in front of such a joiner. -/
  | joinedFlagsLetter
  /-- The end of a tag in front of such a joiner. -/
  | joinedTag
  /-- So many letters and the end of a tag in front of such a joiner. -/
  | joinedTagLetters (count : Nat)
  /-- So many digits, and the letters and the end of a tag in front of such a joiner. -/
  | joinedTagDigits (count : Nat)
  /-- The Kirat Rai vowel sign e. -/
  | kiratE
  /-- The Kirat Rai vowel sign ai, in one character or two. -/
  | kiratAi
  /-- A letter, and whether a joiner stands in front of it. -/
  | ligature (letter : Ligature) (joined : Bool)
deriving DecidableEq

/-- A mark that selects one of two ways to draw the character in front of it. -/
inductive Selector where
  | text
  | pictograph
deriving DecidableEq

/-- What stands behind a character. -/
structure Following where
  behind : Behind := .plain
  /-- The selector right behind the character. -/
  selector : Option Selector := none
deriving DecidableEq

/-- What remains when a selector selects nothing.  It disturbs no letters that are drawn as
one. -/
def Behind.unselected : Behind → Behind
  | .ligature letter joined => .ligature letter joined
  | _ => .plain

def Behind.selected (behind : Behind) (selector : Selector) : Following where
  behind := match behind, selector with
    | .joiner, .pictograph => .joiner
    | .joinedKey, .pictograph => .joinedKey
    | behind, _ => behind.unselected
  selector

def Behind.ofChar (c : Char) : Behind :=
  if c = '\u05DC' then .ligature .lamed false
  else if alefCodes.contains c then .ligature .alef false
  else if subscriptKhmerCodes.contains c then .ligature .subscriptKhmer false
  else if c = '\u1A10' then .ligature .ya false
  else if tifinaghCodes.contains c then .ligature .tifinagh false
  else if lisuToneEndCodes.contains c then .ligature .lisuTone false
  else if c.toNat = 0x10C03 then .ligature .orkhonI false
  else if c.toNat = 0x16D67 then .kiratE
  else if c.toNat = 0x16D68 then .kiratAi
  else if isFlagLetter c then .flagLetter
  else if isSkinTone c then .skinTone
  else if pictographCodes.contains c then .pictograph
  else .plain

/-- The columns that a character adds in front of a letter that it is drawn as one with, and what
the two form.  A sign that puts a letter below another one takes back the column of that
letter. -/
def Ligature.join? (letter : Ligature) (joined : Bool) (c : Char) : Option (Int × Behind) :=
  match letter with
  | .alef =>
    if lamCodes.contains c then some (0, .plain)
    else if charColumns c = 0 && !opaqueZeroColumnCodes.contains c then
      some (0, .ligature .alef joined)
    else none
  | .lamed => if joined && c = '\u05D0' then some (0, .plain) else none
  | .ya => if joined && c = '\u1A17' then some (0, .ligature .yaBehindVowel true) else none
  | .yaBehindVowel => if c = '\u1A15' then some (0, .plain) else none
  | .tifinagh =>
    if c = '\u2D7F' then some (1, .ligature .tifinaghJoined true)
    else if joined && tifinaghCodes.contains c then some (0, .plain)
    else none
  | .tifinaghJoined => if tifinaghCodes.contains c then some (-1, .plain) else none
  | .lisuTone => if lisuToneCodes.contains c then some (0, .plain) else none
  | .orkhonI => if joined && c.toNat = 0x10C32 then some (0, .plain) else none
  | .subscriptKhmer => if c = '\u17D2' then some (-1, .plain) else none

/-- The columns that a character adds to those of what stands behind it, if the two are drawn as
one, and what they form. -/
def Behind.join? (behind : Behind) (c : Char) : Option (Int × Behind) :=
  match behind with
  | .ligature .alef joined => Ligature.alef.join? joined c
  | .ligature letter joined =>
    if c = '\u200D' then some (0, .ligature letter true)
    else if hiddenMarkCodes.contains c then some (0, .ligature letter joined)
    else letter.join? joined c
  | .skinTone =>
    if c = '\u200D' then some (0, .joiner)
    else if skinToneBaseCodes.contains c then some (0, .pictograph)
    else none
  | .pictograph => if c = '\u200D' then some (0, .joiner) else none
  | .flagLetter => if isFlagLetter c then some (1, .flagLetters) else none
  | .flagLetters =>
    if c = '\u200D' then some (0, .joiner)
    else if isFlagLetter c then some (1, .flagLetters)
    else none
  | .joiner =>
    if c = '\u20E3' then some (0, .joinedKey)
    else if isFlagLetter c then some (1, .joinedFlagLetter)
    else if isSkinTone c then some (0, .skinTone)
    else if c.toNat = 0xE007F then some (0, .joinedTag)
    else if pictographCodes.contains c then some (0, .pictograph)
    else none
  | .joinedFlagLetter =>
    if c = '\u200D' then some (0, .joiner)
    else if isFlagLetter c then some (-1, .joinedFlags)
    else none
  | .joinedFlags =>
    if c = '\u200D' then some (0, .joiner)
    else if isFlagLetter c then some (3, .joinedFlagsLetter)
    else none
  | .joinedFlagsLetter => if isFlagLetter c then some (-1, .joinedFlags) else none
  | .joinedTag =>
    if isTagLetter c then some (0, .joinedTagLetters 1)
    else if isTagDigit c then some (0, .joinedTagDigits 1)
    else none
  | .joinedTagLetters count =>
    if isTagLetter c && count < 6 then some (0, .joinedTagLetters (count + 1))
    else if isTagDigit c && count < 5 then some (0, .joinedTagDigits 1)
    else if c.toNat = 0x1F3F4 && 3 ≤ count then some (0, .pictograph)
    else none
  | .joinedTagDigits count =>
    if isTagDigit c && count < 3 then some (0, .joinedTagDigits (count + 1))
    else if c.toNat = 0x1F3F4 && count = 3 then some (0, .pictograph)
    else none
  | .kiratE =>
    if c.toNat = 0x16D63 || c.toNat = 0x16D69 then some (0, .plain)
    else if c.toNat = 0x16D67 then some (0, .kiratAi)
    else if c.toNat = 0x16D68 then some (1, .kiratE)
    else none
  | .kiratAi => if c.toNat = 0x16D63 then some (0, .plain) else none
  | .joinedKey | .lineFeed | .plain => none

/-- The columns that a character adds in front of what stands behind it, with no selector between,
and what the two form. -/
def Behind.add (behind : Behind) (c : Char) : Int × Following :=
  if c.toNat ≤ 0xA0 then
    if c = '\n' then (1, { behind := .lineFeed })
    else if c = '\r' && behind = .lineFeed then (0, {})
    else (1, {})
  else if c = '\uFE0F' then (0, behind.selected .pictograph)
  else if c = '\uFE0E' then (0, behind.selected .text)
  else
    match behind.join? c with
    | some (columns, behind) => (columns, { behind })
    | none => (charColumns c, { behind := .ofChar c })

/-- The columns that a character adds in front of what stands behind it, and what the two form. -/
def Following.add (following : Following) (c : Char) : Int × Following :=
  match following.selector with
  | none => following.behind.add c
  | some .pictograph =>
    if selectableCodes.contains c then
      let isJoined := following.behind = .joiner || following.behind = .joinedKey
      (if isJoined then 0 else 2, { behind := .pictograph })
    else following.behind.unselected.add c
  | some .text =>
    if narrowableCodes.contains c then (1, {}) else following.behind.add c

def measure : List Char → Int × Following
  | [] => (0, {})
  | c :: cs =>
    let (columns, following) := measure cs
    let (more, following) := following.add c
    (columns + more, following)

/-- The columns that a text takes.  A control character in it takes one, and so does a carriage
return together with the line feed after it. -/
def columns (cs : List Char) : Nat :=
  (measure cs).1.toNat

end TranscriptSearch.Text
