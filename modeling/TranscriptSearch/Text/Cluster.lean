import TranscriptSearch.Text.ClusterTable

namespace TranscriptSearch.Text

/-- The part that a character plays in a cluster. -/
inductive ClusterClass where
  | other
  | carriageReturn
  | lineFeed
  | control
  | extend
  | joiner
  | regional
  | prepend
  | spacing
  | lead
  | vowel
  | trail
  | leadVowel
  | leadVowelTrail
deriving DecidableEq

/-- The part that a character plays.  Hangul syllables and jamo are told apart by arithmetic;
some vowel signs of another script join like jamo. -/
def clusterClass (c : Char) : ClusterClass :=
  let n := c.toNat
  if c = '\r' then .carriageReturn
  else if c = '\n' then .lineFeed
  else if 0x20 ≤ n && n < 0x7F then .other
  else if n = 0x200D then .joiner
  else if controlCodes.contains c then .control
  else if extendCodes.contains c then .extend
  else if spacingMarkCodes.contains c then .spacing
  else if prependCodes.contains c then .prepend
  else if 0x1F1E6 ≤ n && n ≤ 0x1F1FF then .regional
  else if (0x1100 ≤ n && n ≤ 0x115F) || (0xA960 ≤ n && n ≤ 0xA97C) then .lead
  else if (0x1160 ≤ n && n ≤ 0x11A7) || (0xD7B0 ≤ n && n ≤ 0xD7C6) then .vowel
  else if n = 0x16D63 || (0x16D67 ≤ n && n ≤ 0x16D6A) then .vowel
  else if (0x11A8 ≤ n && n ≤ 0x11FF) || (0xD7CB ≤ n && n ≤ 0xD7FB) then .trail
  else if 0xAC00 ≤ n && n ≤ 0xD7A3 then
    if (n - 0xAC00) % 28 = 0 then .leadVowel else .leadVowelTrail
  else .other

/-- How far a text has come towards joining its next character: whether a pictograph, its marks
and a joiner came last; whether a consonant, its marks and a virama came last; whether an odd
number of regional indicators came last. -/
structure ClusterState where
  last : ClusterClass
  pictograph : Bool
  pictographJoined : Bool
  consonant : Bool
  consonantLinked : Bool
  regionalOdd : Bool

/-- The state after the character `c`, given the state before it if `c` does not come first. -/
def ClusterState.next (before : Option ClusterState) (c : Char) : ClusterState :=
  let cls := clusterClass c
  let extending := cls = .extend || cls = .joiner
  let was (flag : ClusterState → Bool) := (before.map flag).getD false
  let isLinker := conjunctLinkerCodes.contains c
  { last := cls
    pictograph := joinablePictographCodes.contains c || (cls = .extend && was (·.pictograph))
    pictographJoined := cls = .joiner && was (·.pictograph)
    consonant :=
      conjunctConsonantCodes.contains c || (extending && c ≠ '\u200C' && was (·.consonant))
    consonantLinked :=
      extending && c ≠ '\u200C' && was (·.consonant) && (isLinker || was (·.consonantLinked))
    regionalOdd := cls = .regional && !was (·.regionalOdd) }

/-- Whether the character `c` stays in the cluster that a text in this state ends with. -/
def ClusterState.joins (state : ClusterState) (c : Char) : Bool :=
  match state.last, clusterClass c with
  | .carriageReturn, .lineFeed => true
  | .carriageReturn, _ | .lineFeed, _ | .control, _ => false
  | _, .carriageReturn | _, .lineFeed | _, .control => false
  | .lead, .lead | .lead, .vowel | .lead, .leadVowel | .lead, .leadVowelTrail => true
  | .leadVowel, .vowel | .leadVowel, .trail | .vowel, .vowel | .vowel, .trail => true
  | .leadVowelTrail, .trail | .trail, .trail => true
  | _, .extend | _, .joiner | _, .spacing => true
  | .prepend, _ => true
  | .regional, .regional => state.regionalOdd
  | _, _ =>
    (state.pictographJoined && joinablePictographCodes.contains c) ||
      (state.consonantLinked && conjunctConsonantCodes.contains c)

/-- What remains of the cluster that a text in the given state ends with, and the clusters after
it. -/
def clustersFrom (state : ClusterState) : List Char → List Char × List (List Char)
  | [] => ([], [])
  | c :: cs =>
    let (cluster, rest) := clustersFrom (.next (some state) c) cs
    if state.joins c then (c :: cluster, rest) else ([], (c :: cluster) :: rest)

def clusters : List Char → List (List Char)
  | [] => []
  | c :: cs =>
    let (cluster, rest) := clustersFrom (.next none c) cs
    (c :: cluster) :: rest

/-- A text without its last cluster; nothing if the text is empty. -/
def dropLastCluster? (cs : List Char) : Option (List Char) :=
  if cs.isEmpty then none else some (clusters cs).dropLast.flatten

end TranscriptSearch.Text
