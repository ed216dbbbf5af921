import TranscriptSearch.Toml.Lexeme
import TranscriptSearch.Toml.Value

namespace TranscriptSearch.Toml

/-- Whether a table is one that others implied, and that may still get a header. -/
def TableOrigin.isImplied : TableOrigin → Bool
  | .parent | .dotted => true
  | .inline | .header => false

/-- Changes the table at the end of a path.  Tables that are missing on the way come to be with
the given origin.  A dotted key must not lead through a table that was defined otherwise; a list
of tables is entered at its last one. -/
def changeAt (origin : TableOrigin) (change : TableOrigin → Members → Option Members) :
    List String → TableOrigin → Members → Option Members
  | [], own, members => change own members
  | key :: path, _, members =>
    match members.lookup key with
    | none => do
      let inner ← changeAt origin change path origin []
      return Members.put members key (.table origin inner)
    | some (.table own inner) =>
      if own = .inline ∨ origin = .dotted ∧ !own.isImplied then none
      else do
        let inner ← changeAt origin change path own inner
        return Members.put members key (.table own inner)
    | some (.tables tables) =>
      match tables.getLast? with
      | none => none
      | some last => do
        let inner ← changeAt origin change path .header last
        return Members.put members key (.tables (tables.dropLast ++ [inner]))
    | some _ => none

/-- The members of the table at the end of a path; there are none if there is no such table yet.
A list of tables is entered at its last one. -/
def tableAt? : List String → Members → Option Members
  | [], members => some members
  | key :: path, members =>
    match members.lookup key with
    | none => some []
    | some (.table own inner) => if own = .inline then none else tableAt? path inner
    | some (.tables tables) => tables.getLast?.bind (tableAt? path)
    | some _ => none

def assign (members : Members) (key : List String) (value : Value) : Option Members :=
  match key.getLast? with
  | none => none
  | some last =>
    changeAt .dotted (fun own members =>
      if (1 < key.length && own != .dotted) || (members.lookup last).isSome then none
      else some (members ++ [(last, value)])) key.dropLast .header members

def readItemsFor (readItem : List Char → Option (Value × List Char)) :
    Nat → List Char → Option (List Value × List Char)
  | 0, _ => none
  | fuel + 1, cs =>
    match skipLayout cs with
    | ']' :: cs => some ([], cs)
    | cs => do
      let (item, cs) ← readItem cs
      match skipLayout cs with
      | ']' :: cs => return ([item], cs)
      | ',' :: cs =>
        let (items, cs) ← readItemsFor readItem fuel cs
        return (item :: items, cs)
      | _ => none

/-- The members of a table in braces behind those that are read already, up to the closing
brace. -/
def readMembersFor (readItem : List Char → Option (Value × List Char)) :
    Nat → Members → List Char → Option (Members × List Char)
  | 0, _, _ => none
  | fuel + 1, members, cs => do
    let (key, cs) ← readKey cs
    let (value, cs) ← readItem (skipBlanks (← afterChar? '=' cs))
    let members ← assign members key value
    match skipBlanks cs with
    | '\x7d' :: cs => return (members, cs)
    | ',' :: cs => readMembersFor readItem fuel members cs
    | _ => none

def textRead (cs rest : List Char) : List Char :=
  cs.take (cs.length - rest.length)

def readScalar (cs : List Char) : Option (Value × List Char) :=
  match readDatetime cs, readFloat cs with
  | some (_, rest), _ => some (.datetime (textRead cs rest), rest)
  | none, some (_, rest) => some (.float (textRead cs rest), rest)
  | none, none => (readInteger cs).map fun (value, rest) => (.integer value, rest)

/-- A value, with arrays and tables in braces nested at most `depth` deep. -/
def readValue (depth : Nat) (cs : List Char) : Option (Value × List Char) :=
  match cs, depth with
  | '[' :: rest, depth + 1 =>
    (readItemsFor (readValue depth) (rest.length + 1) rest).map fun (items, rest) =>
      (.array items, rest)
  | '\x7b' :: rest, depth + 1 =>
    match skipBlanks rest with
    | '\x7d' :: rest => some (.table .inline [], rest)
    | rest =>
      (readMembersFor (readValue depth) (rest.length + 1) [] rest).map fun (members, rest) =>
        (.table .inline members, rest)
  | 't' :: _, _ => (afterWord? "true" cs).map fun rest => (.boolean true, rest)
  | 'f' :: _, _ => (afterWord? "false" cs).map fun rest => (.boolean false, rest)
  | c :: _, _ =>
    if c = '"' ∨ c = '\'' then (readString cs).map fun (text, rest) => (.string text, rest)
    else readScalar cs
  | [], _ => none

/-- A line of a document that says something. -/
inductive Statement where
  /-- A value under a dotted key. -/
  | value (key : List String) (value : Value)
  /-- The header of a table. -/
  | header (path : List String)
  /-- The header of one more table of a list. -/
  | item (path : List String)

def readStatement (cs : List Char) : Option (Statement × List Char) :=
  match cs with
  | '[' :: '[' :: cs => do
    let (path, cs) ← readKey cs
    let cs ← afterLine? (← afterChar? ']' (← afterChar? ']' cs))
    return (.item path, cs)
  | '[' :: cs => do
    let (path, cs) ← readKey cs
    let cs ← afterLine? (← afterChar? ']' cs)
    return (.header path, cs)
  | cs => do
    let (key, cs) ← readKey cs
    let (value, cs) ← readValue (maxLevels - 1) (skipBlanks (← afterChar? '=' cs))
    return (.value key value, ← afterLine? cs)

def readStatementsFor : Nat → List Char → Option (List Statement)
  | 0, _ => none
  | fuel + 1, cs =>
    match skipLayout cs with
    | [] => some []
    | cs => do
      let (statement, cs) ← readStatement cs
      return statement :: (← readStatementsFor fuel cs)

/-- A document that is being read: the tables that are finished, and the one that values go to. -/
structure Draft where
  root : Members
  /-- Where the table is to be put; nowhere if it is the root. -/
  path : List String
  /-- Whether the table is one of a list. -/
  isItem : Bool
  members : Members

namespace Draft

def empty : Draft :=
  ⟨[], [], false, []⟩

def finish (d : Draft) : Option Members :=
  match d.path.getLast? with
  | none => some d.members
  | some key =>
    changeAt .parent (fun _ members =>
      match members.lookup key with
      | none =>
        let value : Value := if d.isItem then .tables [d.members] else .table .header d.members
        some (members ++ [(key, value)])
      | some (.tables tables) =>
        if d.isItem then some (members.put key (.tables (tables ++ [d.members]))) else none
      | some _ => none) d.path.dropLast .header d.root

/-- A table with a header begins.  If others implied it already, their members stay. -/
def open? (d : Draft) (path : List String) : Option Draft := do
  let root ← d.finish
  let key ← path.getLast?
  let found ← tableAt? path.dropLast root
  match found.lookup key with
  | none => return ⟨root, path, false, []⟩
  | some (.table .parent members) =>
    let root ← changeAt .parent (fun _ inner => some (inner.filter (·.1 ≠ key))) path.dropLast
      .header root
    return ⟨root, path, false, members⟩
  | some _ => none

def openItem? (d : Draft) (path : List String) : Option Draft := do
  return ⟨← d.finish, path, true, []⟩

def add? (d : Draft) : Statement → Option Draft
  | .value key value => do
    return { d with members := ← assign d.members key value }
  | .header path => d.open? path
  | .item path => d.openItem? path

end Draft

/-- The members of the document that a text is written for.  A byte order mark in front is passed
over. -/
def parse? (text : String) : Option Members := do
  let cs := match text.toList with
    | '\uFEFF' :: cs => cs
    | cs => cs
  let draft ← (← readStatementsFor (cs.length + 1) cs).foldlM Draft.add? Draft.empty
  draft.finish

end TranscriptSearch.Toml
