namespace TranscriptSearch

/-- What is asked for. -/
inductive Request where
  /-- To count the occurrences of a term. -/
  | count (file term : String) (byItem : Bool)
  /-- To show where an occurrence is. -/
  | locate (file term : String) (index : Nat)
  /-- To open the viewer. -/
  | view (file : String) (term : Option String) (follow : Bool)
  /-- To show where the settings file is. -/
  | settingsPath
  /-- To write a settings file. -/
  | settingsInit
deriving DecidableEq

/-- A command line that has been read. -/
structure Invocation where
  request : Request
  /-- Where the settings file is, if that is given. -/
  settingsFile : Option String
  verbose : Bool
  quiet : Bool
deriving DecidableEq

/-- Why a command line leads to no request. -/
inductive NoRequest where
  /-- It is not as it must be. -/
  | usage
  /-- It asks for help. -/
  | help
  /-- It asks for the version. -/
  | version
deriving DecidableEq

namespace Arguments

/-- The words that lead to a request. -/
inductive Word where
  | top
  | count
  | locate
  | view
  | config
  | configPath
  | configInit
deriving DecidableEq

def Word.next? (word : Word) (arg : String) : Option Word :=
  match word, arg with
  | .top, "count" => some .count
  | .top, "locate" => some .locate
  | .top, "view" => some .view
  | .top, "config" => some .config
  | .config, "path" => some .configPath
  | .config, "init" => some .configInit
  | _, _ => none

def Word.hasNext : Word → Bool
  | .top | .config => true
  | _ => false

/-- The options with a value. -/
inductive ValueOption where
  | config
  | term
deriving DecidableEq

/-- The options without a value. -/
inductive Switch where
  | verbose
  | quiet
  | byItem
  | follow
  | help
  | version
deriving DecidableEq

def Word.valueOption? (word : Word) (name : String) : Option ValueOption :=
  match word, name with
  | _, "config" => some .config
  | .view, "term" => some .term
  | _, _ => none

def Word.switch? (word : Word) (name : String) : Option Switch :=
  match word, name with
  | _, "verbose" => some .verbose
  | _, "quiet" => some .quiet
  | _, "help" => some .help
  | .top, "version" => some .version
  | .count, "by-item" => some .byItem
  | .view, "follow" => some .follow
  | _, _ => none

def Word.letter? (word : Word) (c : Char) : Option Switch :=
  match word, c with
  | _, 'v' => some .verbose
  | _, 'q' => some .quiet
  | _, 'h' => some .help
  | .top, 'V' => some .version
  | _, _ => none

/-- What has been given with one word. -/
structure Given where
  switches : List Switch
  settingsFile : Option String
  term : Option String
  /-- The arguments that are not options. -/
  operands : List String

def Given.none : Given :=
  ⟨[], .none, .none, []⟩

/-- An option without a value is given.  It may be given only once; two of them end the
reading. -/
def Given.switch (given : Given) (switch : Switch) : Except NoRequest Given :=
  match switch with
  | .help => .error .help
  | .version => .error .version
  | switch =>
    if switch ∈ given.switches then .error .usage
    else .ok { given with switches := switch :: given.switches }

/-- An option with a value is given.  The name of the settings file must not be empty. -/
def Given.value (given : Given) (option : ValueOption) (value : String) :
    Except NoRequest Given :=
  match option with
  | .config =>
    if given.settingsFile.isSome ∨ value = "" then .error .usage
    else .ok { given with settingsFile := some value }
  | .term =>
    if given.term.isSome then .error .usage else .ok { given with term := some value }

/-- A number of 64 bits without sign, in front of which a plus sign may stand. -/
def index? (text : String) : Option Nat :=
  let digits := match text.toList with
    | '+' :: digits => digits
    | digits => digits
  if digits ≠ [] ∧ digits.all Char.isDigit then
    let value := digits.foldl (fun n c => n * 10 + (c.toNat - 48)) 0
    if value < UInt64.size then some value else .none
  else .none

/-- Whether a word takes an operand at a place, counted from zero.  The name of a transcript must
not be empty, and the number of an occurrence must be one. -/
def Word.takes (word : Word) (place : Nat) (arg : String) : Bool :=
  match word, place with
  | .count, 0 | .locate, 0 | .view, 0 => arg ≠ ""
  | .count, 1 | .locate, 1 => true
  | .locate, 2 => (index? arg).isSome
  | _, _ => false

def Given.operand (given : Given) (word : Word) (arg : String) : Except NoRequest Given :=
  if word.takes given.operands.length arg then
    .ok { given with operands := given.operands ++ [arg] }
  else .error .usage

def request? (word : Word) (given : Given) : Option Request :=
  match word, given.operands with
  | .count, [file, term] => some (.count file term (given.switches.contains .byItem))
  | .locate, [file, term, index] => (index? index).map (.locate file term)
  | .view, [file] => some (.view file given.term (given.switches.contains .follow))
  | .configPath, [] => some .settingsPath
  | .configInit, [] => some .settingsInit
  | _, _ => .none

def finish (word : Word) (given : Given) : Except NoRequest Invocation :=
  match request? word given with
  | some request =>
    .ok ⟨request, given.settingsFile, given.switches.contains .verbose,
      given.switches.contains .quiet⟩
  | .none => .error .usage

/-- An invocation to which what is given with an earlier word is added. -/
def Invocation.under (inner : Invocation) (given : Given) : Invocation :=
  { inner with
    settingsFile := inner.settingsFile.orElse fun _ => given.settingsFile
    verbose := inner.verbose || given.switches.contains .verbose
    quiet := inner.quiet || given.switches.contains .quiet }

/-- An argument, as it looks by itself. -/
inductive Shape where
  /-- Two hyphens alone, behind which nothing is an option. -/
  | endOfOptions
  /-- The name of an option, and its value if it has one attached. -/
  | long (name : String) (value : Option String)
  /-- Letters that each are an option. -/
  | letters (letters : List Char)
  | plain

def shape (arg : String) : Shape :=
  match arg.toList with
  | ['-', '-'] => .endOfOptions
  | '-' :: '-' :: rest =>
    match rest.dropWhile (· ≠ '=') with
    | _ :: value => .long (.ofList (rest.takeWhile (· ≠ '='))) (some (.ofList value))
    | [] => .long (.ofList rest) .none
  | '-' :: c :: rest => .letters (c :: rest)
  | _ => .plain

def readLetters (word : Word) (given : Given) : List Char → Except NoRequest Given
  | [] => .ok given
  | c :: rest =>
    match word.letter? c with
    | some switch => do readLetters word (← given.switch switch) rest
    | .none => .error .usage

/-- What comes of a request for help about a word: help, if only words that may follow each other
stand behind it. -/
def readHelp (word : Word) : List String → NoRequest
  | [] => .help
  | ["help"] => if word.hasNext then .help else .usage
  | arg :: rest =>
    match word.next? arg with
    | some next => readHelp next rest
    | .none => .usage

/-- Reads the arguments behind a word.  An option may be `waiting` for its value, which must not
look like an option; behind `--` all arguments are `literal`. -/
def read (word : Word) (given : Given) (waiting : Option ValueOption) (literal : Bool) :
    List String → Except NoRequest Invocation
  | [] => if waiting.isSome then .error .usage else finish word given
  | arg :: rest =>
    let operand := do read word (← given.operand word arg) .none literal rest
    if literal then operand
    else
      match waiting, word.next? arg, shape arg with
      | some option, _, .plain => do read word (← given.value option arg) .none false rest
      | some _, _, _ => .error .usage
      | .none, some next,
        _ => do return Invocation.under (← read next .none .none false rest) given
      | .none, .none, .endOfOptions => read word given .none true rest
      | .none, .none, .letters letters => do
        read word (← readLetters word given letters) .none false rest
      | .none, .none, .long name value =>
        match word.valueOption? name, word.switch? name, value with
        | some option, _, some value => do read word (← given.value option value) .none false rest
        | some option, _, .none => read word given (some option) false rest
        | .none, some switch, .none => do read word (← given.switch switch) .none false rest
        | .none, _, _ => .error .usage
      | .none, .none, .plain =>
        if word.hasNext then .error (if arg = "help" then readHelp word rest else .usage)
        else operand

end Arguments

def Invocation.parse (args : List String) : Except NoRequest Invocation :=
  Arguments.read .top .none .none false args

end TranscriptSearch
