import TranscriptSearch.Command.Arguments
import TranscriptSearch.Command.Files
import TranscriptSearch.Command.Report
import TranscriptSearch.Settings.Decode
import TranscriptSearch.Settings.Template
import TranscriptSearch.Transcript.Source

/-!
Carrying out a command.  An error is reported as a chain, from what was to be done to what went
wrong.
-/
namespace TranscriptSearch

/-- Where settings and logs are kept. -/
structure Homes where
  /-- The directory of this program, if it is given. -/
  program : Option String
  /-- The directory of the user. -/
  user : Option String
deriving DecidableEq

/-- How a command ends. -/
structure CommandResult where
  /-- Zero, or one for an error, or two for a command line that cannot be read. -/
  code : Nat
  output : String
  error : String
deriving DecidableEq

/-- Why a command fails. -/
inductive CommandError where
  /-- It is not known where the settings file is. -/
  | noHome
  | settingsUnreadable (path : String) (cause : FileError)
  | settingsInvalid (path : String)
  | settingsExist (path : String)
  | settingsDirectory (path directory : String) (cause : FileError)
  | settingsUnwritable (path : String) (cause : FileError)
  | transcriptUnreadable (path : String) (cause : FileError)
  | transcriptInvalid (path : String) (cause : SourceError)
  | locate (cause : LocateError)
  /-- The viewer was asked for, but there is no terminal. -/
  | noTerminal
deriving DecidableEq

def CommandError.message : CommandError → String
  | .noHome => "Could not determine home directory"
  | .settingsUnreadable path cause =>
    "load config: Failed to read config from " ++ path ++ ": " ++ cause.message
  | .settingsInvalid path => "load config: Failed to parse config from " ++ path
  | .settingsExist path => "init config at " ++ path ++ ": Config file already exists at " ++ path
  | .settingsDirectory path directory cause =>
    "init config at " ++ path ++ ": Failed to create config directory " ++ directory ++ ": " ++
      cause.message
  | .settingsUnwritable path cause =>
    "init config at " ++ path ++ ": Failed to write config to " ++ path ++ ": " ++ cause.message
  | .transcriptUnreadable path cause =>
    "Failed to read transcript " ++ path ++ ": " ++ cause.message
  | .transcriptInvalid path cause =>
    "Failed to parse transcript " ++ path ++ ": " ++ cause.message
  | .locate cause => cause.message
  | .noTerminal => "The viewer needs a terminal. Use `tfind count` or `tfind locate` instead."

def Homes.settingsFile? (homes : Homes) : Option String :=
  match homes.program, homes.user with
  | some program, _ => some (joinPath program "config.toml")
  | none, some user =>
    some (joinPath (joinPath (joinPath user ".config") "tfind") "config.toml")
  | none, none => none

variable {m : Type → Type} [Monad m]

/-- The settings of a settings file.  If there is none, everything has its default. -/
def loadSettings (files : FileAccess m) (path : String) : m (Except CommandError Settings) := do
  if ← files.contains path then
    match ← files.readText path with
    | .error cause => return .error (.settingsUnreadable path cause)
    | .ok text =>
      match Settings.parse? text with
      | some settings => return .ok settings
      | none => return .error (.settingsInvalid path)
  else return .ok {}

def initSettings (files : FileAccess m) (path : String) : m (Except CommandError Unit) := do
  if ← files.contains path then return .error (.settingsExist path)
  match parentPath? path with
  | some directory =>
    match ← files.createDirectories directory with
    | .error cause => return .error (.settingsDirectory path directory cause)
    | .ok _ => pure ()
  | none => pure ()
  match ← files.writeText path settingsTemplate with
  | .error cause => return .error (.settingsUnwritable path cause)
  | .ok _ => return .ok ()

def loadTranscript (files : FileAccess m) (path : String) :
    m (Except CommandError Transcript) := do
  match ← files.readText path with
  | .error cause => return .error (.transcriptUnreadable path cause)
  | .ok text =>
    match SourceEvent.ofText text with
    | .error cause => return .error (.transcriptInvalid path cause)
    | .ok events => return .ok (.ofEvents events)

/-- The lines that a request about a transcript gives, once the settings are found to be in
order. -/
def reportOn (files : FileAccess m) (settingsFile path : String)
    (report : Transcript → Except CommandError (List String)) :
    m (Except CommandError (List String)) := do
  match ← loadSettings files settingsFile with
  | .error e => return .error e
  | .ok _ =>
    match ← loadTranscript files path with
    | .error e => return .error e
    | .ok t => return report t

def Request.lines (request : Request) (files : FileAccess m) (settingsFile : String) :
    m (Except CommandError (List String)) := do
  match request with
  | .count path term byItem =>
    reportOn files settingsFile path fun t => .ok (countReport t term byItem)
  | .locate path term index =>
    reportOn files settingsFile path fun t => (locateReport t term index).mapError .locate
  | .view path _ _ => reportOn files settingsFile path fun _ => .error .noTerminal
  | .settingsPath => return .ok [settingsFile]
  | .settingsInit =>
    match ← initSettings files settingsFile with
    | .error e => return .error e
    | .ok _ => return .ok ["Created config at " ++ settingsFile]

def usageText : String :=
  "Usage: tfind [--config PATH] [-v] [-q] count FILE TERM [--by-item] | " ++
    "locate FILE TERM INDEX | view FILE [--term TERM] [--follow] | config path | config init\n"

def runCommand (files : FileAccess m) (homes : Homes) (args : List String) : m CommandResult := do
  match Invocation.parse args with
  | .error .usage => return ⟨2, "", usageText⟩
  | .error .help => return ⟨0, usageText, ""⟩
  | .error .version => return ⟨0, "tfind 0.1.0\n", ""⟩
  | .ok invocation =>
    match invocation.settingsFile.orElse fun _ => homes.settingsFile? with
    | none => return ⟨1, "", CommandError.noHome.message⟩
    | some settingsFile =>
      match ← invocation.request.lines files settingsFile with
      | .error e => return ⟨1, "", e.message⟩
      | .ok lines => return ⟨0, String.join (lines.map (· ++ "\n")), ""⟩

end TranscriptSearch
