import TranscriptSearch.Command.Run

namespace TranscriptSearch

def fileErrorOf (e : IO.Error) : FileError :=
  match e with
  | .noFileOrDirectory .. => .notFound
  | .alreadyExists .. => .alreadyExists
  | .inappropriateType _ code _ => if code = 20 then .notDirectory else .isDirectory
  | .invalidArgument _ 36 _ => .nameTooLong
  | e => .other e.toString

def attempt {α : Type} (action : IO α) : IO (Except FileError α) := do
  match ← action.toBaseIO with
  | .ok value => return .ok value
  | .error e => return .error (fileErrorOf e)

def systemFiles : FileAccess IO where
  contains path := do
    match ← attempt (IO.FS.Handle.mk path .read) with
    | .ok _ => return true
    | .error e => return e ≠ .notFound && e ≠ .notDirectory
  readText path := do
    match ← attempt (IO.FS.readBinFile path) with
    | .ok bytes => return textOfBytes bytes
    | .error e => return .error e
  createDirectories path := attempt (IO.FS.createDirAll path)
  writeText path text := attempt (IO.FS.writeFile path text)

/-- Runs a command line on the files of the system and prints what it gives. -/
def runProgram (args : List String) : IO UInt32 := do
  let homes : Homes := ⟨← IO.getEnv "TFIND_HOME", ← IO.getEnv "HOME"⟩
  let result ← runCommand systemFiles homes args
  IO.print result.output
  unless result.error.isEmpty do IO.eprintln result.error
  return .ofNat result.code

end TranscriptSearch

def main (args : List String) : IO UInt32 :=
  TranscriptSearch.runProgram args
