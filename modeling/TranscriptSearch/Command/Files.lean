namespace TranscriptSearch

/-- Why a file cannot be read or written. -/
inductive FileError where
  | notFound
  | alreadyExists
  | notDirectory
  | isDirectory
  /-- A path or a name in it has more bytes than the system takes. -/
  | nameTooLong
  /-- The file is not text in UTF-8. -/
  | notText
  /-- Anything else, in the words of the system. -/
  | other (text : String)
deriving DecidableEq

def FileError.message : FileError → String
  | .notFound => "No such file or directory (os error 2)"
  | .alreadyExists => "File exists (os error 17)"
  | .notDirectory => "Not a directory (os error 20)"
  | .isDirectory => "Is a directory (os error 21)"
  | .nameTooLong => "File name too long (os error 36)"
  | .notText => "stream did not contain valid UTF-8"
  | .other text => text

/-- The ways to reach files. -/
structure FileAccess (m : Type → Type) where
  /-- Whether there is a file or a directory at a path. -/
  contains : String → m Bool
  /-- The text of a file. -/
  readText : String → m (Except FileError String)
  /-- Makes a directory, and the directories it stands in. -/
  createDirectories : String → m (Except FileError Unit)
  /-- Writes a file, in the place of one that is there. -/
  writeText : String → String → m (Except FileError Unit)

def textOfBytes (bytes : ByteArray) : Except FileError String :=
  match String.fromUTF8? bytes with
  | some text => .ok text
  | none => .error .notText

def pathParts (path : String) : List String :=
  path.splitOn "/"

def trimParts : List String → List String
  | [] => []
  | first :: rest => first :: (rest.reverse.dropWhile fun part => part = "" || part = ".").reverse

/-- The path of the directory that a file stands in, if the path leads through one. -/
def parentPath? (path : String) : Option String :=
  match (trimParts (pathParts path)).dropLast with
  | [] => if path.startsWith "/" ∨ path = "" then none else some ""
  | parts =>
    let parent := "/".intercalate (trimParts parts)
    some (if parent = "" ∧ path.startsWith "/" then "/" else parent)

def joinPath (directory name : String) : String :=
  if directory = "" ∨ directory.endsWith "/" then directory ++ name else directory ++ "/" ++ name

/-- A tree of files: the bytes of each file, and the directories that are not there for a file
already.  A place is the list of the names that lead to it. -/
structure FileTree where
  files : List (List String × ByteArray)
  directories : List (List String)

namespace FileTree

def isDirectory (tree : FileTree) (place : List String) : Bool :=
  place.isEmpty || tree.directories.any place.isPrefixOf ||
    tree.files.any fun file => place.isPrefixOf file.1 && place != file.1

def file? (tree : FileTree) (place : List String) : Option ByteArray :=
  tree.files.lookup place

def longestName : Nat := 255

def longestPath : Nat := 4095

/-- The place that the parts of a path lead to from a directory.  All but the last must be
directories. -/
def walk (tree : FileTree) (place : List String) : List String → Except FileError (List String)
  | [] => .ok place
  | part :: rest =>
    if part = "" ∨ part = "." then walk tree place rest
    else if part = ".." then walk tree place.dropLast rest
    else if longestName < part.utf8ByteSize then .error .nameTooLong
    else
      let next := place ++ [part]
      if rest.isEmpty ∨ tree.isDirectory next then walk tree next rest
      else if (tree.file? next).isSome then .error .notDirectory
      else .error .notFound

/-- The place that some parts of a path lead to.  Nothing is outside the tree. -/
def placeOf (tree : FileTree) (path : String) (parts : List String) :
    Except FileError (List String) :=
  if longestPath < path.utf8ByteSize then .error .nameTooLong
  else if path = "" ∨ path.startsWith "/" then .error .notFound
  else tree.walk [] parts

def place (tree : FileTree) (path : String) : Except FileError (List String) :=
  tree.placeOf path (pathParts path)

def contains (tree : FileTree) (path : String) : Bool :=
  match tree.place path with
  | .ok place => tree.isDirectory place || (tree.file? place).isSome
  | .error _ => false

def read (tree : FileTree) (path : String) : Except FileError ByteArray := do
  let place ← tree.place path
  if tree.isDirectory place then .error .isDirectory
  else
    match tree.file? place with
    | some bytes => .ok bytes
    | none => .error .notFound

def makeDirectory (tree : FileTree) (path : String) : Except FileError FileTree := do
  let place ← tree.placeOf path (trimParts (pathParts path))
  if tree.isDirectory place ∨ (tree.file? place).isSome then .error .alreadyExists
  else .ok { tree with directories := place :: tree.directories }

def isDirectoryAt (tree : FileTree) (path : String) : Bool :=
  match tree.place path with
  | .ok place => tree.isDirectory place
  | .error _ => false

/-- Makes a directory and those it stands in, which are at most as many as the fuel. -/
def makeDirectoriesFor (tree : FileTree) (path : String) : Nat → Except FileError FileTree
  | 0 => .error .notFound
  | fuel + 1 =>
    let attempt (tree : FileTree) : Except FileError FileTree :=
      match tree.makeDirectory path with
      | .ok tree => .ok tree
      | .error e => if tree.isDirectoryAt path then .ok tree else .error e
    if path = "" then .ok tree
    else
      match tree.makeDirectory path, parentPath? path with
      | .error .notFound, some parent => do attempt (← tree.makeDirectoriesFor parent fuel)
      | .error .notFound, none => .error (.other "failed to create whole tree")
      | _, _ => attempt tree

def makeDirectories (tree : FileTree) (path : String) : Except FileError FileTree :=
  tree.makeDirectoriesFor path (path.length + 1)

def write (tree : FileTree) (path : String) (bytes : ByteArray) : Except FileError FileTree := do
  let parts := pathParts path
  let place ← tree.placeOf path (if path.endsWith "/" then trimParts parts else parts)
  if tree.isDirectory place ∨ path.endsWith "/" then .error .isDirectory
  else .ok { tree with files := (place, bytes) :: tree.files.filter (·.1 ≠ place) }

def ofFiles (files : List (String × ByteArray)) : FileTree :=
  ⟨files.map fun (path, bytes) =>
    ((pathParts path).filter fun part => part ≠ "" ∧ part ≠ ".", bytes), []⟩

def change (attempt : FileTree → Except FileError FileTree) :
    StateM FileTree (Except FileError Unit) := fun tree =>
  match attempt tree with
  | .ok tree => (.ok (), tree)
  | .error e => (.error e, tree)

def access : FileAccess (StateM FileTree) where
  contains path := do return (← get).contains path
  readText path := do return (← get).read path >>= textOfBytes
  createDirectories path := change (·.makeDirectories path)
  writeText path text := change (·.write path text.toUTF8)

end FileTree

end TranscriptSearch
