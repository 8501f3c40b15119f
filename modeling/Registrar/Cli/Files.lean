import Registrar.Cli.Host

namespace Registrar.Cli

/-!
# Files in memory

Files and directories that are kept in a value and not on a disk, so that what a
command does to them can be computed.

* `Files` — what stands at which place, a place being the directories that lead to
  it from the root and a name;
* `Files.ofList` — files at paths;
* `Files.resolve` — the place that a path leads to;
* `Files.host` — the host that has the files.
-/

/-- What stands at a place. -/
inductive Entry where
  | file (content : Bytes)
  | directory

/-- The kind of what stands at a place. -/
def Entry.kind : Entry → PathKind
  | file _ => .file
  | directory => .directory

/-- What stands at which place; of entries for one place the first counts. -/
abbrev Files := List (List String × Entry)

namespace Files

/-- What stands at a place. The root is a directory. -/
def entry? (files : Files) : List String → Option Entry
  | [] => some .directory
  | place => files.lookup place

/-! ### Paths -/

/-- The number of bytes that a name may have. -/
def longestName : Nat := 255

/-- The place that the parts of a path lead to from a place. An empty part and `.`
    stay there and `..` goes up; at all places but the last there has to be a
    directory. -/
def follow (files : Files) (place : List String) : List String → Except FileFault (List String)
  | [] => .ok place
  | part :: parts =>
    match files.entry? place with
    | none => .error .notFound
    | some (.file _) => .error .notDirectory
    | some .directory =>
      if part = "" ∨ part = "." then follow files place parts
      else if part = ".." then follow files place.dropLast parts
      else if longestName < part.utf8ByteSize then .error .longName
      else follow files (place ++ [part]) parts

/-- The place that a path leads to. The empty path leads nowhere. -/
def resolve (files : Files) (path : String) : Except FileFault (List String) :=
  if path = "" then .error .notFound else files.follow [] (pathParts path)

/-- What a path leads to. -/
def find (files : Files) (path : String) : Except FileFault Entry := do
  match files.entry? (← files.resolve path) with
  | some entry => return entry
  | none => throw .notFound

/-- The content of the file that a path leads to. -/
def read (files : Files) (path : String) : Except FileFault Bytes := do
  match ← files.find path with
  | .file content => return content
  | .directory => throw .isDirectory

/-- The files with something put where a path leads to and nothing stands. -/
def create (entry : Entry) (path : String) (files : Files) : Except FileFault Files := do
  let place ← files.resolve path
  match files.entry? place with
  | some _ => throw .alreadyExists
  | none => return (place, entry) :: files

/-! ### Hosts -/

/-- Tries a change of the files; a fault leaves them as they are. -/
def attempt (change : Files → Except FileFault Files) : StateM Files (Except FileFault Unit) := do
  match change (← get) with
  | .ok files =>
    set files
    return .ok ()
  | .error fault => return .error fault

/-- The host that has the files. -/
def host (home : String) (publicKey : Option String) : Host (StateM Files) where
  home := home
  publicKey := publicKey
  kindAt path := return ((← get).find path).toOption.map Entry.kind
  readFile path := return (← get).read path
  createFile path content := attempt (create (.file content) path)
  makeDirectory path := attempt (create .directory path)

/-- The place that a path without `.` and `..` names. -/
def placeOf (path : String) : List String := (pathParts path).filter (· ≠ "")

/-- The files with one more at a path, and the directories around it. -/
def put (path : String) (content : Bytes) (files : Files) : Files :=
  let directories := (directoriesAround path).map fun directory => (placeOf directory, .directory)
  (placeOf path, .file content) :: directories ++ files

/-- A directory with files at paths, of which the first that names a place counts. -/
def ofList (home : String) (contents : List (String × Bytes)) : Files :=
  contents.foldr (fun (path, content) files => files.put path content)
    [(placeOf home, .directory)]

end Files

end Registrar.Cli
