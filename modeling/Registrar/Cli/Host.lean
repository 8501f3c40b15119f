import Registrar.Bytes
import Registrar.Text.Split

namespace Registrar.Cli

/-!
# Hosts

A command is run against a host, which holds the files and the environment.

* `FileFault` — why a file or a directory cannot be had;
* `Host` — what a command asks of the place where it is run;
* `Host.makeDirectories` — a directory made together with those around it.
-/

/-- Why a file or a directory cannot be read or made. -/
inductive FileFault where
  | notFound
  | alreadyExists
  /-- A part of a path other than the last is a file. -/
  | notDirectory
  | isDirectory
  /-- A part of a path is longer than the host allows. -/
  | longName
  /-- The content is not a text. -/
  | notText
  | other (complaint : String)
deriving DecidableEq

/-- What a user is told about the fault. -/
def FileFault.message : FileFault → String
  | notFound => "No such file or directory (os error 2)"
  | alreadyExists => "File exists (os error 17)"
  | notDirectory => "Not a directory (os error 20)"
  | isDirectory => "Is a directory (os error 21)"
  | longName => "File name too long (os error 36)"
  | notText => "stream did not contain valid UTF-8"
  | other complaint => complaint

/-- What may stand at a path. -/
inductive PathKind where
  | file
  | directory
deriving DecidableEq

/-- What a command asks of the place where it is run. -/
structure Host (m : Type → Type) where
  /-- Where the user's files are. -/
  home : String
  /-- The public key that is used if none is given. -/
  publicKey : Option String
  /-- What stands at a path, if anything. -/
  kindAt : String → m (Option PathKind)
  readFile : String → m (Except FileFault Bytes)
  /-- Makes a file at a path at which nothing stands. -/
  createFile : String → Bytes → m (Except FileFault Unit)
  /-- Makes a directory in a directory. -/
  makeDirectory : String → m (Except FileFault Unit)

/-! ### Directories -/

/-- The parts of a path, between its slashes. -/
def pathParts (path : String) : List String := (Text.splitAll '/' path.toList).map String.ofList

/-- The directories around what stands at a path, the nearest first. -/
def directoriesAround (path : String) : List String :=
  let parts := pathParts path
  let around := (List.range parts.length).map fun count => "/".intercalate (parts.take count)
  (around.filter (· ≠ "")).reverse

section

variable {m : Type → Type} [Monad m]

/-- What making a directory came to; one that is there already is no fault. -/
def Host.settle (host : Host m) (directory : String) :
    Except FileFault Unit → m (Except FileFault Unit)
  | .ok () => return .ok ()
  | .error fault => do
    match ← host.kindAt directory with
    | some .directory => return .ok ()
    | _ => return .error fault

/-- Makes the first of the directories, each of which is in the one after it,
    together with those that it needs. -/
def Host.makeDirectories (host : Host m) : List String → m (Except FileFault Unit)
  | [] => return .ok ()
  | directory :: around => do
    match ← host.makeDirectory directory with
    | .error .notFound =>
      match ← host.makeDirectories around with
      | .ok () => host.settle directory (← host.makeDirectory directory)
      | .error fault => return .error fault
    | made => host.settle directory made

end

end Registrar.Cli
