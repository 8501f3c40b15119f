import Registrar.Cli.Run

/-!
# The program

Runs the command that the arguments ask for on the files and the environment of the
process. The status is 0 if the command was done, 1 if it failed and 2 if the
arguments ask for no command. No connection to a node is opened: what a node would be
asked is a failure here.
-/

namespace Registrar.Cli

/-- The fault that the system reports, told apart by its code where one kind of error
    has several. -/
def FileFault.ofError : IO.Error → FileFault
  | .noFileOrDirectory _ _ _ => .notFound
  | .alreadyExists _ _ _ => .alreadyExists
  | .inappropriateType _ 21 _ => .isDirectory
  | .inappropriateType _ _ _ => .notDirectory
  | error => .other (toString error)

/-- What an action on a file comes to. -/
def attempt {α : Type} (action : IO α) : IO (Except FileFault α) := do
  try
    return .ok (← action)
  catch error =>
    return .error (.ofError error)

/-- Reads the bytes of a file. -/
def readBytes (path : String) : IO (Except FileFault Bytes) :=
  attempt do return (← IO.FS.readBinFile path).data.toList

/-- Writes the bytes of a file that is not there. -/
def writeBytes (path : String) (bytes : Bytes) : IO (Except FileFault Unit) :=
  attempt do (← IO.FS.Handle.mk path .writeNew).write ⟨bytes.toArray⟩

/-- The files and the environment of the process. -/
def processHost : IO (Host IO) := do
  let home := (← IO.getEnv "HOME").getD ""
  let publicKey ← IO.getEnv "BNS_PUBLIC_KEY"
  return {
    home, publicKey
    kindAt := fun path => do
      match ← readBytes path with
      | .error .notFound | .error .notDirectory => return none
      | .error .isDirectory => return some .directory
      | _ => return some .file
    readFile := readBytes
    createFile := writeBytes
    makeDirectory := fun path => attempt (IO.FS.createDir path) }

/-- Shows what came of a run; the number is the status of the process. -/
def Outcome.finish : Outcome → IO UInt32
  | .printed text => do
    IO.print text
    return 0
  | .failed fault => do
    IO.eprintln fault.report
    return 1
  | .misused => do
    IO.eprintln "error: the arguments ask for no command"
    return 2
  | .asks network _ => do
    IO.eprintln s!"Error: no connection to {network.url.text}"
    return 1

end Registrar.Cli

/-- Runs the command that the arguments ask for. -/
def main (arguments : List String) : IO UInt32 := do
  let host ← Registrar.Cli.processHost
  (← Registrar.Cli.run host arguments).finish
