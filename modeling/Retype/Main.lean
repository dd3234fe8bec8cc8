import Retype.CommandLine.Run

/-!
# The program

The command line on the files of the machine.  Diagnostics are coloured if the
error stream is a terminal.
-/

namespace Retype.CommandLine

/-- The cause of a failure of the machine.  The code of a failure may be negative. -/
def causeOf : IO.Error → File.Failure
  | .noFileOrDirectory .. => .missing
  | .inappropriateType _ code _ =>
    if code = 20 ∨ code = 0 - 20 then .notFolder else .isFolder
  | e => .other (toString e)

/-- An action with its failure as a value. -/
def attempt {α : Type} (action : IO α) : IO (Except File.Failure α) :=
  tryCatch (return .ok (← action)) fun e => return .error (causeOf e)

/-- What a listing shows of a folder.  A folder behind a link is not entered. -/
partial def outline (listing : Array IO.FS.DirEntry) : IO (File.Entry Unit) := do
  let entries ← listing.toList.mapM fun e => do
    match (← e.path.symlinkMetadata).type with
    | .dir => return (e.fileName, ← outline (← e.path.readDir))
    | .symlink =>
      if ← e.path.isDir then return (e.fileName, .folder []) else return (e.fileName, .file ())
    | _ => return (e.fileName, .file ())
  return .folder entries

/-- The files of the machine. -/
def machine : File.Disk Unit IO where
  folder? path := do
    let place := (← IO.currentDir) / path
    if path ≠ "" && (← place.isDir) then return some (← outline (← place.readDir))
    else return none
  read path := attempt (IO.FS.readBinFile path)
  write path bytes := attempt (IO.FS.writeBinFile path bytes)

end Retype.CommandLine

/-- Converts the files that the arguments name. -/
def main (args : List String) : IO UInt32 := do
  let color ← (← IO.getStderr).isTty
  let ending ← Retype.CommandLine.run Retype.CommandLine.machine color args
  IO.eprint ending.console.err
  IO.print ending.console.out
  return UInt32.ofNat ending.exit
