import Retype.CommandLine.Options

/-!
# A run of the command line

A run reads its arguments, finds the inputs and converts them one after the other.
A path that is a folder stands for the files below it that the output mode
accepts.  Any other path is an input if the output mode accepts it, whether it
exists or not, and else it is skipped with a note.

One input that fails does not keep the others from being converted.  The exit
status is 0 if none failed, 1 if one did, and 2 if there was nothing to do.

A run works on any disk.  `runOn` is the run on a file tree.
-/

namespace Retype.CommandLine

variable {α : Type} {m : Type → Type} [Monad m]

/-! ## Finding inputs -/

/-- The folders that are not searched. -/
def isSkipped (name : String) : Bool := name = "node_modules"

/-- The inputs that a path stands for, and what is noted about it. -/
def inputsAt (disk : File.Disk α m) (mode : OutputMode) (path : String) :
    m (List String × Console) := do
  match ← disk.folder? path with
  | some folder => return (folder.search isSkipped mode.accepts path, {})
  | none =>
    if mode.accepts path then return ([path], {})
    else return ([], .errLine ("skipping non-" ++ mode.inputSuffix ++ " file: " ++ path))

/-- The inputs that some paths stand for, in order. -/
def inputs (disk : File.Disk α m) (mode : OutputMode) : List String → m (List String × Console)
  | [] => return ([], {})
  | path :: paths => do
    let (found, note) ← inputsAt disk mode path
    let (others, notes) ← inputs disk mode paths
    return (found ++ others, note ++ notes)

/-! ## Converting them -/

/-- What became of each of some files. -/
def convertAll (disk : File.Disk α m) (job : Job) : List String → m (List Conversion)
  | [] => return []
  | path :: paths => do
    let c ← job.convert disk path
    return c :: (← convertAll disk job paths)

/-- How a run ended. -/
structure Ending where
  /-- The exit status. -/
  exit : Nat
  /-- What was put on the streams. -/
  console : Console
  deriving DecidableEq, Repr

/-- An ending with something on the streams in front. -/
def Ending.after (notes : Console) (e : Ending) : Ending :=
  { e with console := notes ++ e.console }

/-- The ending of a run that converts nothing. -/
def Refusal.ending (r : Refusal) : Ending := ⟨r.exit, r.console⟩

/-- The ending of a run over some files. -/
def summary (job : Job) (conversions : List Conversion) : Ending :=
  let failed := conversions.countP (!·.ok)
  let counts := toString (conversions.length - failed) ++ " converted, " ++ toString failed
    ++ " failed"
  ⟨if failed = 0 then 0 else 1,
    (conversions.map (·.console job)).foldr (· ++ ·) (.status job.dry counts)⟩

/-- Converts the files that some paths stand for. -/
def convertPaths (disk : File.Disk α m) (job : Job) (paths : List String) : m Ending := do
  let (found, notes) ← inputs disk job.mode paths
  if found.isEmpty then
    return (Refusal.noInputs job.mode).ending.after notes
  else
    let conversions ← convertAll disk job found
    return (summary job conversions).after notes

/-- Runs the command line.  `color` says whether diagnostics are coloured when no
option forbids it. -/
def run (disk : File.Disk α m) (color : Bool) (args : List String) : m Ending := do
  match Options.read { color } args with
  | .error refusal => return refusal.ending
  | .ok options =>
    match options.job with
    | .error refusal => return refusal.ending
    | .ok job => convertPaths disk job options.paths

/-- Runs the command line on a file tree, and gives the tree it leaves. -/
def runOn (tree : File.Entry ByteArray) (color : Bool) (args : List String) :
    Ending × File.Entry ByteArray :=
  run .ofTree color args tree

end Retype.CommandLine
