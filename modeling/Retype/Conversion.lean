import Retype.File.Disk
import Retype.OutputMode
import Retype.Text.Utf8
import Retype.Transform

/-!
# Converting one file

The bytes of a file are decoded, its line ends become line feeds, and the text is
converted.  The output is stored next to the file, unless this is a dry run.  All
that can go wrong on the way is a *trouble*.  The file then counts as failed, and
nothing is stored.

A file is reported on two streams.  Diagnostics go to the error stream.  What was
done goes to the output stream; in a dry run, that stream carries converted source
only.
-/

namespace Retype

/-! ## Reading a source -/

/-- A text in which every line ends in a line feed. -/
def unifyLineEnds : List Char → List Char
  | [] => []
  | '\r' :: '\n' :: cs => '\n' :: unifyLineEnds cs
  | '\r' :: cs => '\n' :: unifyLineEnds cs
  | c :: cs => c :: unifyLineEnds cs

/-- The source with these bytes. -/
def Source.ofBytes (path : String) (bytes : ByteArray) : Except Text.Utf8.Fault Source :=
  (Text.Utf8.decode bytes).map fun text => ⟨path, String.ofList (unifyLineEnds text.toList)⟩

/-! ## Troubles -/

/-- Why a file has failed. -/
inductive Trouble where
  /-- A file cannot be read or written. -/
  | file (path : String) (cause : File.Failure)
  /-- The bytes are no text. -/
  | encoding (fault : Text.Utf8.Fault)
  /-- The source cannot be converted. -/
  | source (cause : Failure)
  deriving DecidableEq, Repr

/-- A trouble as an error of a report. -/
def Trouble.diagnostic : Trouble → Diagnostic
  | file path cause => ⟨.error, "cannot convert file: " ++ cause.message path, 0, none⟩
  | encoding fault => ⟨.error, "cannot convert file: " ++ fault.message, 0, none⟩
  | source cause => cause.diagnostic

/-! ## The streams -/

/-- What was written to the two streams. -/
structure Console where
  /-- The output stream. -/
  out : String := ""
  /-- The error stream. -/
  err : String := ""
  deriving DecidableEq, Repr

namespace Console

/-- One console after the other. -/
def append (a b : Console) : Console := ⟨a.out ++ b.out, a.err ++ b.err⟩

instance : Append Console := ⟨append⟩

/-- A line on the output stream. -/
def line (text : String) : Console := { out := text ++ "\n" }

/-- A line on the error stream. -/
def errLine (text : String) : Console := { err := text ++ "\n" }

/-- A line about what was done. -/
def status (dry : Bool) (text : String) : Console :=
  if dry then errLine text else line text

end Console

/-! ## One file -/

/-- How files are converted. -/
structure Job where
  /-- What is converted into what. -/
  mode : OutputMode
  /-- Whether the output is shown and not stored. -/
  dry : Bool
  /-- Whether diagnostics are coloured. -/
  color : Bool
  deriving DecidableEq, Repr

/-- What became of a file. -/
structure Conversion where
  /-- The source, with an empty text if it could not be read. -/
  source : Source
  /-- What the output does not express. -/
  warnings : List Warning
  /-- The output, or why there is none. -/
  result : Except Trouble String

namespace Conversion

/-- The conversion of a file that was read, or not. -/
def ofRead (path : String) : Except File.Failure ByteArray → Conversion
  | .error cause => ⟨⟨path, ""⟩, [], .error (.file path cause)⟩
  | .ok bytes =>
    match Source.ofBytes path bytes with
    | .error fault => ⟨⟨path, ""⟩, [], .error (.encoding fault)⟩
    | .ok src =>
      let outcome := src.transform
      ⟨src, outcome.warnings, outcome.result.mapError .source⟩

/-- The conversion of a file whose output was stored, or not. -/
def stored (c : Conversion) (target : String) : Except File.Failure Unit → Conversion
  | .error cause => { c with result := .error (.file target cause) }
  | .ok () => c

/-- Whether a file was converted. -/
def ok (c : Conversion) : Bool := c.result.isOk

/-- The diagnostics of a file. -/
def log (c : Conversion) : Log where
  errors :=
    match c.result with
    | .ok _ => []
    | .error trouble => [trouble.diagnostic]
  warnings := c.warnings.map (·.diagnostic)

/-- What a file puts on the streams: its diagnostics, and then what was done. -/
def console (job : Job) (c : Conversion) : Console :=
  let path := c.source.path
  let done : Console :=
    match c.result with
    | .error _ => .status job.dry (path ++ ": failed")
    | .ok output =>
      if job.dry then { out := output }
      else .status job.dry (path ++ " -> " ++ job.mode.outputPath path)
  { err := c.log.report job.color c.source } ++ done

end Conversion

/-- Converts the file at a path. -/
def Job.convert {α : Type} {m : Type → Type} [Monad m] (job : Job) (disk : File.Disk α m)
    (path : String) : m Conversion := do
  let c := Conversion.ofRead path (← disk.read path)
  match c.result with
  | .error _ => return c
  | .ok output =>
    if job.dry then return c
    else
      let target := job.mode.outputPath path
      return c.stored target (← disk.write target output.toUTF8)

end Retype
