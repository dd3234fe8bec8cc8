import Retype.Source

/-!
# Diagnostics

A *diagnostic* is an error or a warning about an offset of a source.  Its report
has a headline, the place, the line of code and a caret under the column, and a
hint if there is one.  Reports may be coloured with terminal escapes.

A *log* collects the diagnostics of one file.  A file with an error in its log
has failed.  A report of the log shows the errors before the warnings.
-/

namespace Retype

/-- How bad a diagnostic is. -/
inductive Severity where
  | error
  | warning
  deriving DecidableEq, Repr

/-- A message about an offset of a source. -/
structure Diagnostic where
  /-- How bad it is. -/
  severity : Severity
  /-- What is wrong. -/
  message : String
  /-- The offset it is about. -/
  pos : Int
  /-- What may help. -/
  hint : Option String := none
  deriving DecidableEq, Repr

/-- The escapes that a report puts around its pieces. -/
structure Palette where
  /-- Before the severity. -/
  label : String
  /-- Before the caret. -/
  mark : String
  /-- Before line numbers and bars. -/
  gutter : String
  /-- Before the word that introduces a hint. -/
  help : String
  /-- Behind each of them. -/
  reset : String

namespace Palette

/-- No escapes at all. -/
def plain : Palette := ⟨"", "", "", "", ""⟩

/-- Bold red for errors and bold yellow for warnings. -/
def colored : Severity → Palette
  | .error => ⟨"\x1b[1;31m", "\x1b[31m", "\x1b[1;34m", "\x1b[1;36m", "\x1b[0m"⟩
  | .warning => ⟨"\x1b[1;33m", "\x1b[33m", "\x1b[1;34m", "\x1b[1;36m", "\x1b[0m"⟩

end Palette

/-- The word for a severity. -/
def Severity.text : Severity → String
  | .error => "error"
  | .warning => "warning"

namespace Diagnostic

/-- A run of blanks. -/
def blanks (n : Nat) : String := String.ofList (List.replicate n ' ')

/-- The line with the caret, which stands under the column. -/
def caretLine (bar : String) (p : Palette) (column : Nat) : String :=
  bar ++ " " ++ blanks (column - 1) ++ p.mark ++ "^~~~" ++ p.reset

/-- The report of a diagnostic with given escapes. -/
def reportWith (p : Palette) (src : Source) (d : Diagnostic) : String :=
  let place := src.locate d.pos
  let number := toString place.line
  let pad := blanks number.length
  let bar := p.gutter ++ pad ++ " |" ++ p.reset
  let head :=
    [p.label ++ d.severity.text ++ p.reset ++ ": " ++ d.message,
      p.gutter ++ pad ++ "-->" ++ p.reset ++ " " ++ src.path ++ ":" ++ number ++ ":"
        ++ toString place.column,
      bar,
      p.gutter ++ number ++ " |" ++ p.reset ++ " " ++ place.code,
      caretLine bar p place.column]
  let tail :=
    match d.hint with
    | none => []
    | some "" => []
    | some hint => [bar, bar ++ " " ++ p.help ++ "help:" ++ p.reset ++ " " ++ hint]
  "\n".intercalate (head ++ tail)

/-- The report of a diagnostic. -/
def report (color : Bool) (src : Source) (d : Diagnostic) : String :=
  d.reportWith (if color then .colored d.severity else .plain) src

end Diagnostic

/-- The diagnostics of one file. -/
structure Log where
  /-- What made the file fail. -/
  errors : List Diagnostic := []
  /-- What was lost on the way. -/
  warnings : List Diagnostic := []
  deriving DecidableEq, Repr

namespace Log

/-- Adds a diagnostic behind those of its severity. -/
def add (log : Log) (d : Diagnostic) : Log :=
  match d.severity with
  | .error => { log with errors := log.errors ++ [d] }
  | .warning => { log with warnings := log.warnings ++ [d] }

/-- A file has not failed if its log has no error. -/
def ok (log : Log) : Bool := log.errors.isEmpty

/-- The report of a log: the errors, then the warnings, each with a blank line
behind it. -/
def report (color : Bool) (src : Source) (log : Log) : String :=
  String.join ((log.errors ++ log.warnings).map fun d => d.report color src ++ "\n\n")

end Log

end Retype
