import Retype.Pass.Basic
import Retype.Printer.Program
import Retype.Program

/-!
# Converting a file

A Flow source text is parsed, run through all passes and printed.  A first line
that marks the file as Flow is dropped, and so are empty lines in front.
-/

namespace Retype

/-- The characters that start the line that marks a file as Flow. -/
def flowMark : List Char := "// @flow".toList

/-- A text without the first line, if that marks the file as Flow. -/
def dropFlowMark (cs : List Char) : List Char :=
  if flowMark.isPrefixOf cs then
    match cs.dropWhile (· ≠ '\n') with
    | [] => cs
    | _ :: rest => rest
  else cs

/-- The text of a file from the text of its tree. -/
def finish (printed : String) : String :=
  String.ofList ((dropFlowMark (printed.toList ++ ['\n'])).dropWhile (· = '\n'))

/-- The TypeScript text of a Flow source text, with the warnings of the
conversion. -/
def Source.transform (src : Source) : Outcome String := do
  let tree ← Outcome.ofExcept src.parse
  let tree ← Pass.runAll tree
  let printed ← Outcome.ofExcept (Printer.program tree)
  return finish printed

end Retype
