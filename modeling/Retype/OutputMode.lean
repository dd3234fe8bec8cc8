/-!
# Output modes

An *output mode* says which files are converted and how the converted file is
called.  The input is known by its suffix, and the output has another suffix in
its place.
-/

namespace Retype

/-- What is converted into what. -/
inductive OutputMode where
  /-- Regular files. -/
  | ts
  /-- Regular files that hold markup. -/
  | tsx
  /-- Declaration files. -/
  | declaration
  /-- Files that are named for their markup. -/
  | tsxFromJsx
  deriving DecidableEq, Repr

namespace OutputMode

/-- All modes, in the order they are listed for the user. -/
def all : List OutputMode := [.ts, .tsx, .declaration, .tsxFromJsx]

/-- The name of a mode on the command line. -/
def name : OutputMode → String
  | ts => "ts"
  | tsx => "tsx"
  | declaration => "d.ts"
  | tsxFromJsx => "tsxFromJsx"

/-- The mode of a name. -/
def ofName? (name : String) : Option OutputMode :=
  all.find? (·.name = name)

/-- What the name of an input ends in. -/
def inputSuffix : OutputMode → String
  | ts | tsx => ".js"
  | declaration => ".js.flow"
  | tsxFromJsx => ".jsx"

/-- What the name of an output ends in. -/
def outputSuffix : OutputMode → String
  | ts => ".ts"
  | tsx | tsxFromJsx => ".tsx"
  | declaration => ".d.ts"

/-- Whether a path names an input. -/
def accepts (mode : OutputMode) (path : String) : Bool :=
  mode.inputSuffix.toList.isSuffixOf path.toList

/-- The path of the output for an input.  As many characters as the input suffix
has are cut off, whatever they are. -/
def outputPath (mode : OutputMode) (path : String) : String :=
  let stem := path.toList.take (path.length - mode.inputSuffix.length)
  String.ofList stem ++ mode.outputSuffix

end OutputMode

end Retype
