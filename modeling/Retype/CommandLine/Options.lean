import Retype.Conversion

/-!
# Options of the command line

Arguments are read from left to right.  An argument that starts with a dash is an
option, and any other is a path.  Help is given as soon as it is asked for, and an
option that does not exist ends the reading.  Afterwards there must be an output
mode and a path.
-/

namespace Retype.CommandLine

/-- What the arguments ask for. -/
structure Options where
  /-- The name of the output mode, if one was given. -/
  mode : Option String := none
  /-- Whether the output is shown and not stored. -/
  dry : Bool := false
  /-- Whether diagnostics are coloured. -/
  color : Bool := false
  /-- The paths to be converted, in order. -/
  paths : List String := []
  deriving DecidableEq, Repr

/-- Why nothing is converted. -/
inductive Refusal where
  /-- The user asked for help. -/
  | help
  /-- The option for the output mode has no argument. -/
  | modeMissing
  /-- There is no such option. -/
  | unknownOption (arg : String)
  /-- There is no such output mode, or none was given. -/
  | badMode
  /-- There is no path. -/
  | noPaths
  /-- No file was found. -/
  | noInputs (mode : OutputMode)
  deriving DecidableEq, Repr

/-- The lines that explain the command line. -/
def usageLines : List String :=
  ["Convert Flow annotated JavaScript into TypeScript.",
    "",
    "flowts -o MODE [--dry] [--no-color] PATH...",
    "",
    "Options:",
    "  -o, --output MODE   one of: ts, tsx, d.ts, tsxFromJsx",
    "  --dry               print the converted source instead of writing files",
    "  --no-color          plain diagnostics",
    "",
    "Pick \"ts\" for regular .js files, \"tsx\" for .js files containing JSX,",
    "\"d.ts\" for .js.flow declaration files and \"tsxFromJsx\" for .jsx files.",
    "Directories are searched recursively; node_modules is skipped."]

/-- The text that explains the command line. -/
def usage : String := String.join (usageLines.map (· ++ "\n"))

namespace Refusal

/-- The exit status of a refusal. -/
def exit : Refusal → Nat
  | help => 0
  | _ => 2

/-- What a refusal puts on the streams. -/
def console : Refusal → Console
  | help => .line usage
  | modeMissing => .line "error: -o/--output requires a mode"
  | unknownOption arg => .line ("error: unknown option '" ++ arg ++ "'") ++ .line usage
  | badMode =>
    .line ("error: output mode must be one of: "
      ++ ", ".intercalate (OutputMode.all.map (·.name))) ++ .line usage
  | noPaths => .line "error: no input paths"
  | noInputs mode => .line ("error: no " ++ mode.inputSuffix ++ " inputs")

end Refusal

namespace Options

/-- Reads arguments on top of the options so far. -/
def read (o : Options) : List String → Except Refusal Options
  | [] => .ok o
  | arg :: args =>
    if arg = "-h" ∨ arg = "--help" then .error .help
    else if arg = "-o" ∨ arg = "--output" then
      match args with
      | [] => .error .modeMissing
      | mode :: args => read { o with mode := some mode } args
    else if arg = "--dry" then read { o with dry := true } args
    else if arg = "--no-color" then read { o with color := false } args
    else if arg.toList.head? = some '-' then .error (.unknownOption arg)
    else read { o with paths := o.paths ++ [arg] } args

/-- The job that the options ask for. -/
def job (o : Options) : Except Refusal Job :=
  match o.mode.bind OutputMode.ofName? with
  | none => .error .badMode
  | some mode => if o.paths.isEmpty then .error .noPaths else .ok ⟨mode, o.dry, o.color⟩

end Options

end Retype.CommandLine
