import Retype.Node.Basic

/-!
# Layout

How printed pieces are put together: levels of binding and the parentheses they
ask for, comments around a node, lines between braces, and the parts of imports
and exports.  Nothing here looks below the children of a node.
-/

namespace Retype.Printer

/-! ## Levels -/

/-- How tightly the outermost operator of a type binds. -/
def typeLevel (t : Node) : Nat :=
  match t.form with
  | .ts (.function ..) => 0
  | .ts (.union ..) => 1
  | .ts (.intersection ..) => 2
  | .ts (.keyOf ..) => 3
  | .ts (.array ..) | .ts (.indexed ..) => 4
  | _ => 5

/-- How tightly the outermost operator of an expression binds. -/
def exprLevel (e : Node) : Nat :=
  match e.form with
  | .expr (.assign ..) | .expr (.arrow ..) => 1
  | .expr (.cond ..) => 2
  | .expr (.binary op _ _) => op.level
  | .ts (.cast ..) => 10
  | .expr (.unary ..) | .expr (.update _ _ true) => 15
  | .expr (.update _ _ false) | .expr (.constructBare ..) => 16
  | .expr (.member ..) | .expr (.index ..) | .expr (.call ..) | .expr (.construct ..) => 17
  | _ => 18

/-- A text between parentheses. -/
def parenthesized (text : String) : String := "(" ++ text ++ ")"

/-- A text between parentheses if its level is below the one asked for. -/
def guarded (level least : Nat) (text : String) : String :=
  if level < least then parenthesized text else text

/-- Texts with commas between them. -/
def commas (texts : List String) : String := ", ".intercalate texts

/-- A text if a flag is set, else nothing. -/
def when (flag : Bool) (text : String) : String := if flag then text else ""

/-- A text with a mark in front of it, if there is one. -/
def ifSome (before : String) : Option String → String
  | none => ""
  | some text => before ++ text

/-! ## Comments -/

/-- The comments in front of an expression. -/
def leadingText (n : Node) : String :=
  if n.comments.isEmpty then "" else " ".intercalate n.comments ++ " "

/-- The comments behind a node on its line. -/
def trailingText (n : Node) : String := String.join (n.trailing.map (" " ++ ·))

/-! ## Lines -/

/-- One step of indentation. -/
def indent : String := "  "

/-- Lines between braces, the closing one on a line of its own. -/
def braces (ind : String) (lines : List String) : String :=
  "\x7b\n" ++ "\n".intercalate lines ++ "\n" ++ ind ++ "\x7d"

/-- The lines of members with their comments.  `sep` stands behind every member
but the last, and `last` behind that one. -/
def memberLines (ind sep last : String) : List (Node × String) → List String
  | [] => []
  | (n, text) :: rest =>
    n.comments.map (ind ++ ·)
      ++ (ind ++ text ++ (if rest.isEmpty then last else sep) ++ trailingText n)
      :: memberLines ind sep last rest

/-- Members between braces, one on a line, indented one step more than `ind`. -/
def memberBlock (ind sep last : String) (members : List (Node × String)) : String :=
  braces ind (memberLines (ind ++ indent) sep last members)

/-- The lines of statements with their comments and blank lines.  `first` says
that no line stands before them. -/
def statementLines (ind : String) (first : Bool) : List (Node × String) → List String
  | [] => []
  | (n, text) :: rest =>
    (if n.info.blankBefore && !first then [""] else [])
      ++ n.comments.map (ind ++ ·)
      ++ (ind ++ text ++ trailingText n)
      :: statementLines ind false rest

/-- Whether the first value of a node is an empty list. -/
def holdsNothing (n : Node) : Bool :=
  match n.form.parts with
  | .list [] :: _ => true
  | _ => false

/-- Names between braces on one line. -/
def nameList (names : List String) : String :=
  if names.isEmpty then "\x7b\x7d" else "\x7b " ++ commas names ++ " \x7d"

/-! ## Imports and exports -/

/-- A name and the name it is given. -/
def renamed (name other : String) : String :=
  if name = other then name else name ++ " as " ++ other

/-- The part of an import outside its braces. -/
def importOutside (n : Node) : List String :=
  match n.form with
  | .stmt (.importDefault name) => [name]
  | .stmt (.importAll name) => ["* as " ++ name]
  | _ => []

/-- A keyword with a blank behind it, if there is one. -/
def keywordText (kind : Option ImportKind) : String :=
  match kind with
  | some k => if k.text.isEmpty then "" else k.text ++ " "
  | none => ""

/-- The part of an import inside its braces: the three values of any node. -/
def importInside (n : Node) : List String :=
  match n.form.parts with
  | [.text imported, .text name, kind] =>
    [keywordText (kind.importKind?.getD none) ++ renamed imported name]
  | _ => []

/-- An import. -/
def importText (kind : Option ImportKind) (specs : List Node) (source : String) : String :=
  if specs.isEmpty then "import " ++ source ++ ";"
  else
    let inside := specs.flatMap importInside
    let parts := specs.flatMap importOutside ++ if inside.isEmpty then [] else [nameList inside]
    "import " ++ keywordText kind ++ commas parts ++ " from " ++ source ++ ";"

/-- One name of an export list: the first two values of any node. -/
def exportSpecText (n : Node) : List String :=
  match n.form.parts with
  | .text name :: .text exported :: _ => [renamed name exported]
  | _ => []

/-- A text between braces on one line. -/
def braced (text : String) : String :=
  if text.isEmpty then "\x7b\x7d" else "\x7b " ++ text ++ " \x7d"

/-- A list of exported names. -/
def exportText (specs : List Node) (source : Option String) (kind : Option ImportKind) : String :=
  "export " ++ when (kind = some .type) "type "
    ++ braced (commas (specs.flatMap exportSpecText)) ++ ifSome " from " source ++ ";"

/-! ## Literals -/

/-- Inside a string: an escaped single quote loses its backslash. -/
def unescapeSingle : List Char → List Char
  | [] => []
  | '\\' :: '\x27' :: cs => '\x27' :: unescapeSingle cs
  | c :: cs => c :: unescapeSingle cs

/-- Inside a string: a double quote gets a backslash. -/
def escapeDouble : List Char → List Char
  | [] => []
  | c :: cs => if c = '"' then '\\' :: '"' :: escapeDouble cs else c :: escapeDouble cs

/-- A string between single quotes, written between double quotes.  Any other
literal stays as it is. -/
def doubleQuoted (raw : String) : String :=
  match raw.toList with
  | '\x27' :: body =>
    String.ofList ('"' :: escapeDouble (unescapeSingle body.dropLast) ++ ['"'])
  | _ => raw

/-- A substitution of a template literal, with the text behind it. -/
def holeText (substitution quasi : String) : String := "$\x7b" ++ substitution ++ "\x7d" ++ quasi

/-- A template literal from its first text and its substitutions. -/
def templateText (first : String) (holes : List String) : String :=
  "`" ++ first ++ String.join holes ++ "`"

end Retype.Printer
