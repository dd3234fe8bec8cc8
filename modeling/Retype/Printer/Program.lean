import Retype.Printer.Tree

/-!
# Printing programs

The text of a whole tree, and the texts of single nodes as other parts of a text
would show them.
-/

namespace Retype.Printer

/-- A type, in parentheses if it binds less tightly than asked for. -/
def tyAt (least : Nat) (ind : String) (t : Node) : Except Failure String :=
  (ty ind t).map (typeText least t)

/-- An expression with the comments in front of it. -/
def expr (ind : String) (e : Node) : Except Failure String :=
  (bare ind e).map (leadingText e ++ ·)

/-- An expression with the comments in front of it, in parentheses if it binds
less tightly than asked for. -/
def exprAt (least : Nat) (ind : String) (e : Node) : Except Failure String :=
  (bare ind e).map (exprText least e)

/-- Statements between braces. -/
def block (ind : String) (ss : List Node) : Except Failure String :=
  (stmts (ind ++ indent) ss).map (blockText ind ss)

/-- The statements of a tree: its first value, whatever its kind. -/
def statementsOf (tree : Node) : Except Failure (List Node) :=
  match tree.form.parts.head?.bind Part.children with
  | some ss => .ok ss
  | none => unprintable tree

/-- The lines of a tree.  The comments that belong to no statement come last,
behind a blank line. -/
def programLines (comments : List String) (lines : List String) : List String :=
  if comments.isEmpty then lines
  else lines ++ (if lines.isEmpty then [] else [""]) ++ comments

/-- The text of a whole tree. -/
def program (tree : Node) : Except Failure String := do
  let ss ← statementsOf tree
  let texts ← stmts "" ss
  return "\n".intercalate (programLines tree.comments (statementLines "" true (ss.zip texts)))

end Retype.Printer
