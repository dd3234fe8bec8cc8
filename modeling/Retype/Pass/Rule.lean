import Retype.Outcome
import Retype.Node.Walk

/-!
# Rules

A *rule* says which nodes a pass is about and what takes their place.  What takes
the place of a node may hold nodes from below it that stay as they are.  These may
hold nodes that the pass is about in turn, so a rule is given what becomes of a node
that stays.

A pass does two things with its rule.  `Rule.report` goes over all nodes of the tree,
every node before its children, and reports the warnings of those the rule is about.
It also meets the nodes that are gone once a node around them is replaced, and
reports their warnings too.  `Rule.settle` makes the new tree.  It meets only nodes
that stay.
-/

namespace Retype

/-- What is done at a node, given what becomes of the nodes that stay. -/
abbrev Change : Type := (Node → Node) → Outcome Node

/-- What is done at the nodes that a pass is about. -/
abbrev Rule : Type := Node → Option Change

namespace Rule

/-- The warnings of a node, and its failure. -/
def reportAt (rule : Rule) (n : Node) : Outcome Unit :=
  match rule n with
  | some change => do
    let _ ← change id
    return ()
  | none => return ()

/-- The warnings of every node of a tree, up to the first failure. -/
def report (rule : Rule) (tree : Node) : Outcome Unit := tree.preorder.forM rule.reportAt

/-- The tree after a pass.  Changes go at most `depth` nodes deep. -/
def settle (rule : Rule) : (depth : Nat) → Node → Node
  | 0, n => n
  | depth + 1, n =>
    match rule n with
    | some change => (change (rule.settle depth)).toOption.getD n
    | none => n.withForm (n.form.map (rule.settle depth))

/-- Runs the pass of a rule.  No tree is deeper than it has nodes. -/
def run (rule : Rule) (tree : Node) : Outcome Node := do
  rule.report tree
  return rule.settle tree.count tree

end Rule

end Retype
