import Retype.Node.Fold

/-!
# Walking a tree with a stack

`Node.walk` lists the nodes of a tree without recursion into it.  A stack holds
the nodes to come, the next one on top.  The top node is taken off and listed, and
its children are put on the stack in its place, the first of them on top.

Each step takes one node off what the stack stands for, so the walk ends.
-/

namespace Retype.Node

/-- The number of nodes of a tree. -/
def count (n : Node) : Nat := n.preorder.length

/-- The number of nodes of the trees on a stack. -/
def countAll (stack : List Node) : Nat := (stack.flatMap preorder).length

/-- A tree has one node more than the trees of its children. -/
theorem count_eq (n : Node) : n.count = countAll n.children + 1 := by
  rw [count, preorder_eq, List.length_cons, countAll]

/-- Putting the children in the place of their node takes one node away. -/
theorem countAll_children_append_lt (n : Node) (stack : List Node) :
    countAll (n.children ++ stack) < countAll (n :: stack) := by
  have h := count_eq n
  simp only [count, countAll, List.flatMap_append, List.flatMap_cons, List.length_append] at *
  omega

/-- The nodes that a walk meets from a stack on. -/
def walkFrom (stack : List Node) : List Node :=
  match stack with
  | [] => []
  | n :: rest => n :: walkFrom (n.children ++ rest)
termination_by countAll stack
decreasing_by exact countAll_children_append_lt n rest

/-- The nodes that a walk meets. -/
def walk (n : Node) : List Node := walkFrom [n]

end Retype.Node
