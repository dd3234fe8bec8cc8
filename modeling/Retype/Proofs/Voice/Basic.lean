import Retype.Proofs.Pass.Exposed

/-!
# Comments that are kept

A comment hangs on a node.  Whether it is kept depends on the place of that node.  The *rows* of a
node are the nodes printed on lines of their own below it: the statements of a program or block, the
members of a class, of a type body and of an object literal.  Their comments are kept.  Of a branch
only the comments behind it are.  Any other place keeps none.

Not all of a tree is printed either.  The nodes *shown* by a node are those from below it that are
left in the converted tree: an object type with a named indexer shows nothing but that indexer, a
declared class shows its first supertype and none of its members.

`Voiced` puts both together: the comments of a tree that are kept.
-/

namespace Retype

open Retype.Convert

namespace Node

/-- The members of a type body without the indexers behind the first one. -/
def lasting (seen : Bool) : List Node → List Node
  | [] => []
  | m :: ms =>
    if isIndexer m && seen then lasting seen ms else m :: lasting (seen || isIndexer m) ms

/-- The members of a type body that become fields. -/
def fields (members : List Node) : List Node := (lasting false members).filter (!isSpread ·)

/-- The nodes that are printed on lines of their own below a node. -/
def rows (n : Node) : List Node :=
  match n.form with
  | .stmt (.program ss) | .stmt (.block ss) => ss
  | .stmt (.classDecl _ _ _ _ _ members) => members
  | .expr (.object props) => props
  | .flow (.object members _) => if isMapped members then [] else fields members
  | .flow (.interface _ _ _ body _) => fields (membersOf body)
  | .ts (.typeLiteral members) | .ts (.interface _ _ _ members _) => members
  | _ => []

/-- The arguments of a type operation that count. -/
def operands (u : Utility) (targs : Option Node) : List Node :=
  if u.usesFirst then (argumentsOf targs).take 1 else argumentsOf targs

/-- The nodes from below a node that are left in the converted tree. -/
def shown (n : Node) : List Node :=
  match n.form with
  | .flow (.object members _) =>
    if isMapped members then (members.find? isIndexer).toList else lasting false members
  | .flow (.generic id targs) =>
    match utilityOf? id targs with
    | some u => operands u targs
    | none => targs.toList
  | .flow (.typeOf ⟨_, .flow (.generic ..)⟩) => []
  | .flow (.ifaceExt _ targs) => targs.toList
  | .flow (.opaqueType _ tps supertype type _) => tps.toList ++ (type.or supertype).toList
  | .flow (.interface _ tps parents body _) => tps.toList ++ parents ++ fields (membersOf body)
  | .flow (.declareClass _ tps parents _) => tps.toList ++ parents.take 1
  | .expr (.prop _ value shorthand) => if shorthand then [] else [value]
  | .stmt (.importDecl ..) => []
  | .stmt (.exportNamed decl ..) => decl.toList
  | _ => n.children

end Node

/-- A comment of a tree that is kept, other than those of its root. -/
inductive Voiced (c : String) : Node → Prop where
  | row {n m : Node} (row : m ∈ n.rows) (own : c ∈ m.comments ∨ c ∈ m.trailing) : Voiced c n
  | branch {n m : Node} (branch : m ∈ n.branches) (own : c ∈ m.trailing) : Voiced c n
  | within {n m : Node} (shown : m ∈ n.shown) (inner : Voiced c m) : Voiced c n

namespace Voiced

variable {c : String} {m n : Node}

/-- Nothing depends on the place of a node in the text. -/
theorem of_form (voiced : Voiced c n) (same : m.form = n.form) : Voiced c m := by
  have rows : m.rows = n.rows := by rw [Node.rows, Node.rows, same]
  have branches : m.branches = n.branches := by rw [Node.branches, Node.branches, same]
  have shown : m.shown = n.shown := by
    rw [Node.shown, Node.shown, Node.children, Node.children, same]
  cases voiced with
  | row row own => exact .row (rows ▸ row) own
  | branch branch own => exact .branch (branches ▸ branch) own
  | within inside inner => exact .within (shown ▸ inside) inner

/-- Only programs, blocks, classes, type bodies and object literals have rows. -/
theorem exists_shown (voiced : Voiced c n) (rows : n.rows = []) (branches : n.branches = []) :
    ∃ m ∈ n.shown, Voiced c m := by
  cases voiced with
  | row row => exact absurd row (by simp [rows])
  | branch branch => exact absurd branch (by simp [branches])
  | within shown inner => exact ⟨_, shown, inner⟩

end Voiced

end Retype
