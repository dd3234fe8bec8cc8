import Retype.Node.Basic
import Retype.Source
import Retype.Token.Basic

/-!
# Comments on a tree

Every comment is hung on a node.  The nodes that take comments are statements,
members of classes and of type bodies, and properties of object literals.  They
are taken in the order of their offsets.

A comment with code before it on its line trails the first such node that starts
on that line, if that node starts before the comment.  Code that ends in an
opening bracket does not count.  Any other comment leads the first node that
starts behind it.  If there is none, it stays with the program.

A statement has a blank line before it if one stands before its first leading
comment, or before the statement itself if it has none.
-/

namespace Retype.Comments

/-- Whether a node is a statement or a member of a class. -/
def isStatement (n : Node) : Bool :=
  match n.form with
  | .flow (.typeAlias ..) | .flow (.opaqueType ..) | .flow (.interface ..) => true
  | .flow (.declareVar ..) | .flow (.declareFunction ..) | .flow (.declareClass ..) => true
  | .flow (.declareExport ..) => true
  | .expr (.function ..) => true
  | .stmt (.importDecl ..) | .stmt (.exportNamed ..) | .stmt (.exportDefault ..) => true
  | .stmt (.exportAll ..) | .stmt (.varDecl ..) | .stmt (.classDecl ..) | .stmt (.ret ..) => true
  | .stmt (.throw ..) | .stmt (.cond ..) | .stmt (.loop ..) | .stmt (.exprStmt ..) => true
  | .stmt (.classProp ..) | .stmt (.classMethod ..) => true
  | _ => false

/-- Whether a node takes comments.  A function that is an expression does not. -/
def isTarget (n : Node) : Bool :=
  match n.form with
  | .expr (.function _ _ _ _ _ _ isExpr) => !isExpr
  | .flow (.prop ..) | .flow (.indexer ..) => true
  | .expr (.prop ..) | .expr (.computedProp ..) | .expr (.method ..) => true
  | _ => isStatement n

/-- A node that takes comments: its place in the tree and its offset. -/
structure Target where
  /-- The place among all nodes, every node before its children. -/
  place : Nat
  /-- The offset. -/
  pos : Int
  /-- Whether it is a statement. -/
  statement : Bool
  deriving DecidableEq, Repr

/-- Puts a target among others, behind those with the same offset. -/
def insertTarget (t : Target) : List Target → List Target
  | [] => [t]
  | u :: us => if u.pos ≤ t.pos then u :: insertTarget t us else t :: u :: us

/-- The targets of nodes whose first has the place `i`. -/
def targetsFrom : (i : Nat) → List Node → List Target
  | _, [] => []
  | i, n :: ns =>
    if isTarget n then ⟨i, n.pos, isStatement n⟩ :: targetsFrom (i + 1) ns
    else targetsFrom (i + 1) ns

/-- The targets of a tree in the order of their offsets, and of their places
where the offsets are the same. -/
def targets (tree : Node) : List Target :=
  (targetsFrom 0 tree.preorder).foldl (fun sorted t => insertTarget t sorted) []

/-- Where a comment goes. -/
inductive Spot where
  /-- In front of the node at a place. -/
  | leading (place : Nat)
  /-- Behind the node at a place. -/
  | trailing (place : Nat)
  /-- To the program. -/
  | program
  deriving DecidableEq, Repr

/-- Whether the code before a comment on its line owns the comment. -/
def ownsComment (before : List Char) : Bool :=
  match before.reverse.dropWhile (fun c => c = ' ' || c = '\t' || c = '\r') with
  | [] => false
  | '|' :: '\x7b' :: _ => false
  | c :: _ => !(c = '\x7b' || c = '(' || c = '[')

/-- The first target at an offset or behind it. -/
def firstFrom (ts : List Target) (pos : Int) : Option Target := ts.find? (pos ≤ ·.pos)

/-- Where a comment goes that leads what follows it. -/
def leadingSpot (ts : List Target) (c : Comment) : Spot :=
  match firstFrom ts ((c.pos + c.text.length : Nat) : Int) with
  | some t => .leading t.place
  | none => .program

/-- Where a comment goes. -/
def spot (text : List Char) (ts : List Target) (c : Comment) : Spot :=
  let before := Source.lineBefore (text.take c.pos)
  if ownsComment before then
    match firstFrom ts ((c.pos - before.length : Nat) : Int) with
    | some t => if t.pos < c.pos then .trailing t.place else leadingSpot ts c
    | none => leadingSpot ts c
  else leadingSpot ts c

/-- A comment and where it goes. -/
structure Placed where
  /-- The comment. -/
  comment : Comment
  /-- Where it goes. -/
  spot : Spot
  deriving DecidableEq, Repr

/-- The comments that go to a spot, in the order of the text. -/
def placedAt (ps : List Placed) (s : Spot) : List Comment :=
  ps.filterMap fun p => if p.spot = s then some p.comment else none

/-- The node at a place, with its comments. -/
def decorate (src : Source) (ps : List Placed) (ts : List Target) (place : Nat) (n : Node) : Node :=
  let leading := placedAt ps (.leading place)
  let trailing := placedAt ps (.trailing place)
  let info := { n.info with
    comments := n.comments ++ leading.map (·.text)
    trailing := n.trailing ++ trailing.map (·.text) }
  match ts.find? (·.place = place) with
  | some t =>
    if t.statement then
      let start : Int := ((leading.head?.map fun c => (c.pos : Int))).getD n.pos
      ⟨{ info with blankBefore := src.blankLineBefore start }, n.form⟩
    else ⟨info, n.form⟩
  | none => ⟨info, n.form⟩

/-- The tree with every node decorated, the places counted on the way. -/
def decorateAll (src : Source) (ps : List Placed) (ts : List Target) (tree : Node) : Node :=
  ((tree.visitM (m := StateM Nat) fun _ => do
    let place ← get
    set (place + 1)
    return decorate src ps ts place).run 0).1

/-- The tree with every comment hung on a node. -/
def attach (src : Source) (comments : List Comment) (tree : Node) : Node :=
  let ts := targets tree
  let ps := comments.map fun c => ⟨c, spot src.text.toList ts c⟩
  let tree := decorateAll src ps ts tree
  { tree with info := { tree.info with
    comments := tree.comments ++ (placedAt ps .program).map (·.text) } }

end Retype.Comments
