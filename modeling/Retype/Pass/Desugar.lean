import Retype.Node.Basic

/-!
# Removed operators

The operators `??` and `?.` are replaced by conditional expressions that test
their left operand for `null` and `undefined`.  A chain with an optional link is
replaced as a whole, and the links behind the optional one are rebuilt on the
tested object.

The outermost replacement carries a comment that asks for a review.  Everything
below a replacement is *inside*, and so is everything below a node that carries
the comment already.

`Desugared` holds what a node becomes in its parent.  It also holds the node
itself after the changes below it: the root of a tree has no parent, so a root
that would be replaced only takes those.
-/

namespace Retype.Passes

/-- The comment on the outermost replacement. -/
def reviewComment : String := "/* flowts: generated from ?? or ?. - review */"

/-- What a node becomes.  The flag says whether it is inside a replacement. -/
structure Desugared where
  /-- The node with the changes below it. -/
  kept : Bool → Node
  /-- What stands in the place of the node. -/
  value : Bool → Node
  /-- For a chain with an optional link: the object that is tested, and the chain
  rebuilt on it. -/
  chain : Option (Node × Node) := none

/-- Whether the children of a node are inside a replacement. -/
def isInside (n : Node) (inside : Bool) : Bool := inside || reviewComment ∈ n.comments

/-- A replacement, with the comment unless it is inside another one. -/
def marked (n : Node) (inside : Bool) (new : Node) : Node :=
  if isInside n inside then new else new.addComment reviewComment

/-- The identifier `undefined`. -/
def undefinedAt (pos : Int) : Node := .ident pos "undefined"

/-- Compares a node with `null` and with `undefined`. -/
def nullTest (pos : Int) (join compare : BinaryOp) (n : Node) : Node :=
  .expr pos (.paren (.expr pos (.binary join
    (.expr pos (.binary compare n (.expr pos .null)))
    (.expr pos (.binary compare n (undefinedAt pos))))))

/-- `(a !== null && a !== undefined) ? a : b`. -/
def coalesce (pos : Int) (left right : Node) : Node :=
  .expr pos (.cond (nullTest pos .and .strictNe left) left right)

/-- `(o === null || o === undefined) ? undefined : chain`. -/
def shortCircuit (pos : Int) (object chain : Node) : Node :=
  .expr pos (.cond (nullTest pos .or .strictEq object) (undefinedAt pos) chain)

/-- A node that stays in its place. -/
def stays (n : Node) (results : Form Desugared) : Desugared :=
  let changed := fun inside => n.withForm (results.map (·.value (isInside n inside)))
  ⟨changed, changed, none⟩

/-- The node with the changes below its children. -/
def keptBelow (n : Node) (results : Form Desugared) : Node :=
  n.withForm (results.map (·.kept true))

/-! ## `??` -/

/-- What a node becomes when `??` is removed. -/
def withoutNullish (n : Node) (results : Form Desugared) : Desugared :=
  match results with
  | .expr (.binary .nullish left right) =>
    ⟨fun _ => keptBelow n results,
      fun inside => marked n inside (coalesce n.pos (left.value true) (right.value true)), none⟩
  | _ => stays n results

/-- Removes `??`. -/
def nullishCoalescing (tree : Node) : Node := (tree.fold withoutNullish).kept false

/-! ## `?.` -/

/-- The chain of a link on an object.  `link` rebuilds the link on another object,
and an optional link tests its own object. -/
def chainOf (object : Desugared) (optional : Bool) (link : Node → Node) : Option (Node × Node) :=
  if optional then
    let tested := object.value true
    some (tested, link tested)
  else object.chain.map fun c => (c.1, link c.2)

/-- The chain that a node ends. -/
def chainAt (n : Node) (results : Form Desugared) : Option (Node × Node) :=
  match results with
  | .expr (.member object property optional) =>
    chainOf object optional fun o => .expr n.pos (.member o property false)
  | .expr (.index object property optional) =>
    chainOf object optional fun o => .expr n.pos (.index o (property.value true) false)
  | .expr (.call callee args optional) =>
    chainOf callee optional fun o => .expr n.pos (.call o (args.map (·.value true)) false)
  | _ => none

/-- What a node becomes when `?.` is removed. -/
def withoutOptional (n : Node) (results : Form Desugared) : Desugared :=
  match chainAt n results with
  | some (object, chain) =>
    ⟨fun _ => keptBelow n results,
      fun inside => marked n inside (shortCircuit n.pos object chain), some (object, chain)⟩
  | none => stays n results

/-- Removes `?.`. -/
def optionalChaining (tree : Node) : Node := (tree.fold withoutOptional).kept false

end Retype.Passes
