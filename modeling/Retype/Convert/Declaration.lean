import Retype.Convert.Type

/-!
# Converted declarations

A declared variable keeps its keyword.  A declared function must have a function
type, and its parts become those of the declaration.  A declared class keeps its
first supertype and loses its members.
-/

namespace Retype.Convert

open Outcome (fail warn warnIf ofExcept)

/-- The type of a binding: the first value of the node that holds it. -/
def annotatedType? (n : Node) : Option Node :=
  match n.form with
  | .flow (.annot type) | .ts (.annot type) => some type
  | f => f.parts.head?.bind Part.child

/-- The name and the type arguments of an entry of an `extends` list: its first two
values. -/
def heritageParts? (n : Node) : Option (Node × Option Node) :=
  match n.form with
  | .flow (.ifaceExt id targs) | .ts (.heritage id targs) => some (id, targs)
  | f =>
    match f.parts with
    | .node id :: targs :: _ => targs.child?.map fun targs => (id, targs)
    | _ => none

/-- The members of an object type: its first value. -/
def membersOf (n : Node) : List Node :=
  match n.form with
  | .flow (.object members _) | .ts (.typeLiteral members) => members
  | f => (f.parts.head?.bind Part.children).getD []

/-- Whether a node is a function type. -/
def isFunctionType (n : Node) : Bool :=
  match n.form with
  | .flow (.function ..) | .ts (.function ..) => true
  | _ => false

/-- A declared function from its converted type. -/
def declaredFunction (pos : Int) (name : String) (fn : Node) : Outcome Node :=
  match fn.form with
  | .ts (.function tparams params rest ret) =>
    pure (.ts pos (.declareFunction name tparams params rest ret))
  | _ => fail (.noFunctionType name fn.kind fn.pos)

/-- The first supertype of a declared class in value position, with its type
arguments. -/
def firstSupertype (keep : Node → Node) (parents : List Node) :
    Outcome (Option Node × Option Node) :=
  match parents with
  | [] => pure (none, none)
  | p :: _ =>
    match heritageParts? p with
    | some (id, targs) => do return (some (← ofExcept (memberExpr id)), targs.map keep)
    | none => fail (.notAName p.kind p.pos)

/-- The TypeScript declaration of a declaration. -/
def convertDeclaration (keep : Node → Node) (n : Node) : Outcome Node :=
  match n.form with
  | .flow (.declareVar kind name annot) => do
    return .ts n.pos (.declareVar kind name (← convertType? keep annot))
  | .flow (.declareFunction name annot) =>
    match annot.bind annotatedType? with
    | some fn =>
      if isFunctionType fn then do declaredFunction n.pos name (← convertFunction keep fn)
      else fail (.noFunctionType name (annot.getD n).kind (annot.getD n).pos)
    | none => fail (.noFunctionType name (annot.getD n).kind (annot.getD n).pos)
  | .flow (.declareClass name tparams parents body) => do
    match parents with
    | _ :: second :: _ => warn (.extraSupertypes name parents.length) second.pos
    | _ => pure ()
    warnIf (!(membersOf body).isEmpty) (.classMembers name) body.pos
    let parent ← firstSupertype keep parents
    return .ts n.pos (.declareClass name (← convertTparams keep tparams) parent.1 parent.2)
  | _ => if n.isTs then pure (keep n) else fail (.unsupportedDeclaration n.kind n.pos)

end Retype.Convert
