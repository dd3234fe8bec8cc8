import Retype.Pass.Statement

/-!
# Passes over types in code

The passes here are about casts, types of bindings, type parameters and type
arguments that stand in statements and expressions.
-/

namespace Retype.Passes

open Retype.Convert
open Outcome (fail warn ofExcept)

/-- A cast becomes a cast of the other dialect. -/
def castRule : Rule := fun n =>
  match n.form with
  | .flow (.typecast e annot) => some fun keep =>
    match annotatedType? annot with
    | some type => do
      return n.become (.ts n.pos (.cast (keep e) (← convertType keep type)))
    | none => fail (.unsupportedType annot.kind annot.pos)
  | _ => none

/-- Casts are converted. -/
def typeCasts : Node → Outcome Node := castRule.run

/-- The type of a binding is converted.  A field that can only be written to becomes a
plain one, also in a layer of another layout. -/
def annotationRule : Rule := fun n =>
  match n.form with
  | .flow (.annot _) => some fun keep => do return n.become (← convertType keep n)
  | .stmt (.classProp key annot value isStatic variance optional) =>
    if isContravariant variance then
      some fun keep => do
        warn (.contravariantField key) n.pos
        return n.withForm (.stmt (.classProp key (annot.map keep) (value.map keep) isStatic none
          optional))
    else none
  | .foreign "class_prop" [.text key, _, _, _, .text "-", _] => some fun keep => do
    warn (.contravariantField key) n.pos
    return (cleared? n 6 4 keep).getD n
  | _ => none

/-- Types of bindings are converted. -/
def annotations : Node → Outcome Node := annotationRule.run

/-- Type parameters become type parameters of the other dialect. -/
def parameterRule : Rule := fun n =>
  match n.form with
  | .flow (.tparams _) => some fun keep => do
    return n.become ((← convertTparams keep (some n)).getD n)
  | _ => none

/-- Type parameters are converted. -/
def typeParameters : Node → Outcome Node := parameterRule.run

/-- The name of an entry of an `extends` or `implements` list is converted. -/
def heritageRule : Rule := fun n =>
  match n.form with
  | .flow (.ifaceExt id targs) => some fun keep => do
    return n.become (.ts n.pos (.heritage (← ofExcept (entity keep id)) (targs.map keep)))
  | _ => none

/-- A list of type arguments becomes one of the other dialect. -/
def argumentRule : Rule := fun n =>
  match n.form with
  | .flow (.targs _) => some fun keep => do
    return n.become ((← convertTargs keep (some n)).getD (.ts n.pos (.targs [])))
  | _ => none

/-- The names and the type arguments of references are converted. -/
def typeArguments (tree : Node) : Outcome Node := do
  argumentRule.run (← heritageRule.run tree)

end Retype.Passes
