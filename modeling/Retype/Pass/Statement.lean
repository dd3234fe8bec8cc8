import Retype.Convert.Declaration
import Retype.Pass.Rule

/-!
# Passes over statements

The passes here are about imports, exports, declarations, interfaces and aliases.

The passes over imports and exports take away a keyword and look at nothing else.  So
they do it in a layer of another layout as well.
-/

namespace Retype.Passes

open Retype.Convert
open Outcome (fail warn warnIf ofExcept)

/-- A foreign layer without its value at a place, if it has as many values as the
layers of its kind. -/
def cleared? (n : Node) (size place : Nat) (keep : Node → Node) : Option Node :=
  let parts := n.form.parts
  if parts.length = size then
    some (n.withForm ((Form.ofParts n.kind (parts.set place .absent)).map keep))
  else none

/-! ## Imports and exports -/

/-- Imports bring in values and types alike. -/
def importRule : Rule := fun n =>
  match n.form with
  | .stmt (.importDecl kind specs source) => some fun keep => do
    warnIf (kind = some .typeOf) .importTypeOf n.pos
    return n.withForm (.stmt (.importDecl none (specs.map keep) source))
  | .stmt (.importSpec imported name kind) => some fun _ => do
    warnIf (kind = some .typeOf) (.importSpecTypeOf imported) n.pos
    return n.withForm (.stmt (.importSpec imported name none))
  | .foreign "import" (.text kind :: _) => some fun keep => do
    warnIf (kind = ImportKind.typeOf.text) .importTypeOf n.pos
    return (cleared? n 3 0 keep).getD n
  | _ => none

/-- Imports lose their keywords. -/
def imports : Node → Outcome Node := importRule.run

/-- Exports give out values and types alike. -/
def exportRule : Rule := fun n =>
  match n.form with
  | .stmt (.exportNamed decl specs source _) => some fun keep =>
    return n.withForm (.stmt (.exportNamed (decl.map keep) (specs.map keep) source none))
  | .foreign "export_named" _ => some fun keep => return (cleared? n 4 3 keep).getD n
  | _ => none

/-- Exports lose their keywords. -/
def exports : Node → Outcome Node := exportRule.run

/-! ## Declarations -/

/-- Whether a node declares a variable, a function or a class. -/
def isDeclaration (n : Node) : Bool :=
  match n.form with
  | .flow (.declareVar ..) | .flow (.declareFunction ..) | .flow (.declareClass ..) => true
  | _ => false

/-- Whether a node declares a variable. -/
def isVariable (n : Node) : Bool :=
  match n.form with
  | .flow (.declareVar ..) => true
  | _ => false

/-- The name that a converted function or class declares. -/
def declaredName (n : Node) : String :=
  match n.form with
  | .ts (.declareFunction name ..) | .ts (.declareClass name ..) => name
  | .ts (.declareVar _ name _) => name
  | _ => ""

/-- A default export of a declaration: the declaration, and an export of its name. -/
def defaultExport (s converted : Node) : List Node :=
  [{ converted with info := { converted.info with
      comments := s.comments, blankBefore := s.info.blankBefore } },
    ⟨{ pos := s.pos, trailing := s.trailing },
      .stmt (.exportDefault (.ident s.pos (declaredName converted)))⟩]

/-- What takes the place of a statement. -/
def replacement (keep : Node → Node) (s : Node) : Outcome (List Node) :=
  if isDeclaration s then do return [s.become (← convertDeclaration keep s)]
  else
    match s.form with
    | .flow (.declareExport decl isDefault) =>
      if !isDeclaration decl || (isDefault && isVariable decl) then
        fail (.unsupportedExport decl.kind decl.pos)
      else do
        let converted ← convertDeclaration keep decl
        if isDefault then return defaultExport s converted
        else
          return [s.become (.stmt s.pos (.exportNamed (some converted) [] none none))]
    | _ => return [keep s]

/-- What takes the place of statements in a row. -/
def replacements (keep : Node → Node) (ss : List Node) : Outcome (List Node) := do
  return (← mapChildren (replacement keep) ss).flatten

/-- Declarations that stand directly in a program or a block are converted. -/
def declarationRule : Rule := fun n =>
  match n.form with
  | .stmt (.program ss) => some fun keep => do
    return n.withForm (.stmt (.program (← replacements keep ss)))
  | .stmt (.block ss) => some fun keep => do
    return n.withForm (.stmt (.block (← replacements keep ss)))
  | _ => none

/-- Declarations are converted. -/
def declarations : Node → Outcome Node := declarationRule.run

/-! ## Interfaces and aliases -/

/-- A converted entry of an `extends` list. -/
def convertHeritage (keep : Node → Node) (n : Node) : Outcome Node :=
  match heritageParts? n with
  | some (id, targs) => do
    return .ts n.pos (.heritage (← ofExcept (entity keep id)) (← convertTargs keep targs))
  | none => fail (.notAName n.kind n.pos)

/-- An interface becomes an interface of the other dialect. -/
def interfaceRule : Rule := fun n =>
  match n.form with
  | .flow (.interface name tparams parents body declare) => some fun keep => do
    let parents ← mapChildren (convertHeritage keep) parents
    let tparams ← convertTparams keep tparams
    let members ← convertBody keep false (membersOf body)
    return n.become (.ts n.pos (.interface name tparams parents members declare))
  | _ => none

/-- Interfaces are converted. -/
def interfaces : Node → Outcome Node := interfaceRule.run

/-- An alias becomes an alias of the other dialect.  One with a hidden right side
shows it, or its bound, or nothing. -/
def aliasRule : Rule := fun n =>
  match n.form with
  | .flow (.typeAlias name tparams type declare) => some fun keep => do
    let tparams ← convertTparams keep tparams
    return n.become (.ts n.pos (.typeAlias name tparams (← convertType keep type) declare))
  | .flow (.opaqueType name tparams supertype type declare) => some fun keep => do
    warn (.transparentAlias name) n.pos
    let tparams ← convertTparams keep tparams
    let type := (type.or supertype).getD (.ts n.pos (.keyword .unknown))
    return n.become (.ts n.pos (.typeAlias name tparams (← convertType keep type) declare))
  | _ => none

/-- Aliases are converted. -/
def typeAliases : Node → Outcome Node := aliasRule.run

end Retype.Passes
