import Retype.Node.Basic
import Retype.Outcome
import Retype.Text.Lower
import Retype.Text.Word
import Retype.Token.Kind

/-!
# Names

A reference name is an identifier or a row of identifiers with points between
them.  `entity` is the name in type position and `memberExpr` the same name in
value position.  A name that is TypeScript already is kept, and `keep` says what
becomes of a kept node.

A parameter of a function type may have no name in Flow and must have one in
TypeScript.  `paramNames` gives names to those that have none: the name of the
type in lower case, if that is a free identifier, and else `arg` with the place
of the parameter.
-/

namespace Retype.Convert

/-! ## Reference names -/

/-- A reference name in type position. -/
def entity (keep : Node → Node) : Node → Except Failure Node
  | ⟨i, .expr (.ident name)⟩ => .ok ⟨i, .expr (.ident name)⟩
  | ⟨i, .ts (.qualified left name)⟩ => .ok (keep ⟨i, .ts (.qualified left name)⟩)
  | ⟨i, .flow (.qualified left name)⟩ => do
    return .ts i.pos (.qualified (← entity keep left) name)
  | n => .error (.notAName n.kind n.pos)

/-- A reference name in value position. -/
def memberExpr : Node → Except Failure Node
  | ⟨i, .expr (.ident name)⟩ => .ok ⟨i, .expr (.ident name)⟩
  | ⟨i, .flow (.qualified left name)⟩ => do
    return .expr i.pos (.member (← memberExpr left) name false)
  | ⟨i, .ts (.qualified left name)⟩ => do
    return .expr i.pos (.member (← memberExpr left) name false)
  | n => .error (.notAName n.kind n.pos)

/-- The text of a reference name: an identifier, or the first two values of any other
node with a point between them.  A missing second value is spelled `None`. -/
def qualifiedName (n : Node) : String :=
  n.fold fun n results =>
    match n.form, results.parts with
    | .expr (.ident name), _ => name
    | _, .node left :: .text name :: _ => left ++ "." ++ name
    | _, .node left :: .absent :: _ => left ++ ".None"
    | _, _ => ""

/-! ## Derived names -/

/-- The words that are never a derived name. -/
def reserved : List String :=
  TokenKind.reservedWords.map (·.1) ++
    ["break", "case", "catch", "continue", "debugger", "do", "enum", "finally", "for", "super",
      "switch", "try", "with", "yield", "package", "private", "protected", "public", "undefined"]

/-- The characters that may start a derived name. -/
def isLowerStart (c : Char) : Bool := c.isLower || c = '_' || c = '$'

/-- The characters that may follow in a derived name. -/
def isWordPart (c : Char) : Bool := Text.isWord c || c = '$'

/-- Whether a text has the form of a derived name.  A line end may follow it. -/
def isLowerName (s : String) : Bool :=
  match s.toList with
  | [] => false
  | c :: cs =>
    isLowerStart c && (cs.all isWordPart || (cs.getLast? = some '\n' && cs.dropLast.all isWordPart))

/-- The identifier that a type is, if it is a reference to one. -/
def identifierOf? (t : Node) : Option String :=
  match t.form with
  | .flow (.generic ⟨_, .expr (.ident name)⟩ _) => some name
  | _ => none

/-- A name for the parameter of a type at a place, other than the used ones. -/
def paramName (type : Node) (place : Int) (used : List String) : String :=
  match identifierOf? type with
  | some name =>
    let name := Text.lowerCase name
    if name ∉ reserved && name ∉ used && isLowerName name then name else "arg" ++ toString place
  | none => "arg" ++ toString place

/-- A name that is declared: a missing one and an empty one are not. -/
def declared (name : Option String) : Option String := name.filter (· ≠ "")

/-- The declared name and the type of a parameter. -/
def paramParts? (p : Node) : Option (Option String × Node × Bool) :=
  match p.form with
  | .flow (.param name type optional) => some (declared name, type, optional)
  | .ts (.param name type optional) => some (declared (some name), type, optional)
  | _ => none

/-- The declared names of parameters. -/
def declaredNames (params : List Node) : List String :=
  params.filterMap fun p => (paramParts? p).bind (·.1)

/-- The names of parameters whose first has the place `i`, declared or derived. -/
def paramNamesFrom (used : List String) (i : Nat) : List Node → List String
  | [] => []
  | p :: ps =>
    match paramParts? p with
    | some (some name, _, _) => name :: paramNamesFrom used (i + 1) ps
    | some (none, type, _) =>
      let name := paramName type i used
      name :: paramNamesFrom (name :: used) (i + 1) ps
    | none => "" :: paramNamesFrom used (i + 1) ps

/-- The names of the parameters of a function type. -/
def paramNames (params : List Node) : List String :=
  paramNamesFrom (declaredNames params) 0 params

/-- The name of the parameter that takes the rest. -/
def restName (name : Option String) (others : List String) : String :=
  match declared name with
  | some name => name
  | none => if "rest" ∈ others then "arg" ++ toString others.length else "rest"

/-- The name of the key in an index signature. -/
def indexKeyName (id : Option String) (key : Node) : String :=
  match declared id, identifierOf? key with
  | some name, _ => name
  | none, some name => Text.lowerCase name
  | none, none =>
    match key.form with
    | .flow (.primitive .number) => "n"
    | _ => "key"

end Retype.Convert
