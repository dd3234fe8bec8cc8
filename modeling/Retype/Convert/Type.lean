import Retype.Convert.Utility

/-!
# Converted types

The TypeScript type of a Flow type.  A node that is TypeScript already is kept, so
types that are half converted can be converted further.  A pass that is under way
may have more to change in a kept node, and so what becomes of one is a parameter,
`keep`.  With the identity, a kept node stays as it is.

An object type whose first indexer is named becomes a mapped type over that
indexer.  Any other object type keeps its members in order, and its spreads are
intersected with them.  Only the first indexer of an object type is kept.

A type argument that cannot be converted is dropped with a warning.  Any other
failure goes up.  The functions call each other on children only, so they are one
structural recursion.
-/

namespace Retype.Convert

open Outcome (fail warn warnIf ofExcept attempt)

/-- A union whose members that are unions are replaced by their members. -/
def unionOf (pos : Int) (types : List Node) : Node :=
  .ts pos (.union (types.flatMap fun t =>
    match t.form with
    | .ts (.union inner) => inner
    | _ => [t]))

/-- The indexers among the members of an object type. -/
def isIndexer (m : Node) : Bool :=
  match m.form with
  | .flow (.indexer ..) => true
  | _ => false

/-- The spreads among the members of an object type. -/
def isSpread (m : Node) : Bool :=
  match m.form with
  | .flow (.spread ..) => true
  | _ => false

/-- Whether the first indexer among members has a name. -/
def isMapped (members : List Node) : Bool :=
  match members.find? isIndexer with
  | some ⟨_, .flow (.indexer id ..)⟩ => (declared id).isSome
  | _ => false

/-- Warns of every member of an object type that a mapped type drops: first of the
indexers behind the first one, then of the other members. -/
def warnUnmapped (members : List Node) : Outcome Unit := do
  (((members.filter isIndexer).drop 1).forM fun m => warn .extraIndexer m.pos)
  ((members.filter (!isIndexer ·)).forM fun m => warn .besideIndexer m.pos)

/-- The name of the variable of a mapped type. -/
def mappedName : String := "K"

/-- The converted member with the comments of the member it comes from. -/
def withCommentsOf (old new : Node) : Node := if old.isTs then new else old.keepComments new

/-- An object type from its converted fields and spreads.  Without fields, the
spreads stand alone. -/
def objectOf (pos : Int) (fields spreads : List Node) : Node :=
  let literal := .ts pos (.typeLiteral fields)
  match spreads, fields with
  | [], _ => literal
  | [s], [] => s
  | spreads, [] => .ts pos (.intersection spreads)
  | spreads, _ => .ts pos (.intersection (literal :: spreads))

/-- Parameters of a function type from their names and converted types. -/
def tsParams : List Node → List String → List Node → List Node
  | p :: ps, name :: names, type :: types =>
    let optional := ((paramParts? p).map (·.2.2)).getD false
    .ts p.pos (.param name type optional) :: tsParams ps names types
  | _, _, _ => []

/-- The parameter that takes the rest, from its converted type. -/
def tsRest (rest : Option Node) (type : Option Node) (others : List String) : Option Node :=
  match rest, type with
  | some r, some type =>
    some (.ts r.pos (.param (restName ((paramParts? r).bind (·.1)) others) type false))
  | _, _ => none

/-- Whether there is a marker at all. -/
def isMarked (v : Option Variance) : Bool := v.any fun marker => !marker.text.isEmpty

/-- The markers that make a member read-only. -/
def isCovariant (v : Option Variance) : Bool := v = some .covariant

/-- The markers that have no counterpart. -/
def isContravariant (v : Option Variance) : Bool := v = some .contravariant

mutual

/-- The TypeScript type of a type. -/
def convertType (keep : Node → Node) : Node → Outcome Node
  | ⟨i, .ts f⟩ => pure (keep ⟨i, .ts f⟩)
  | ⟨i, .flow (.primitive p)⟩ => pure (.ts i.pos (.keyword p.toTs))
  | ⟨i, .flow (.stringLit raw)⟩ => pure (.ts i.pos (.literal raw))
  | ⟨i, .flow (.numberLit raw)⟩ => pure (.ts i.pos (.literal raw))
  | ⟨i, .flow (.booleanLit raw)⟩ => pure (.ts i.pos (.literal raw))
  | ⟨i, .flow (.annot type)⟩ => do return .ts i.pos (.annot (← convertType keep type))
  | ⟨i, .flow (.nullable inner)⟩ => do
    return unionOf i.pos [← convertType keep inner, .ts i.pos (.keyword .null)]
  | ⟨i, .flow (.array elem)⟩ => do return .ts i.pos (.array (← convertType keep elem))
  | ⟨i, .flow (.tuple types)⟩ => do return .ts i.pos (.tuple (← convertTypes keep types))
  | ⟨i, .flow (.union types)⟩ => do return unionOf i.pos (← convertTypes keep types)
  | ⟨i, .flow (.intersection types)⟩ => do return .ts i.pos (.intersection (← convertTypes keep types))
  | ⟨i, .flow (.object members _)⟩ =>
    if isMapped members then do
      warnUnmapped members
      convertMapped keep i.pos members
    else do
      let parts ← convertFields keep false members
      return objectOf i.pos parts.1 parts.2
  | ⟨i, .flow (.function tparams params rest ret)⟩ => do
    let types ← convertParams keep params
    let restType ← convertRest keep rest
    let tparams ← convertTparams keep tparams
    let ret ← convertType keep ret
    let names := paramNames params
    return .ts i.pos (.function tparams (tsParams params names types)
      (tsRest rest restType names) ret)
  | ⟨i, .flow (.generic name targs)⟩ =>
    match utilityOf? name targs with
    | some u => do
      let args ← convertArguments keep u.usesFirst targs
      let copies := if u.usesCopy then convertArguments id u.usesFirst targs else pure []
      return u.build i.pos args (copies.toOption.getD [])
    | none => do
      let name ← ofExcept (referenceEntity keep name targs)
      return .ts i.pos (.ref name (← convertTargs keep targs))
  | ⟨i, .flow (.typeOf ⟨_, .flow (.generic name _)⟩)⟩ => do
    return .ts i.pos (.typeOf (← ofExcept (entity keep name)))
  | ⟨i, .flow (.typeOf arg)⟩ => do
    warn .typeOfType i.pos
    convertType keep arg
  | n => if n.isTs then pure (keep n) else fail (.unsupportedType n.kind n.pos)

/-- The TypeScript types of types in a row. -/
def convertTypes (keep : Node → Node) : List Node → Outcome (List Node)
  | [] => pure []
  | t :: ts => do return (← convertType keep t) :: (← convertTypes keep ts)

/-- The TypeScript type of a type that may be missing. -/
def convertType? (keep : Node → Node) : Option Node → Outcome (Option Node)
  | none => pure none
  | some t => do return some (← convertType keep t)

/-- The converted arguments of a type operation. -/
def convertArguments (keep : Node → Node) (first : Bool) : Option Node → Outcome (List Node)
  | some ⟨_, .flow (.targs types)⟩ => if first then convertFirst keep types else convertTypes keep types
  | some ⟨_, .ts (.targs types)⟩ => if first then convertFirst keep types else convertTypes keep types
  | _ => pure []

/-- The TypeScript type of the first type of a row. -/
def convertFirst (keep : Node → Node) : List Node → Outcome (List Node)
  | [] => pure []
  | t :: _ => do return [← convertType keep t]

/-- The mapped type of the first indexer among members. -/
def convertMapped (keep : Node → Node) (pos : Int) : List Node → Outcome Node
  | ⟨i, .flow (.indexer _ key value variance)⟩ :: _ => do
    warnIf (isContravariant variance) .contravariantIndexer i.pos
    return .ts pos (.mapped mappedName (← convertType keep key) (← convertType keep value)
      (isCovariant variance))
  | _ :: ms => convertMapped keep pos ms
  | [] => pure (.ts pos (.typeLiteral []))

/-- The converted fields and spreads among members.  `seen` says that an indexer
came before. -/
def convertFields (keep : Node → Node) (seen : Bool) : List Node → Outcome (List Node × List Node)
  | [] => pure ([], [])
  | m :: ms =>
    if isSpread m then do
      let spread ← convertMember keep m
      let rest ← convertFields keep seen ms
      return (rest.1, spread :: rest.2)
    else if isIndexer m && seen then do
      warn .extraIndexer m.pos
      convertFields keep seen ms
    else do
      let field ← convertMember keep m
      let rest ← convertFields keep (seen || isIndexer m) ms
      return (withCommentsOf m field :: rest.1, rest.2)

/-- The TypeScript member of a member of an object type. -/
def convertMember (keep : Node → Node) : Node → Outcome Node
  | ⟨i, .ts f⟩ => pure (keep ⟨i, .ts f⟩)
  | ⟨i, .flow (.prop key value optional variance method)⟩ => do
    warnIf (isContravariant variance) (.contravariantField key) i.pos
    if method then return .ts i.pos (.methodSig key (← convertFunction keep value) optional)
    else return .ts i.pos (.propSig key (← convertType keep value) optional (isCovariant variance))
  | ⟨i, .flow (.indexer id key value variance)⟩ => do
    warnIf (isContravariant variance) .contravariantIndexer i.pos
    return .ts i.pos (.indexSig (indexKeyName id key) (← convertType keep key) (← convertType keep value)
      (isCovariant variance))
  | ⟨_, .flow (.spread type)⟩ => convertType keep type
  | n => if n.isTs then pure (keep n) else fail (.unsupportedMember n.kind n.pos)

/-- The TypeScript function type of a function type. -/
def convertFunction (keep : Node → Node) : Node → Outcome Node
  | ⟨i, .ts f⟩ => pure (keep ⟨i, .ts f⟩)
  | ⟨i, .flow (.function tparams params rest ret)⟩ => do
    let types ← convertParams keep params
    let restType ← convertRest keep rest
    let tparams ← convertTparams keep tparams
    let ret ← convertType keep ret
    let names := paramNames params
    return .ts i.pos (.function tparams (tsParams params names types)
      (tsRest rest restType names) ret)
  | n => if n.isTs then pure (keep n) else fail (.unsupportedType n.kind n.pos)

/-- The converted types of parameters. -/
def convertParams (keep : Node → Node) : List Node → Outcome (List Node)
  | [] => pure []
  | ⟨_, .flow (.param _ type _)⟩ :: ps => do
    return (← convertType keep type) :: (← convertParams keep ps)
  | ⟨_, .ts (.param _ type _)⟩ :: ps => do
    return (← convertType keep type) :: (← convertParams keep ps)
  | n :: _ => fail (.unsupportedType n.kind n.pos)

/-- The converted type of the parameter that takes the rest. -/
def convertRest (keep : Node → Node) : Option Node → Outcome (Option Node)
  | none => pure none
  | some ⟨_, .flow (.param _ type _)⟩ => do return some (← convertType keep type)
  | some ⟨_, .ts (.param _ type _)⟩ => do return some (← convertType keep type)
  | some n => fail (.unsupportedType n.kind n.pos)

/-- The TypeScript type parameters of type parameters. -/
def convertTparams (keep : Node → Node) : Option Node → Outcome (Option Node)
  | none => pure none
  | some ⟨i, .ts f⟩ => pure (some (keep ⟨i, .ts f⟩))
  | some ⟨i, .flow (.tparams params)⟩ => do
    return some (.ts i.pos (.tparams (← convertTparamList keep params)))
  | some n => if n.isTs then pure (some (keep n)) else fail (.unsupportedType n.kind n.pos)

/-- The TypeScript type parameters of type parameters in a row. -/
def convertTparamList (keep : Node → Node) : List Node → Outcome (List Node)
  | [] => pure []
  | ⟨i, .flow (.tparam name bound default variance)⟩ :: ps => do
    warnIf (isMarked variance) (.parameterVariance name) i.pos
    let param := .ts i.pos (.tparam name (← convertType? keep bound) (← convertType? keep default))
    return param :: (← convertTparamList keep ps)
  | n :: _ => fail (.unsupportedType n.kind n.pos)

/-- The TypeScript type arguments of type arguments.  If none can be converted,
there are none. -/
def convertTargs (keep : Node → Node) : Option Node → Outcome (Option Node)
  | none => pure none
  | some ⟨i, .ts f⟩ => pure (some (keep ⟨i, .ts f⟩))
  | some ⟨i, .flow (.targs types)⟩ => do
    let types ← convertEach keep types
    return if types.isEmpty then none else some (.ts i.pos (.targs types))
  | some n => if n.isTs then pure (some (keep n)) else fail (.unsupportedType n.kind n.pos)

/-- The TypeScript types of those types in a row that can be converted. -/
def convertEach (keep : Node → Node) : List Node → Outcome (List Node)
  | [] => pure []
  | t :: ts => do
    let type ← (convertType keep t).attempt .typeArgument t.pos
    return type.toList ++ (← convertEach keep ts)

end

/-- The members of the body of an interface.  Spreads are dropped. -/
def convertBody (keep : Node → Node) (seen : Bool) : List Node → Outcome (List Node)
  | [] => pure []
  | m :: ms =>
    if isSpread m then do
      warn .interfaceSpread m.pos
      convertBody keep seen ms
    else if isIndexer m && seen then do
      warn .extraIndexer m.pos
      convertBody keep seen ms
    else do
      let field ← convertMember keep m
      return withCommentsOf m field :: (← convertBody keep (seen || isIndexer m) ms)

/-- The TypeScript type of any node with members and a flag, as if it were an object
type. -/
def convertObject (keep : Node → Node) (n : Node) : Outcome Node :=
  match n.form.parts with
  | [members, _] =>
    match members.children with
    | some members => convertType keep (.flow n.pos (.object members false))
    | none => fail (.unsupportedType n.kind n.pos)
  | _ => fail (.unsupportedType n.kind n.pos)

/-- The TypeScript type of any node that has a name and type arguments, as if it were
a reference to that name. -/
def convertGeneric (keep : Node → Node) (n : Node) : Outcome Node :=
  match n.form.parts with
  | [.node name, targs] =>
    match targs.child? with
    | some targs => convertType keep (.flow n.pos (.generic name targs))
    | none => fail (.unsupportedType n.kind n.pos)
  | _ => fail (.unsupportedType n.kind n.pos)

end Retype.Convert
