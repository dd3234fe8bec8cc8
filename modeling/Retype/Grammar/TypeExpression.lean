import Retype.Grammar.Basic

/-!
# Types

The productions of types.  A union keeps its members in one list, and so does an
intersection.  A name that stands for a primitive type is that type, unless it
has type arguments.
-/

namespace Retype.Grammar

/-- A union of two types.  The members of a union on the left are taken over. -/
def unite (pos : Int) (a b : Node) : Node :=
  match a.form with
  | .flow (.union ts) => a.withForm (.flow (.union (ts ++ [b])))
  | _ => .flow pos (.union [a, b])

/-- An intersection of two types.  The members of an intersection on the left are
taken over. -/
def intersect (pos : Int) (a b : Node) : Node :=
  match a.form with
  | .flow (.intersection ts) => a.withForm (.flow (.intersection (ts ++ [b])))
  | _ => .flow pos (.intersection [a, b])

/-- The type that a name with type arguments stands for. -/
def reference (pos : Int) (id : Node) (targs : Option Node) : Node :=
  match targs, id.form with
  | none, .expr (.ident name) =>
    match FlowPrimitive.ofIdentifier? name with
    | some p => .flow pos (.primitive p)
    | none => .flow pos (.generic id none)
  | _, _ => .flow pos (.generic id targs)

/-- The productions of types. -/
def types : List Production :=
  [⟨.type, [.n .unionType], fun a => a.val⟩,
    ⟨.type, [.t .pipe, .n .unionType], fun _ t => t.val⟩,
    ⟨.type, [.t .amp, .n .intersectionType], fun _ t => t.val⟩,
    ⟨.unionType, [.n .unionType, .t .pipe, .n .intersectionType],
      fun a _ b => unite a.pos a.val b.val⟩,
    ⟨.unionType, [.n .intersectionType], fun a => a.val⟩,
    ⟨.intersectionType, [.n .intersectionType, .t .amp, .n .prefixType],
      fun a _ b => intersect a.pos a.val b.val⟩,
    ⟨.intersectionType, [.n .prefixType], fun a => a.val⟩,
    ⟨.prefixType, [.t .question, .n .prefixType], fun q t => .flow q.pos (.nullable t.val)⟩,
    ⟨.prefixType, [.n .postfixType], fun a => a.val⟩,
    ⟨.prefixType, [.n .postfixType, .t .arrow, .n .type],
      fun a _ r =>
        .flow a.val.pos (.function none [.flow a.val.pos (.param none a.val false)] none r.val)⟩,
    ⟨.postfixType, [.n .postfixType, .t .lbracket, .t .rbracket],
      fun t _ _ => .flow t.pos (.array t.val)⟩,
    ⟨.postfixType, [.n .primaryType], fun a => a.val⟩,
    ⟨.primaryType, [.n .typeId, .n .typeArgsOpt], fun i ts => reference i.pos i.val ts.val⟩,
    ⟨.primaryType, [.t .string], fun a => .flow a.pos (.stringLit a.val.text)⟩,
    ⟨.primaryType, [.t .number], fun a => .flow a.pos (.numberLit a.val.text)⟩,
    ⟨.primaryType, [.t .minus, .t .number],
      fun m n => .flow m.pos (.numberLit ("-" ++ n.val.text))⟩,
    ⟨.primaryType, [.t .kwTrue], fun a => .flow a.pos (.booleanLit a.val.text)⟩,
    ⟨.primaryType, [.t .kwFalse], fun a => .flow a.pos (.booleanLit a.val.text)⟩,
    ⟨.primaryType, [.t .kwNull], fun a => .flow a.pos (.primitive .null)⟩,
    ⟨.primaryType, [.t .kwVoid], fun a => .flow a.pos (.primitive .void)⟩,
    ⟨.primaryType, [.t .times], fun a => .flow a.pos (.primitive .existential)⟩,
    ⟨.primaryType, [.t .kwTypeof, .n .primaryType], fun k t => .flow k.pos (.typeOf t.val)⟩,
    ⟨.primaryType, [.n .objectType], fun a => a.val⟩,
    ⟨.primaryType, [.t .lbracket, .n .typeList, .t .rbracket],
      fun l ts _ => .flow l.pos (.tuple ts.val)⟩,
    ⟨.primaryType, [.t .lbracket, .t .rbracket], fun l _ => .flow l.pos (.tuple [])⟩,
    ⟨.primaryType, [.t .lparen, .n .type, .t .rparen], fun _ t _ => t.val⟩,
    ⟨.primaryType,
      [.n .typeParamsOpt, .t .arrowLparen, .n .fnTypeParams, .t .rparen, .t .arrow, .n .type],
      fun ps l fs _ _ t =>
        .flow (if ps.val.isSome then ps.pos else l.pos)
          (.function ps.val fs.val.params fs.val.rest t.val)⟩,
    ⟨.typeId, [.n .ident], fun a => .ident a.pos a.val⟩,
    ⟨.typeId, [.n .typeId, .t .dot, .n .propName],
      fun a _ b => .flow a.pos (.qualified a.val b.val)⟩,
    ⟨.typeList, [.n .type], fun a => [a.val]⟩,
    ⟨.typeList, [.n .typeList, .t .comma, .n .type], fun a _ b => a.val ++ [b.val]⟩,
    ⟨.objectType, [.n .lbrace, .n .objectTypeBody, .t .rbrace],
      fun l b _ => .flow l.pos (.object b.val false)⟩,
    ⟨.objectType, [.t .exactLbrace, .n .objectTypeBody, .t .exactRbrace],
      fun l b _ => .flow l.pos (.object b.val true)⟩,
    ⟨.lbrace, [.t .lbrace], fun _ => ()⟩,
    ⟨.lbrace, [.t .blockLbrace], fun _ => ()⟩,
    ⟨.objectTypeBody, [.n .objectTypeMembers], fun a => a.val⟩,
    ⟨.objectTypeBody, [.n .objectTypeMembers, .n .memberSeparator], fun a _ => a.val⟩,
    ⟨.objectTypeBody, [.n .empty], fun _ => []⟩,
    ⟨.objectTypeMembers, [.n .objectTypeMember], fun a => a.val.toList⟩,
    ⟨.objectTypeMembers, [.n .objectTypeMembers, .n .memberSeparator, .n .objectTypeMember],
      fun a _ b => a.val ++ b.val.toList⟩,
    ⟨.memberSeparator, [.t .comma], fun _ => ()⟩,
    ⟨.memberSeparator, [.t .semi], fun _ => ()⟩,
    ⟨.memberKey, [.n .propName], fun a => a.val⟩,
    ⟨.memberKey, [.t .string], fun a => a.val.text⟩,
    ⟨.variance, [.t .plus], fun _ => .covariant⟩,
    ⟨.variance, [.t .minus], fun _ => .contravariant⟩,
    ⟨.objectTypeMember, [.n .memberKey, .n .optionalMark, .t .colon, .n .type],
      fun k q _ t => some (.flow k.pos (.prop k.val t.val q.val none false))⟩,
    ⟨.objectTypeMember, [.n .variance, .n .memberKey, .n .optionalMark, .t .colon, .n .type],
      fun v k q _ t => some (.flow v.pos (.prop k.val t.val q.val (some v.val) false))⟩,
    ⟨.objectTypeMember,
      [.n .memberKey, .n .typeParamsOpt, .n .lparen, .n .fnTypeParams, .t .rparen, .t .colon,
      .n .type],
      fun k ps l fs _ _ t =>
        some (.flow k.pos (.prop k.val
          (.flow l.pos (.function ps.val fs.val.params fs.val.rest t.val)) false none true))⟩,
    ⟨.objectTypeMember, [.t .ellipsis, .n .type], fun e t => some (.flow e.pos (.spread t.val))⟩,
    ⟨.objectTypeMember, [.t .ellipsis], fun _ => none⟩,
    ⟨.objectTypeMember,
      [.t .lbracket, .n .ident, .t .colon, .n .type, .t .rbracket, .t .colon, .n .type],
      fun l i _ k _ _ v => some (.flow l.pos (.indexer (some i.val) k.val v.val none))⟩,
    ⟨.objectTypeMember, [.t .lbracket, .n .type, .t .rbracket, .t .colon, .n .type],
      fun l k _ _ v => some (.flow l.pos (.indexer none k.val v.val none))⟩,
    ⟨.objectTypeMember,
      [.n .variance, .t .lbracket, .n .ident, .t .colon, .n .type, .t .rbracket, .t .colon,
      .n .type],
      fun s _ i _ k _ _ v =>
        some (.flow s.pos (.indexer (some i.val) k.val v.val (some s.val)))⟩,
    ⟨.objectTypeMember, [.n .variance, .t .lbracket, .n .type, .t .rbracket, .t .colon, .n .type],
      fun s _ k _ _ v => some (.flow s.pos (.indexer none k.val v.val (some s.val)))⟩,
    ⟨.optionalMark, [.t .question], fun _ => true⟩,
    ⟨.optionalMark, [.n .empty], fun _ => false⟩,
    ⟨.fnTypeParams, [.n .empty], fun _ => {}⟩,
    ⟨.fnTypeParams, [.n .fnTypeParamList], fun a => { params := a.val }⟩,
    ⟨.fnTypeParams, [.n .fnTypeParamList, .t .comma], fun a _ => { params := a.val }⟩,
    ⟨.fnTypeParams, [.n .fnTypeParamList, .t .comma, .n .fnTypeRest],
      fun a _ r => { params := a.val, rest := some r.val }⟩,
    ⟨.fnTypeParams, [.n .fnTypeRest], fun r => { rest := some r.val }⟩,
    ⟨.fnTypeParamList, [.n .fnTypeParam], fun a => [a.val]⟩,
    ⟨.fnTypeParamList, [.n .fnTypeParamList, .t .comma, .n .fnTypeParam],
      fun a _ b => a.val ++ [b.val]⟩,
    ⟨.fnTypeParam, [.n .ident, .n .optionalMark, .t .colon, .n .type],
      fun n q _ t => .flow n.pos (.param (some n.val) t.val q.val)⟩,
    ⟨.fnTypeParam, [.n .type], fun t => .flow t.pos (.param none t.val false)⟩,
    ⟨.fnTypeRest, [.t .ellipsis, .n .ident, .n .optionalMark, .t .colon, .n .type],
      fun e n _ _ t => .flow e.pos (.param (some n.val) t.val false)⟩,
    ⟨.fnTypeRest, [.t .ellipsis, .n .type], fun e t => .flow e.pos (.param none t.val false)⟩,
    ⟨.typeParamsOpt, [.n .typeParams], fun a => some a.val⟩,
    ⟨.typeParamsOpt, [.n .empty], fun _ => none⟩,
    ⟨.typeParams, [.t .lt, .n .typeParamList, .t .gt], fun l a _ => .flow l.pos (.tparams a.val)⟩,
    ⟨.typeParams, [.t .lt, .n .typeParamList, .t .comma, .t .gt],
      fun l a _ _ => .flow l.pos (.tparams a.val)⟩,
    ⟨.typeParamList, [.n .typeParam], fun a => [a.val]⟩,
    ⟨.typeParamList, [.n .typeParamList, .t .comma, .n .typeParam], fun a _ b => a.val ++ [b.val]⟩,
    ⟨.typeParam, [.n .ident, .n .boundOpt, .n .typeDefaultOpt],
      fun n b d => .flow n.pos (.tparam n.val b.val d.val none)⟩,
    ⟨.typeParam, [.n .variance, .n .ident, .n .boundOpt, .n .typeDefaultOpt],
      fun v n b d => .flow v.pos (.tparam n.val b.val d.val (some v.val))⟩,
    ⟨.boundOpt, [.t .colon, .n .type], fun _ t => some t.val⟩,
    ⟨.boundOpt, [.n .empty], fun _ => none⟩,
    ⟨.typeDefaultOpt, [.t .assign, .n .type], fun _ t => some t.val⟩,
    ⟨.typeDefaultOpt, [.n .empty], fun _ => none⟩,
    ⟨.typeArgsOpt, [.n .typeArgs], fun a => some a.val⟩,
    ⟨.typeArgsOpt, [.n .empty], fun _ => none⟩,
    ⟨.typeArgs, [.t .lt, .n .typeList, .t .gt], fun l a _ => .flow l.pos (.targs a.val)⟩,
    ⟨.typeArgs, [.t .lt, .n .typeList, .t .comma, .t .gt],
      fun l a _ _ => .flow l.pos (.targs a.val)⟩,
    ⟨.annotOpt, [.t .colon, .n .type], fun c t => some (.flow c.pos (.annot t.val))⟩,
    ⟨.annotOpt, [.n .empty], fun _ => none⟩]

end Retype.Grammar
