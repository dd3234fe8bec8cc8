import Retype.Grammar.Basic

/-!
# Declarations of types

The productions of aliases, interfaces and everything that starts with
`declare`.
-/

namespace Retype.Grammar

/-- The productions of declarations. -/
def declarations : List Production :=
  [⟨.typeAlias, [.t .kwType, .n .ident, .n .typeParamsOpt, .t .assign, .n .type, .t .semi],
      fun k n ps _ t _ => .flow k.pos (.typeAlias n.val ps.val t.val false)⟩,
    ⟨.opaqueType,
      [.t .kwOpaque, .t .kwType, .n .ident, .n .typeParamsOpt, .n .supertypeOpt, .t .assign,
      .n .type, .t .semi],
      fun k _ n ps s _ t _ => .flow k.pos (.opaqueType n.val ps.val s.val (some t.val) false)⟩,
    ⟨.supertypeOpt, [.t .colon, .n .type], fun _ t => some t.val⟩,
    ⟨.supertypeOpt, [.n .empty], fun _ => none⟩,
    ⟨.interfaceDecl,
      [.t .kwInterface, .n .ident, .n .typeParamsOpt, .n .ifaceExtendsOpt, .n .objectType],
      fun k n ps es b => .flow k.pos (.interface n.val ps.val es.val b.val false)⟩,
    ⟨.ifaceExtendsOpt, [.t .kwExtends, .n .ifaceRefList], fun _ a => a.val⟩,
    ⟨.ifaceExtendsOpt, [.n .empty], fun _ => []⟩,
    ⟨.ifaceRefList, [.n .ifaceRef], fun a => [a.val]⟩,
    ⟨.ifaceRefList, [.n .ifaceRefList, .t .comma, .n .ifaceRef], fun a _ b => a.val ++ [b.val]⟩,
    ⟨.ifaceRef, [.n .typeId, .n .typeArgsOpt], fun i ts => .flow i.pos (.ifaceExt i.val ts.val)⟩,
    ⟨.declareStmt, [.t .kwDeclare, .n .varKind, .n .ident, .n .annotOpt, .t .semi],
      fun d k n t _ => .flow d.pos (.declareVar k.val n.val t.val)⟩,
    ⟨.declareStmt, [.t .kwDeclare, .n .declareFn], fun d a => a.val.moveTo d.pos⟩,
    ⟨.declareStmt, [.t .kwDeclare, .n .declareClass], fun d a => a.val.moveTo d.pos⟩,
    ⟨.declareStmt,
      [.t .kwDeclare, .t .kwType, .n .ident, .n .typeParamsOpt, .t .assign, .n .type, .t .semi],
      fun d _ n ps _ t _ => .flow d.pos (.typeAlias n.val ps.val t.val true)⟩,
    ⟨.declareStmt,
      [.t .kwDeclare, .t .kwOpaque, .t .kwType, .n .ident, .n .typeParamsOpt, .n .supertypeOpt,
      .t .semi],
      fun d _ _ n ps s _ => .flow d.pos (.opaqueType n.val ps.val s.val none true)⟩,
    ⟨.declareStmt,
      [.t .kwDeclare, .t .kwOpaque, .t .kwType, .n .ident, .n .typeParamsOpt, .n .supertypeOpt,
      .t .assign, .n .type, .t .semi],
      fun d _ _ n ps s _ t _ => .flow d.pos (.opaqueType n.val ps.val s.val (some t.val) true)⟩,
    ⟨.declareStmt,
      [.t .kwDeclare, .t .kwInterface, .n .ident, .n .typeParamsOpt, .n .ifaceExtendsOpt,
      .n .objectType],
      fun d _ n ps es b => .flow d.pos (.interface n.val ps.val es.val b.val true)⟩,
    ⟨.declareStmt, [.t .kwDeclare, .t .kwExport, .t .kwDefault, .n .declareFn],
      fun d _ _ a => .flow d.pos (.declareExport a.val true)⟩,
    ⟨.declareStmt, [.t .kwDeclare, .t .kwExport, .t .kwDefault, .n .declareClass],
      fun d _ _ a => .flow d.pos (.declareExport a.val true)⟩,
    ⟨.declareStmt, [.t .kwDeclare, .t .kwExport, .t .kwDefault, .n .type, .t .semi],
      fun d _ _ t _ => .flow d.pos (.declareExport t.val true)⟩,
    ⟨.declareStmt, [.t .kwDeclare, .t .kwExport, .n .declareFn],
      fun d _ a => .flow d.pos (.declareExport a.val false)⟩,
    ⟨.declareStmt, [.t .kwDeclare, .t .kwExport, .n .declareClass],
      fun d _ a => .flow d.pos (.declareExport a.val false)⟩,
    ⟨.declareStmt, [.t .kwDeclare, .t .kwExport, .n .varKind, .n .ident, .n .annotOpt, .t .semi],
      fun d _ k n t _ =>
        .flow d.pos (.declareExport (.flow k.pos (.declareVar k.val n.val t.val)) false)⟩,
    ⟨.declareFn,
      [.t .kwFunction, .n .ident, .n .typeParamsOpt, .n .lparen, .n .fnTypeParams, .t .rparen,
      .t .colon, .n .type, .t .semi],
      fun k n ps l fs _ c t _ =>
        .flow k.pos (.declareFunction n.val (some (.flow c.pos (.annot
          (.flow l.pos (.function ps.val fs.val.params fs.val.rest t.val))))))⟩,
    ⟨.declareClass,
      [.t .kwClass, .n .ident, .n .typeParamsOpt, .n .ifaceExtendsOpt, .n .objectType],
      fun k n ps es b => .flow k.pos (.declareClass n.val ps.val es.val b.val)⟩]

end Retype.Grammar
