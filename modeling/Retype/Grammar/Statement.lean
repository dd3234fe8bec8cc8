import Retype.Grammar.Basic

/-!
# Statements

The productions of variable declarations, functions, classes and control flow.
-/

namespace Retype.Grammar

/-- The same member of a class as a static one. -/
def makeStatic (m : Node) : Node :=
  match m.form with
  | .stmt (.classProp key annot value _ variance optional) =>
    m.withForm (.stmt (.classProp key annot value true variance optional))
  | .stmt (.classMethod key fn _) => m.withForm (.stmt (.classMethod key fn true))
  | _ => m

/-- The productions of statements. -/
def statements : List Production :=
  [⟨.varDecl, [.n .varKind, .n .declarators], fun k a => .stmt k.pos (.varDecl k.val a.val)⟩,
    ⟨.varKind, [.t .kwVar], fun _ => .plain⟩,
    ⟨.varKind, [.t .kwLet], fun _ => .letBound⟩,
    ⟨.varKind, [.t .kwConst], fun _ => .constant⟩,
    ⟨.declarators, [.n .declarator], fun a => [a.val]⟩,
    ⟨.declarators, [.n .declarators, .t .comma, .n .declarator], fun a _ b => a.val ++ [b.val]⟩,
    ⟨.declarator, [.n .binding, .n .annotOpt, .n .initOpt],
      fun b t i => .stmt b.pos (.declarator b.val t.val i.val)⟩,
    ⟨.initOpt, [.t .assign, .n .expr], fun _ t => some t.val⟩,
    ⟨.initOpt, [.n .empty], fun _ => none⟩,
    ⟨.binding, [.n .ident], fun a => .ident a.pos a.val⟩,
    ⟨.binding, [.t .lbrace, .n .patternProps, .t .rbrace],
      fun l a _ => .expr l.pos (.pattern a.val)⟩,
    ⟨.binding, [.t .lbrace, .t .rbrace], fun l _ => .expr l.pos (.pattern [])⟩,
    ⟨.patternProps, [.n .patternProp], fun a => [a.val]⟩,
    ⟨.patternProps, [.n .patternProps, .t .comma, .n .patternProp], fun a _ b => a.val ++ [b.val]⟩,
    ⟨.patternProps, [.n .patternProps, .t .comma], fun a _ => a.val⟩,
    ⟨.patternProp, [.n .ident, .n .initOpt],
      fun k i => .expr k.pos (.patternProp k.val none i.val false)⟩,
    ⟨.patternProp, [.n .propName, .t .colon, .n .binding, .n .initOpt],
      fun k _ b i => .expr k.pos (.patternProp k.val (some b.val) i.val false)⟩,
    ⟨.patternProp, [.t .ellipsis, .n .ident],
      fun e k => .expr e.pos (.patternProp k.val none none true)⟩,
    ⟨.functionDecl, [.t .kwFunction, .n .fnRest], fun k f => f.val.node k.pos false false⟩,
    ⟨.functionDecl, [.t .kwAsync, .t .kwFunction, .n .fnRest],
      fun k _ f => f.val.node k.pos true false⟩,
    ⟨.functionExpr, [.t .functionExpr, .n .fnRest], fun k f => f.val.node k.pos false true⟩,
    ⟨.functionExpr, [.t .kwAsync, .t .functionExpr, .n .fnRest],
      fun k _ f => f.val.node k.pos true true⟩,
    ⟨.fnRest,
      [.n .ident, .n .typeParamsOpt, .n .lparen, .n .params, .t .rparen, .n .returnOpt,
      .n .fnBody],
      fun n ts _ ps _ r b => ⟨some n.val, ts.val, ps.val, r.val, b.val⟩⟩,
    ⟨.fnRest, [.n .typeParamsOpt, .n .lparen, .n .params, .t .rparen, .n .returnOpt, .n .fnBody],
      fun ts _ ps _ r b => ⟨none, ts.val, ps.val, r.val, b.val⟩⟩,
    ⟨.lparen, [.t .lparen], fun _ => ()⟩,
    ⟨.lparen, [.t .arrowLparen], fun _ => ()⟩,
    ⟨.params, [.n .empty], fun _ => []⟩,
    ⟨.params, [.n .paramList], fun a => a.val⟩,
    ⟨.params, [.n .paramList, .t .comma], fun a _ => a.val⟩,
    ⟨.params, [.n .paramList, .t .comma, .n .restParam], fun a _ r => a.val ++ [r.val]⟩,
    ⟨.params, [.n .restParam], fun r => [r.val]⟩,
    ⟨.paramList, [.n .param], fun a => [a.val]⟩,
    ⟨.paramList, [.n .paramList, .t .comma, .n .param], fun a _ b => a.val ++ [b.val]⟩,
    ⟨.param, [.n .binding, .n .optionalMark, .n .annotOpt, .n .initOpt],
      fun b q t i => .expr b.pos (.param b.val t.val q.val i.val false)⟩,
    ⟨.restParam, [.t .ellipsis, .n .binding, .n .annotOpt],
      fun e b t => .expr e.pos (.param b.val t.val false none true)⟩,
    ⟨.returnOpt, [.t .colon, .n .type], fun c t => some (.flow c.pos (.annot t.val))⟩,
    ⟨.returnOpt, [.n .empty], fun _ => none⟩,
    ⟨.fnBody, [.n .lbrace, .n .stmtList, .t .rbrace], fun l a _ => .stmt l.pos (.block a.val)⟩,
    ⟨.classDecl,
      [.t .kwClass, .n .ident, .n .typeParamsOpt, .n .extendsOpt, .n .implementsOpt, .n .lbrace,
      .n .classBody, .t .rbrace],
      fun k n ts e is _ ms _ =>
        .stmt k.pos (.classDecl n.val ts.val e.val.1 e.val.2 is.val ms.val)⟩,
    ⟨.extendsOpt, [.t .kwExtends, .n .member, .n .typeArgsOpt],
      fun _ m ts => (some m.val, ts.val)⟩,
    ⟨.extendsOpt, [.n .empty], fun _ => (none, none)⟩,
    ⟨.implementsOpt, [.t .kwImplements, .n .ifaceRefList], fun _ a => a.val⟩,
    ⟨.implementsOpt, [.n .empty], fun _ => []⟩,
    ⟨.classBody, [.n .classBody, .n .classMember], fun a b => a.val ++ b.val.toList⟩,
    ⟨.classBody, [.n .empty], fun _ => []⟩,
    ⟨.classMember, [.n .memberDef], fun a => some a.val⟩,
    ⟨.classMember, [.t .semi], fun _ => none⟩,
    ⟨.classMember, [.t .kwStatic, .n .memberDef],
      fun s m => some ((makeStatic m.val).moveTo s.pos)⟩,
    ⟨.memberDef, [.n .propName, .n .propRest],
      fun k r => .stmt k.pos (.classProp k.val r.val.annot r.val.init false none r.val.optional)⟩,
    ⟨.memberDef, [.n .variance, .n .propName, .n .propRest],
      fun v k r =>
        .stmt v.pos (.classProp k.val r.val.annot r.val.init false (some v.val) r.val.optional)⟩,
    ⟨.propRest, [.n .optionalMark, .n .annotOpt, .n .initOpt], fun q t i => ⟨q.val, t.val, i.val⟩⟩,
    ⟨.memberDef,
      [.n .propName, .n .typeParamsOpt, .n .lparen, .n .params, .t .rparen, .n .returnOpt,
      .n .fnBody],
      fun k ts _ ps _ r b =>
        .stmt k.pos (.classMethod k.val
          (.expr k.pos (.function none ts.val ps.val r.val b.val false true)) false)⟩,
    ⟨.memberDef,
      [.t .kwAsync, .n .propName, .n .typeParamsOpt, .n .lparen, .n .params, .t .rparen,
      .n .returnOpt, .n .fnBody],
      fun a k ts _ ps _ r b =>
        .stmt a.pos (.classMethod k.val
          (.expr a.pos (.function none ts.val ps.val r.val b.val true true)) false)⟩,
    ⟨.ifStmt, [.t .kwIf, .t .lparen, .n .expr, .t .rparen, .n .stmt],
      fun k _ t _ c => .stmt k.pos (.cond t.val c.val none)⟩,
    ⟨.ifStmt, [.t .kwIf, .t .lparen, .n .expr, .t .rparen, .n .stmt, .t .kwElse, .n .stmt],
      fun k _ t _ c _ a => .stmt k.pos (.cond t.val c.val a.val)⟩,
    ⟨.whileStmt, [.t .kwWhile, .t .lparen, .n .expr, .t .rparen, .n .stmt],
      fun k _ t _ b => .stmt k.pos (.loop t.val b.val)⟩,
    ⟨.block, [.t .blockLbrace, .n .stmtList, .t .rbrace], fun l a _ => .stmt l.pos (.block a.val)⟩,
    ⟨.returnStmt, [.t .kwReturn, .n .expr], fun k e => .stmt k.pos (.ret (some e.val))⟩,
    ⟨.returnStmt, [.t .kwReturn], fun k => .stmt k.pos (.ret none)⟩,
    ⟨.throwStmt, [.t .kwThrow, .n .expr], fun k e => .stmt k.pos (.throw e.val)⟩,
    ⟨.exprStmt, [.n .expr], fun e => .stmt e.pos (.exprStmt e.val)⟩]

end Retype.Grammar
