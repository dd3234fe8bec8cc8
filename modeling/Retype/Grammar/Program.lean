import Retype.Grammar.Basic

/-!
# Programs, imports and exports

The productions of statement lists, names, imports and exports.
-/

namespace Retype.Grammar

/-- The productions of programs. -/
def programs : List Production :=
  [⟨.program, [.n .stmtList], fun a => .stmt 0 (.program a.val)⟩,
    ⟨.stmtList, [.n .stmtList, .n .stmt], fun a b => a.val ++ b.val.toList⟩,
    ⟨.stmtList, [.n .empty], fun _ => []⟩,
    ⟨.empty, [], ()⟩,
    ⟨.stmt, [.n .importDecl], fun a => some a.val⟩,
    ⟨.stmt, [.n .exportDecl], fun a => some a.val⟩,
    ⟨.stmt, [.n .typeAlias], fun a => some a.val⟩,
    ⟨.stmt, [.n .opaqueType], fun a => some a.val⟩,
    ⟨.stmt, [.n .interfaceDecl], fun a => some a.val⟩,
    ⟨.stmt, [.n .declareStmt], fun a => some a.val⟩,
    ⟨.stmt, [.n .functionDecl], fun a => some a.val⟩,
    ⟨.stmt, [.n .classDecl], fun a => some a.val⟩,
    ⟨.stmt, [.n .ifStmt], fun a => some a.val⟩,
    ⟨.stmt, [.n .whileStmt], fun a => some a.val⟩,
    ⟨.stmt, [.n .block], fun a => some a.val⟩,
    ⟨.stmt, [.n .simpleStmt, .t .semi], fun a _ => some a.val⟩,
    ⟨.stmt, [.t .semi], fun _ => none⟩,
    ⟨.simpleStmt, [.n .varDecl], fun a => a.val⟩,
    ⟨.simpleStmt, [.n .returnStmt], fun a => a.val⟩,
    ⟨.simpleStmt, [.n .throwStmt], fun a => a.val⟩,
    ⟨.simpleStmt, [.n .exprStmt], fun a => a.val⟩,
    ⟨.ident, [.t .name], fun a => a.val.text⟩,
    ⟨.ident, [.t .kwType], fun a => a.val.text⟩,
    ⟨.ident, [.t .kwOpaque], fun a => a.val.text⟩,
    ⟨.ident, [.t .kwDeclare], fun a => a.val.text⟩,
    ⟨.ident, [.t .kwInterface], fun a => a.val.text⟩,
    ⟨.ident, [.t .kwFrom], fun a => a.val.text⟩,
    ⟨.ident, [.t .kwAs], fun a => a.val.text⟩,
    ⟨.propName, [.n .ident], fun a => a.val⟩,
    ⟨.propName, [.t .kwDefault], fun a => a.val.text⟩,
    ⟨.propName, [.t .kwClass], fun a => a.val.text⟩,
    ⟨.propName, [.t .kwNew], fun a => a.val.text⟩,
    ⟨.propName, [.t .kwDelete], fun a => a.val.text⟩,
    ⟨.propName, [.t .kwTypeof], fun a => a.val.text⟩,
    ⟨.propName, [.t .kwVoid], fun a => a.val.text⟩,
    ⟨.propName, [.t .kwNull], fun a => a.val.text⟩,
    ⟨.propName, [.t .kwTrue], fun a => a.val.text⟩,
    ⟨.propName, [.t .kwFalse], fun a => a.val.text⟩,
    ⟨.propName, [.t .kwImport], fun a => a.val.text⟩,
    ⟨.propName, [.t .kwExport], fun a => a.val.text⟩,
    ⟨.propName, [.t .kwIn], fun a => a.val.text⟩,
    ⟨.propName, [.t .kwIf], fun a => a.val.text⟩,
    ⟨.propName, [.t .kwElse], fun a => a.val.text⟩,
    ⟨.propName, [.t .kwReturn], fun a => a.val.text⟩,
    ⟨.propName, [.t .kwThis], fun a => a.val.text⟩,
    ⟨.propName, [.t .kwExtends], fun a => a.val.text⟩,
    ⟨.propName, [.t .kwImplements], fun a => a.val.text⟩,
    ⟨.propName, [.t .kwVar], fun a => a.val.text⟩,
    ⟨.propName, [.t .kwLet], fun a => a.val.text⟩,
    ⟨.propName, [.t .kwConst], fun a => a.val.text⟩,
    ⟨.propName, [.t .kwWhile], fun a => a.val.text⟩,
    ⟨.propName, [.t .kwThrow], fun a => a.val.text⟩,
    ⟨.propName, [.t .kwInstanceof], fun a => a.val.text⟩,
    ⟨.propName, [.t .kwFunction], fun a => a.val.text⟩,
    ⟨.propName, [.t .functionExpr], fun a => a.val.text⟩,
    ⟨.propName, [.t .kwAwait], fun a => a.val.text⟩,
    ⟨.importDecl, [.t .kwImport, .n .importClause, .t .kwFrom, .t .string, .t .semi],
      fun i c _ s _ => .stmt i.pos (.importDecl none c.val s.val.text)⟩,
    ⟨.importDecl, [.t .kwImport, .t .kwType, .n .importClause, .t .kwFrom, .t .string, .t .semi],
      fun i _ c _ s _ => .stmt i.pos (.importDecl (some .type) c.val s.val.text)⟩,
    ⟨.importDecl,
      [.t .kwImport, .t .kwTypeof, .n .importClause, .t .kwFrom, .t .string, .t .semi],
      fun i _ c _ s _ => .stmt i.pos (.importDecl (some .typeOf) c.val s.val.text)⟩,
    ⟨.importDecl, [.t .kwImport, .t .string, .t .semi],
      fun i s _ => .stmt i.pos (.importDecl none [] s.val.text)⟩,
    ⟨.importClause, [.n .ident], fun a => [.stmt a.pos (.importDefault a.val)]⟩,
    ⟨.importClause, [.n .ident, .t .comma, .n .namedImports],
      fun a _ b => .stmt a.pos (.importDefault a.val) :: b.val⟩,
    ⟨.importClause, [.n .ident, .t .comma, .t .times, .t .kwAs, .n .ident],
      fun a _ t _ n => [.stmt a.pos (.importDefault a.val), .stmt t.pos (.importAll n.val)]⟩,
    ⟨.importClause, [.n .namedImports], fun a => a.val⟩,
    ⟨.importClause, [.t .times, .t .kwAs, .n .ident],
      fun t _ n => [.stmt t.pos (.importAll n.val)]⟩,
    ⟨.namedImports, [.t .lbrace, .n .importSpecs, .t .rbrace], fun _ a _ => a.val⟩,
    ⟨.namedImports, [.t .lbrace, .t .rbrace], fun _ _ => []⟩,
    ⟨.importSpecs, [.n .importSpec], fun a => [a.val]⟩,
    ⟨.importSpecs, [.n .importSpecs, .t .comma, .n .importSpec], fun a _ b => a.val ++ [b.val]⟩,
    ⟨.importSpecs, [.n .importSpecs, .t .comma], fun a _ => a.val⟩,
    ⟨.importSpec, [.n .specName], fun a => .stmt a.pos (.importSpec a.val a.val none)⟩,
    ⟨.importSpec, [.n .specName, .t .kwAs, .n .ident],
      fun a _ b => .stmt a.pos (.importSpec a.val b.val none)⟩,
    ⟨.importSpec, [.t .kwType, .n .specName],
      fun k a => .stmt k.pos (.importSpec a.val a.val (some .type))⟩,
    ⟨.importSpec, [.t .kwType, .n .specName, .t .kwAs, .n .ident],
      fun k a _ b => .stmt k.pos (.importSpec a.val b.val (some .type))⟩,
    ⟨.importSpec, [.t .kwTypeof, .n .specName],
      fun k a => .stmt k.pos (.importSpec a.val a.val (some .typeOf))⟩,
    ⟨.importSpec, [.t .kwTypeof, .n .specName, .t .kwAs, .n .ident],
      fun k a _ b => .stmt k.pos (.importSpec a.val b.val (some .typeOf))⟩,
    ⟨.specName, [.n .ident], fun a => a.val⟩,
    ⟨.specName, [.t .kwDefault], fun a => a.val.text⟩,
    ⟨.exportDecl, [.t .kwExport, .t .kwDefault, .n .expr, .t .semi],
      fun e _ a _ => .stmt e.pos (.exportDefault a.val)⟩,
    ⟨.exportDecl, [.t .kwExport, .t .kwDefault, .n .functionDecl],
      fun e _ a => .stmt e.pos (.exportDefault a.val)⟩,
    ⟨.exportDecl, [.t .kwExport, .t .kwDefault, .n .classDecl],
      fun e _ a => .stmt e.pos (.exportDefault a.val)⟩,
    ⟨.exportDecl, [.t .kwExport, .n .declaration],
      fun e a => .stmt e.pos (.exportNamed (some a.val) [] none none)⟩,
    ⟨.exportDecl, [.t .kwExport, .n .namedExports, .n .fromOpt, .t .semi],
      fun e a f _ => .stmt e.pos (.exportNamed none a.val f.val none)⟩,
    ⟨.exportDecl, [.t .kwExport, .t .kwType, .n .namedExports, .n .fromOpt, .t .semi],
      fun e _ a f _ => .stmt e.pos (.exportNamed none a.val f.val (some .type))⟩,
    ⟨.exportDecl, [.t .kwExport, .t .times, .t .kwFrom, .t .string, .t .semi],
      fun e _ _ s _ => .stmt e.pos (.exportAll none s.val.text)⟩,
    ⟨.exportDecl,
      [.t .kwExport, .t .times, .t .kwAs, .n .ident, .t .kwFrom, .t .string, .t .semi],
      fun e _ _ n _ s _ => .stmt e.pos (.exportAll (some n.val) s.val.text)⟩,
    ⟨.declaration, [.n .functionDecl], fun a => a.val⟩,
    ⟨.declaration, [.n .classDecl], fun a => a.val⟩,
    ⟨.declaration, [.n .typeAlias], fun a => a.val⟩,
    ⟨.declaration, [.n .opaqueType], fun a => a.val⟩,
    ⟨.declaration, [.n .interfaceDecl], fun a => a.val⟩,
    ⟨.declaration, [.n .varDecl, .t .semi], fun a _ => a.val⟩,
    ⟨.fromOpt, [.t .kwFrom, .t .string], fun _ s => some s.val.text⟩,
    ⟨.fromOpt, [.n .empty], fun _ => none⟩,
    ⟨.namedExports, [.t .lbrace, .n .exportSpecs, .t .rbrace], fun _ a _ => a.val⟩,
    ⟨.namedExports, [.t .lbrace, .t .rbrace], fun _ _ => []⟩,
    ⟨.exportSpecs, [.n .exportSpec], fun a => [a.val]⟩,
    ⟨.exportSpecs, [.n .exportSpecs, .t .comma, .n .exportSpec], fun a _ b => a.val ++ [b.val]⟩,
    ⟨.exportSpecs, [.n .exportSpecs, .t .comma], fun a _ => a.val⟩,
    ⟨.exportSpec, [.n .specName], fun a => .stmt a.pos (.exportSpec a.val a.val)⟩,
    ⟨.exportSpec, [.n .specName, .t .kwAs, .n .specName],
      fun a _ b => .stmt a.pos (.exportSpec a.val b.val)⟩]

end Retype.Grammar
