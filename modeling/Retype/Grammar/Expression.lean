import Retype.Grammar.Basic
import Retype.Node.Chain

/-!
# Expressions

The productions of expressions.  Which operator binds tighter is not said here
but by the table of the parser.  Parentheses leave no trace, unless they end an
optional chain.
-/

namespace Retype.Grammar

/-- A parameter that is a bare name. -/
def loneParam (pos : Int) (name : String) : Node :=
  .expr pos (.param (.ident pos name) none false none false)

/-- A text without its first and last character. -/
def unquoted (s : String) : String := String.ofList (s.toList.drop 1).dropLast

/-- An expression between parentheses. -/
def group (pos : Int) (e : Node) : Node :=
  if e.isOptionalChain then .expr pos (.paren e) else e

/-- The productions of expressions. -/
def expressions : List Production :=
  [⟨.expr, [.n .expr, .t .plus, .n .expr], fun l _ r => .expr l.pos (.binary .add l.val r.val)⟩,
    ⟨.expr, [.n .expr, .t .minus, .n .expr], fun l _ r => .expr l.pos (.binary .sub l.val r.val)⟩,
    ⟨.expr, [.n .expr, .t .times, .n .expr], fun l _ r => .expr l.pos (.binary .mul l.val r.val)⟩,
    ⟨.expr, [.n .expr, .t .divide, .n .expr], fun l _ r => .expr l.pos (.binary .div l.val r.val)⟩,
    ⟨.expr, [.n .expr, .t .modulo, .n .expr], fun l _ r => .expr l.pos (.binary .rem l.val r.val)⟩,
    ⟨.expr, [.n .expr, .t .andAnd, .n .expr], fun l _ r => .expr l.pos (.binary .and l.val r.val)⟩,
    ⟨.expr, [.n .expr, .t .orOr, .n .expr], fun l _ r => .expr l.pos (.binary .or l.val r.val)⟩,
    ⟨.expr, [.n .expr, .t .nullish, .n .expr],
      fun l _ r => .expr l.pos (.binary .nullish l.val r.val)⟩,
    ⟨.expr, [.n .expr, .t .amp, .n .expr], fun l _ r => .expr l.pos (.binary .bitAnd l.val r.val)⟩,
    ⟨.expr, [.n .expr, .t .pipe, .n .expr], fun l _ r => .expr l.pos (.binary .bitOr l.val r.val)⟩,
    ⟨.expr, [.n .expr, .t .caret, .n .expr],
      fun l _ r => .expr l.pos (.binary .bitXor l.val r.val)⟩,
    ⟨.expr, [.n .expr, .t .eq, .n .expr], fun l _ r => .expr l.pos (.binary .eq l.val r.val)⟩,
    ⟨.expr, [.n .expr, .t .ne, .n .expr], fun l _ r => .expr l.pos (.binary .ne l.val r.val)⟩,
    ⟨.expr, [.n .expr, .t .strictEq, .n .expr],
      fun l _ r => .expr l.pos (.binary .strictEq l.val r.val)⟩,
    ⟨.expr, [.n .expr, .t .strictNe, .n .expr],
      fun l _ r => .expr l.pos (.binary .strictNe l.val r.val)⟩,
    ⟨.expr, [.n .expr, .t .lt, .n .expr], fun l _ r => .expr l.pos (.binary .lt l.val r.val)⟩,
    ⟨.expr, [.n .expr, .t .le, .n .expr], fun l _ r => .expr l.pos (.binary .le l.val r.val)⟩,
    ⟨.expr, [.n .expr, .t .gt, .n .expr], fun l _ r => .expr l.pos (.binary .gt l.val r.val)⟩,
    ⟨.expr, [.n .expr, .t .ge, .n .expr], fun l _ r => .expr l.pos (.binary .ge l.val r.val)⟩,
    ⟨.expr, [.n .expr, .t .kwInstanceof, .n .expr],
      fun l _ r => .expr l.pos (.binary .instanceOf l.val r.val)⟩,
    ⟨.expr, [.n .expr, .t .kwIn, .n .expr], fun l _ r => .expr l.pos (.binary .isIn l.val r.val)⟩,
    ⟨.expr, [.n .expr, .t .question, .n .expr, .t .colon, .n .expr],
      fun t _ c _ a => .expr t.pos (.cond t.val c.val a.val)⟩,
    ⟨.expr, [.n .expr, .t .assign, .n .expr], fun l _ r => .expr l.pos (.assign .set l.val r.val)⟩,
    ⟨.expr, [.n .expr, .t .assignOp, .n .expr],
      fun l o r =>
        .expr l.pos (.assign (.ofText o.val.text) l.val r.val)⟩,
    ⟨.expr, [.t .bang, .n .expr], fun o e => .expr o.pos (.unary .not e.val)⟩,
    ⟨.expr, [.t .minus, .n .expr], fun o e => .expr o.pos (.unary .minus e.val)⟩,
    ⟨.expr, [.t .plus, .n .expr], fun o e => .expr o.pos (.unary .plus e.val)⟩,
    ⟨.expr, [.t .tilde, .n .expr], fun o e => .expr o.pos (.unary .complement e.val)⟩,
    ⟨.expr, [.t .kwTypeof, .n .expr], fun o e => .expr o.pos (.unary .typeOf e.val)⟩,
    ⟨.expr, [.t .kwVoid, .n .expr], fun o e => .expr o.pos (.unary .void e.val)⟩,
    ⟨.expr, [.t .kwDelete, .n .expr], fun o e => .expr o.pos (.unary .delete e.val)⟩,
    ⟨.expr, [.t .kwAwait, .n .expr], fun o e => .expr o.pos (.unary .await e.val)⟩,
    ⟨.expr, [.t .plusPlus, .n .expr], fun o e => .expr o.pos (.update .increment e.val true)⟩,
    ⟨.expr, [.t .minusMinus, .n .expr], fun o e => .expr o.pos (.update .decrement e.val true)⟩,
    ⟨.expr, [.n .postfixExpr, .t .plusPlus],
      fun e _ => .expr e.pos (.update .increment e.val false)⟩,
    ⟨.expr, [.n .postfixExpr, .t .minusMinus],
      fun e _ => .expr e.pos (.update .decrement e.val false)⟩,
    ⟨.expr, [.n .arrow], fun a => a.val⟩,
    ⟨.expr, [.n .postfixExpr], fun a => a.val⟩,
    ⟨.arrow, [.n .ident, .t .arrow, .n .arrowBody],
      fun a _ b => .expr a.pos (.arrow none [loneParam a.pos a.val] none b.val false)⟩,
    ⟨.arrow, [.t .kwAsync, .n .ident, .t .arrow, .n .arrowBody],
      fun k a _ b => .expr k.pos (.arrow none [loneParam a.pos a.val] none b.val true)⟩,
    ⟨.arrow, [.t .arrowLparen, .n .params, .t .rparen, .n .arrowReturn, .n .arrowBody],
      fun l ps _ r b => .expr l.pos (.arrow none ps.val r.val b.val false)⟩,
    ⟨.arrow,
      [.n .typeParams, .t .arrowLparen, .n .params, .t .rparen, .n .arrowReturn, .n .arrowBody],
      fun ts _ ps _ r b => .expr ts.pos (.arrow (some ts.val) ps.val r.val b.val false)⟩,
    ⟨.arrow,
      [.t .kwAsync, .t .arrowLparen, .n .params, .t .rparen, .n .arrowReturn, .n .arrowBody],
      fun k _ ps _ r b => .expr k.pos (.arrow none ps.val r.val b.val true)⟩,
    ⟨.arrowReturn, [.t .arrow], fun _ => none⟩,
    ⟨.arrowReturn, [.t .colon, .n .type, .t .returnArrow],
      fun c t _ => some (.flow c.pos (.annot t.val))⟩,
    ⟨.arrowBody, [.n .block], fun a => a.val⟩,
    ⟨.arrowBody, [.n .expr], fun a => a.val⟩,
    ⟨.postfixExpr, [.n .member], fun a => a.val⟩,
    ⟨.postfixExpr, [.n .call], fun a => a.val⟩,
    ⟨.postfixExpr, [.t .kwNew, .n .member], fun k c => .expr k.pos (.constructBare c.val none)⟩,
    ⟨.member, [.n .primary], fun a => a.val⟩,
    ⟨.member, [.n .member, .t .dot, .n .propName],
      fun o _ p => .expr o.pos (.member o.val p.val false)⟩,
    ⟨.member, [.n .member, .t .lbracket, .n .expr, .t .rbracket],
      fun o _ p _ => .expr o.pos (.index o.val p.val false)⟩,
    ⟨.member, [.t .kwNew, .n .member, .n .args],
      fun k c a => .expr k.pos (.construct c.val none a.val)⟩,
    ⟨.member, [.t .kwNew, .n .member, .n .typeArgs, .n .args],
      fun k c ts a => .expr k.pos (.construct c.val (some ts.val) a.val)⟩,
    ⟨.call, [.n .member, .n .args], fun c a => .expr c.pos (.call c.val a.val false)⟩,
    ⟨.call, [.n .call, .n .args], fun c a => .expr c.pos (.call c.val a.val false)⟩,
    ⟨.call, [.n .member, .t .questionDot, .n .args],
      fun c _ a => .expr c.pos (.call c.val a.val true)⟩,
    ⟨.call, [.n .call, .t .questionDot, .n .args],
      fun c _ a => .expr c.pos (.call c.val a.val true)⟩,
    ⟨.call, [.n .call, .t .dot, .n .propName],
      fun o _ p => .expr o.pos (.member o.val p.val false)⟩,
    ⟨.call, [.n .call, .t .lbracket, .n .expr, .t .rbracket],
      fun o _ p _ => .expr o.pos (.index o.val p.val false)⟩,
    ⟨.call, [.n .member, .t .questionDot, .n .propName],
      fun o _ p => .expr o.pos (.member o.val p.val true)⟩,
    ⟨.call, [.n .call, .t .questionDot, .n .propName],
      fun o _ p => .expr o.pos (.member o.val p.val true)⟩,
    ⟨.call, [.n .member, .t .questionDot, .t .lbracket, .n .expr, .t .rbracket],
      fun o _ _ p _ => .expr o.pos (.index o.val p.val true)⟩,
    ⟨.call, [.n .call, .t .questionDot, .t .lbracket, .n .expr, .t .rbracket],
      fun o _ _ p _ => .expr o.pos (.index o.val p.val true)⟩,
    ⟨.args, [.n .lparen, .n .argList, .t .rparen], fun _ a _ => a.val⟩,
    ⟨.args, [.n .lparen, .t .rparen], fun _ _ => []⟩,
    ⟨.argList, [.n .arg], fun a => [a.val]⟩,
    ⟨.argList, [.n .argList, .t .comma, .n .arg], fun a _ b => a.val ++ [b.val]⟩,
    ⟨.argList, [.n .argList, .t .comma], fun a _ => a.val⟩,
    ⟨.arg, [.n .expr], fun a => a.val⟩,
    ⟨.arg, [.t .ellipsis, .n .expr], fun e a => .expr e.pos (.spread a.val)⟩,
    ⟨.primary, [.n .ident], fun a => .ident a.pos a.val⟩,
    ⟨.primary, [.t .number], fun a => .expr a.pos (.num a.val.text)⟩,
    ⟨.primary, [.t .string], fun a => .expr a.pos (.str a.val.text)⟩,
    ⟨.primary, [.t .template], fun a => .expr a.pos (.template [unquoted a.val.text] [])⟩,
    ⟨.primary, [.t .templateHead, .n .templateSpans],
      fun h s => .expr h.pos (.template (h.val.text :: s.val.1) s.val.2)⟩,
    ⟨.templateSpans, [.n .expr, .t .templateTail], fun e q => ([q.val.text], [e.val])⟩,
    ⟨.templateSpans, [.n .expr, .t .templateMiddle, .n .templateSpans],
      fun e q s => (q.val.text :: s.val.1, e.val :: s.val.2)⟩,
    ⟨.primary, [.t .kwThis], fun a => .expr a.pos .this⟩,
    ⟨.primary, [.t .kwTrue], fun a => .expr a.pos (.bool true)⟩,
    ⟨.primary, [.t .kwFalse], fun a => .expr a.pos (.bool false)⟩,
    ⟨.primary, [.t .kwNull], fun a => .expr a.pos .null⟩,
    ⟨.primary, [.t .lparen, .n .expr, .t .rparen], fun l e _ => group l.pos e.val⟩,
    ⟨.primary, [.t .lparen, .n .expr, .t .colon, .n .type, .t .rparen],
      fun l e c t _ => .flow l.pos (.typecast e.val (.flow c.pos (.annot t.val)))⟩,
    ⟨.primary, [.n .functionExpr], fun a => a.val⟩,
    ⟨.primary, [.t .lbracket, .n .argList, .t .rbracket], fun l a _ => .expr l.pos (.array a.val)⟩,
    ⟨.primary, [.t .lbracket, .t .rbracket], fun l _ => .expr l.pos (.array [])⟩,
    ⟨.primary, [.t .lbrace, .n .objectProps, .t .rbrace],
      fun l a _ => .expr l.pos (.object a.val)⟩,
    ⟨.primary, [.t .lbrace, .t .rbrace], fun l _ => .expr l.pos (.object [])⟩,
    ⟨.objectProps, [.n .objectProp], fun a => [a.val]⟩,
    ⟨.objectProps, [.n .objectProps, .t .comma, .n .objectProp], fun a _ b => a.val ++ [b.val]⟩,
    ⟨.objectProps, [.n .objectProps, .t .comma], fun a _ => a.val⟩,
    ⟨.objectProp, [.n .propName, .t .colon, .n .expr],
      fun k _ e => .expr k.pos (.prop k.val e.val false)⟩,
    ⟨.objectProp, [.t .string, .t .colon, .n .expr],
      fun k _ e => .expr k.pos (.prop k.val.text e.val false)⟩,
    ⟨.objectProp, [.t .number, .t .colon, .n .expr],
      fun k _ e => .expr k.pos (.prop k.val.text e.val false)⟩,
    ⟨.objectProp, [.t .lbracket, .n .expr, .t .rbracket, .t .colon, .n .expr],
      fun l k _ _ e => .expr l.pos (.computedProp k.val e.val)⟩,
    ⟨.objectProp, [.n .ident], fun k => .expr k.pos (.prop k.val (.ident k.pos k.val) true)⟩,
    ⟨.objectProp, [.t .ellipsis, .n .expr], fun e a => .expr e.pos (.spread a.val)⟩,
    ⟨.objectProp, [.n .propName, .n .lparen, .n .params, .t .rparen, .n .returnOpt, .n .fnBody],
      fun k _ ps _ r b =>
        .expr k.pos (.method k.val (.expr k.pos (.function none none ps.val r.val b.val false true)))⟩]

end Retype.Grammar
