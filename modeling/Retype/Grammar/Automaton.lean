import Retype.Grammar.Table

/-!
# The table of the parser

The LALR(1) table of the grammar.  Rows that several states share stand once.
The rows of shifts come first, then the rows of moves over nonterminals, then the
states.  Where a shift and a reduction are both possible, the table holds the one
that the binding strength of the operator asks for, and the shift where none does.
-/

namespace Retype.Grammar

/-- The states that a token leads to. -/
def shiftRows : Array (List (TokenKind × Nat)) :=
  #[
    [],
    [(.arrowLparen, 57), (.kwAs, 62), (.kwAsync, 25), (.kwAwait, 48), (.bang, 41),
      (.blockLbrace, 29), (.kwClass, 26), (.kwConst, 40), (.kwDeclare, 23), (.kwDelete, 47),
      (.kwExport, 19), (.kwFalse, 70), (.kwFrom, 61), (.kwFunction, 24), (.functionExpr, 76),
      (.kwIf, 27), (.kwImport, 18), (.kwInterface, 22), (.lbrace, 75), (.lbracket, 74),
      (.kwLet, 39), (.lparen, 72), (.lt, 63), (.minus, 42), (.minusMinus, 50), (.name, 60),
      (.kwNew, 55), (.kwNull, 71), (.number, 64), (.kwOpaque, 21), (.plus, 43), (.plusPlus, 49),
      (.kwReturn, 35), (.semi, 17), (.string, 65), (.template, 66), (.templateHead, 67),
      (.kwThis, 68), (.kwThrow, 36), (.tilde, 44), (.kwTrue, 69), (.kwType, 20), (.kwTypeof, 45),
      (.kwVar, 38), (.kwVoid, 46), (.kwWhile, 28)],
    [(.semi, 77)],
    [(.kwAs, 62), (.kwDeclare, 86), (.kwFrom, 61), (.kwInterface, 87), (.lbrace, 88),
      (.name, 60), (.kwOpaque, 85), (.string, 81), (.times, 84), (.kwType, 79), (.kwTypeof, 80)],
    [(.kwAsync, 101), (.kwClass, 26), (.kwConst, 40), (.kwDefault, 89), (.kwFunction, 24),
      (.kwInterface, 103), (.lbrace, 100), (.kwLet, 39), (.kwOpaque, 102), (.times, 93),
      (.kwType, 92), (.kwVar, 38)],
    [(.kwAs, 62), (.kwDeclare, 86), (.kwFrom, 61), (.kwInterface, 87), (.name, 60),
      (.kwOpaque, 85), (.kwType, 105)],
    [(.kwType, 106)],
    [(.kwClass, 116), (.kwConst, 40), (.kwExport, 114), (.kwFunction, 115), (.kwInterface, 113),
      (.kwLet, 39), (.kwOpaque, 112), (.kwType, 111), (.kwVar, 38)],
    [(.kwAs, 62), (.kwDeclare, 86), (.kwFrom, 61), (.kwInterface, 87), (.lt, 63), (.name, 60),
      (.kwOpaque, 85), (.kwType, 105)],
    [(.arrowLparen, 125), (.kwAs, 62), (.kwDeclare, 86), (.kwFrom, 61), (.kwFunction, 122),
      (.functionExpr, 123), (.kwInterface, 87), (.name, 60), (.kwOpaque, 85), (.kwType, 105)],
    [(.lparen, 127)],
    [(.lparen, 128)],
    [(.kwAs, 62), (.kwDeclare, 86), (.kwFrom, 61), (.kwInterface, 87), (.lbrace, 134),
      (.name, 60), (.kwOpaque, 85), (.kwType, 105)],
    [(.arrowLparen, 57), (.kwAs, 62), (.kwAsync, 136), (.kwAwait, 48), (.bang, 41),
      (.kwDeclare, 86), (.kwDelete, 47), (.kwFalse, 70), (.kwFrom, 61), (.functionExpr, 76),
      (.kwInterface, 87), (.lbrace, 75), (.lbracket, 74), (.lparen, 72), (.lt, 63), (.minus, 42),
      (.minusMinus, 50), (.name, 60), (.kwNew, 55), (.kwNull, 71), (.number, 64),
      (.kwOpaque, 85), (.plus, 43), (.plusPlus, 49), (.string, 65), (.template, 66),
      (.templateHead, 67), (.kwThis, 68), (.tilde, 44), (.kwTrue, 69), (.kwType, 105),
      (.kwTypeof, 45), (.kwVoid, 46)],
    [(.amp, 146), (.andAnd, 143), (.assign, 160), (.assignOp, 161), (.divide, 141), (.eq, 149),
      (.ge, 156), (.gt, 155), (.kwIn, 158), (.kwInstanceof, 157), (.le, 154), (.lt, 153),
      (.minus, 139), (.modulo, 142), (.ne, 150), (.nullish, 145), (.orOr, 144), (.pipe, 147),
      (.plus, 138), (.question, 159), (.strictEq, 151), (.strictNe, 152), (.times, 140),
      (.caret, 148)],
    [(.minusMinus, 173), (.plusPlus, 172)],
    [(.arrowLparen, 180), (.dot, 174), (.lbracket, 175), (.lparen, 179), (.questionDot, 177)],
    [(.arrowLparen, 180), (.dot, 183), (.lbracket, 184), (.lparen, 179), (.questionDot, 182)],
    [(.kwAs, 62), (.kwAsync, 188), (.kwDeclare, 86), (.kwFalse, 70), (.kwFrom, 61),
      (.functionExpr, 76), (.kwInterface, 87), (.lbrace, 75), (.lbracket, 74), (.lparen, 72),
      (.name, 60), (.kwNew, 186), (.kwNull, 71), (.number, 64), (.kwOpaque, 85), (.string, 65),
      (.template, 66), (.templateHead, 67), (.kwThis, 68), (.kwTrue, 69), (.kwType, 105)],
    [(.arrow, 189)],
    [(.kwAs, 62), (.kwDeclare, 86), (.ellipsis, 195), (.kwFrom, 61), (.kwInterface, 87),
      (.lbrace, 134), (.name, 60), (.kwOpaque, 85), (.kwType, 105)],
    [(.arrowLparen, 197)],
    [(.kwAs, 62), (.kwDeclare, 86), (.kwFrom, 61), (.kwInterface, 87), (.minus, 203),
      (.name, 60), (.kwOpaque, 85), (.plus, 202), (.kwType, 105)],
    [(.arrowLparen, 57), (.kwAs, 62), (.kwAsync, 136), (.kwAwait, 48), (.bang, 41),
      (.kwDeclare, 86), (.kwDelete, 47), (.ellipsis, 211), (.kwFalse, 70), (.kwFrom, 61),
      (.functionExpr, 76), (.kwInterface, 87), (.lbrace, 75), (.lbracket, 74), (.lparen, 72),
      (.lt, 63), (.minus, 42), (.minusMinus, 50), (.name, 60), (.kwNew, 55), (.kwNull, 71),
      (.number, 64), (.kwOpaque, 85), (.plus, 43), (.plusPlus, 49), (.rbracket, 208),
      (.string, 65), (.template, 66), (.templateHead, 67), (.kwThis, 68), (.tilde, 44),
      (.kwTrue, 69), (.kwType, 105), (.kwTypeof, 45), (.kwVoid, 46)],
    [(.kwAs, 62), (.kwAwait, 247), (.kwClass, 222), (.kwConst, 241), (.kwDeclare, 86),
      (.kwDefault, 221), (.kwDelete, 224), (.ellipsis, 220), (.kwElse, 234), (.kwExport, 231),
      (.kwExtends, 237), (.kwFalse, 229), (.kwFrom, 61), (.kwFunction, 245),
      (.functionExpr, 246), (.kwIf, 233), (.kwImplements, 238), (.kwImport, 230), (.kwIn, 232),
      (.kwInstanceof, 244), (.kwInterface, 87), (.lbracket, 218), (.kwLet, 240), (.name, 60),
      (.kwNew, 223), (.kwNull, 227), (.number, 217), (.kwOpaque, 85), (.rbrace, 213),
      (.kwReturn, 235), (.string, 216), (.kwThis, 236), (.kwThrow, 243), (.kwTrue, 228),
      (.kwType, 105), (.kwTypeof, 225), (.kwVar, 239), (.kwVoid, 226), (.kwWhile, 242)],
    [(.kwFrom, 249)],
    [(.kwAs, 62), (.kwDeclare, 86), (.kwFrom, 61), (.kwInterface, 87), (.lbrace, 88),
      (.name, 60), (.kwOpaque, 85), (.times, 84), (.kwType, 105)],
    [(.semi, 252)],
    [(.comma, 253)],
    [(.kwAs, 254)],
    [(.kwAs, 62), (.kwDeclare, 86), (.kwDefault, 262), (.kwFrom, 61), (.kwInterface, 87),
      (.name, 60), (.kwOpaque, 85), (.rbrace, 256), (.kwType, 259), (.kwTypeof, 260)],
    [(.arrowLparen, 57), (.kwAs, 62), (.kwAsync, 25), (.kwAwait, 48), (.bang, 41),
      (.kwClass, 26), (.kwDeclare, 86), (.kwDelete, 47), (.kwFalse, 70), (.kwFrom, 61),
      (.kwFunction, 24), (.functionExpr, 76), (.kwInterface, 87), (.lbrace, 75), (.lbracket, 74),
      (.lparen, 72), (.lt, 63), (.minus, 42), (.minusMinus, 50), (.name, 60), (.kwNew, 55),
      (.kwNull, 71), (.number, 64), (.kwOpaque, 85), (.plus, 43), (.plusPlus, 49), (.string, 65),
      (.template, 66), (.templateHead, 67), (.kwThis, 68), (.tilde, 44), (.kwTrue, 69),
      (.kwType, 105), (.kwTypeof, 45), (.kwVoid, 46)],
    [(.kwFrom, 267)],
    [(.kwAs, 62), (.kwDeclare, 86), (.kwFrom, 61), (.kwInterface, 87), (.lbrace, 100),
      (.name, 60), (.kwOpaque, 85), (.kwType, 105)],
    [(.kwAs, 271), (.kwFrom, 270)],
    [(.semi, 272)],
    [(.kwAs, 62), (.kwDeclare, 86), (.kwDefault, 262), (.kwFrom, 61), (.kwInterface, 87),
      (.name, 60), (.kwOpaque, 85), (.rbrace, 274), (.kwType, 105)],
    [(.kwFunction, 122)],
    [(.lt, 63)],
    [(.kwType, 282)],
    [(.kwClass, 116), (.kwConst, 40), (.kwDefault, 284), (.kwFunction, 115), (.kwLet, 39),
      (.kwVar, 38)],
    [(.arrowLparen, 180), (.lparen, 179)],
    [(.arrow, 294)],
    [(.arrowLparen, 57), (.kwAs, 62), (.kwAsync, 25), (.kwAwait, 48), (.bang, 41),
      (.blockLbrace, 29), (.kwClass, 26), (.kwConst, 40), (.kwDeclare, 23), (.kwDelete, 47),
      (.kwExport, 19), (.kwFalse, 70), (.kwFrom, 61), (.kwFunction, 24), (.functionExpr, 76),
      (.kwIf, 27), (.kwImport, 18), (.kwInterface, 22), (.lbrace, 75), (.lbracket, 74),
      (.kwLet, 39), (.lparen, 72), (.lt, 63), (.minus, 42), (.minusMinus, 50), (.name, 60),
      (.kwNew, 55), (.kwNull, 71), (.number, 64), (.kwOpaque, 21), (.plus, 43), (.plusPlus, 49),
      (.rbrace, 299), (.kwReturn, 35), (.semi, 17), (.string, 65), (.template, 66),
      (.templateHead, 67), (.kwThis, 68), (.kwThrow, 36), (.tilde, 44), (.kwTrue, 69),
      (.kwType, 20), (.kwTypeof, 45), (.kwVar, 38), (.kwVoid, 46), (.kwWhile, 28)],
    [(.comma, 300)],
    [(.colon, 302)],
    [(.kwAs, 62), (.kwAwait, 247), (.kwClass, 222), (.kwConst, 241), (.kwDeclare, 86),
      (.kwDefault, 221), (.kwDelete, 224), (.ellipsis, 309), (.kwElse, 234), (.kwExport, 231),
      (.kwExtends, 237), (.kwFalse, 229), (.kwFrom, 61), (.kwFunction, 245),
      (.functionExpr, 246), (.kwIf, 233), (.kwImplements, 238), (.kwImport, 230), (.kwIn, 232),
      (.kwInstanceof, 244), (.kwInterface, 87), (.kwLet, 240), (.name, 60), (.kwNew, 223),
      (.kwNull, 227), (.kwOpaque, 85), (.rbrace, 305), (.kwReturn, 235), (.kwThis, 236),
      (.kwThrow, 243), (.kwTrue, 228), (.kwType, 105), (.kwTypeof, 225), (.kwVar, 239),
      (.kwVoid, 226), (.kwWhile, 242)],
    [(.arrowLparen, 125), (.kwAs, 62), (.kwDeclare, 86), (.kwFrom, 61), (.functionExpr, 123),
      (.kwInterface, 87), (.name, 60), (.kwOpaque, 85), (.kwType, 105)],
    [(.kwAs, 62), (.kwAwait, 247), (.kwClass, 222), (.kwConst, 241), (.kwDeclare, 86),
      (.kwDefault, 221), (.kwDelete, 224), (.kwElse, 234), (.kwExport, 231), (.kwExtends, 237),
      (.kwFalse, 229), (.kwFrom, 61), (.kwFunction, 245), (.functionExpr, 246), (.kwIf, 233),
      (.kwImplements, 238), (.kwImport, 230), (.kwIn, 232), (.kwInstanceof, 244),
      (.kwInterface, 87), (.kwLet, 240), (.name, 60), (.kwNew, 223), (.kwNull, 227),
      (.kwOpaque, 85), (.kwReturn, 235), (.kwThis, 236), (.kwThrow, 243), (.kwTrue, 228),
      (.kwType, 105), (.kwTypeof, 225), (.kwVar, 239), (.kwVoid, 226), (.kwWhile, 242)],
    [(.arrowLparen, 180), (.kwAs, 62), (.kwAwait, 247), (.kwClass, 222), (.kwConst, 241),
      (.kwDeclare, 86), (.kwDefault, 221), (.kwDelete, 224), (.kwElse, 234), (.kwExport, 231),
      (.kwExtends, 237), (.kwFalse, 229), (.kwFrom, 61), (.kwFunction, 245),
      (.functionExpr, 246), (.kwIf, 233), (.kwImplements, 238), (.kwImport, 230), (.kwIn, 232),
      (.kwInstanceof, 244), (.kwInterface, 87), (.lbracket, 339), (.kwLet, 240), (.lparen, 179),
      (.name, 60), (.kwNew, 223), (.kwNull, 227), (.kwOpaque, 85), (.kwReturn, 235),
      (.kwThis, 236), (.kwThrow, 243), (.kwTrue, 228), (.kwType, 105), (.kwTypeof, 225),
      (.kwVar, 239), (.kwVoid, 226), (.kwWhile, 242)],
    [(.arrowLparen, 57), (.kwAs, 62), (.kwAsync, 136), (.kwAwait, 48), (.bang, 41),
      (.kwDeclare, 86), (.kwDelete, 47), (.ellipsis, 211), (.kwFalse, 70), (.kwFrom, 61),
      (.functionExpr, 76), (.kwInterface, 87), (.lbrace, 75), (.lbracket, 74), (.lparen, 72),
      (.lt, 63), (.minus, 42), (.minusMinus, 50), (.name, 60), (.kwNew, 55), (.kwNull, 71),
      (.number, 64), (.kwOpaque, 85), (.plus, 43), (.plusPlus, 49), (.rparen, 341),
      (.string, 65), (.template, 66), (.templateHead, 67), (.kwThis, 68), (.tilde, 44),
      (.kwTrue, 69), (.kwType, 105), (.kwTypeof, 45), (.kwVoid, 46)],
    [(.arrowLparen, 180), (.kwAs, 62), (.kwAwait, 247), (.kwClass, 222), (.kwConst, 241),
      (.kwDeclare, 86), (.kwDefault, 221), (.kwDelete, 224), (.kwElse, 234), (.kwExport, 231),
      (.kwExtends, 237), (.kwFalse, 229), (.kwFrom, 61), (.kwFunction, 245),
      (.functionExpr, 246), (.kwIf, 233), (.kwImplements, 238), (.kwImport, 230), (.kwIn, 232),
      (.kwInstanceof, 244), (.kwInterface, 87), (.lbracket, 344), (.kwLet, 240), (.lparen, 179),
      (.name, 60), (.kwNew, 223), (.kwNull, 227), (.kwOpaque, 85), (.kwReturn, 235),
      (.kwThis, 236), (.kwThrow, 243), (.kwTrue, 228), (.kwType, 105), (.kwTypeof, 225),
      (.kwVar, 239), (.kwVoid, 226), (.kwWhile, 242)],
    [(.arrowLparen, 180), (.dot, 174), (.lbracket, 175), (.lparen, 179), (.lt, 349)],
    [(.functionExpr, 123)],
    [(.arrowLparen, 57), (.kwAs, 62), (.kwAsync, 136), (.kwAwait, 48), (.bang, 41),
      (.blockLbrace, 29), (.kwDeclare, 86), (.kwDelete, 47), (.kwFalse, 70), (.kwFrom, 61),
      (.functionExpr, 76), (.kwInterface, 87), (.lbrace, 75), (.lbracket, 74), (.lparen, 72),
      (.lt, 63), (.minus, 42), (.minusMinus, 50), (.name, 60), (.kwNew, 55), (.kwNull, 71),
      (.number, 64), (.kwOpaque, 85), (.plus, 43), (.plusPlus, 49), (.string, 65),
      (.template, 66), (.templateHead, 67), (.kwThis, 68), (.tilde, 44), (.kwTrue, 69),
      (.kwType, 105), (.kwTypeof, 45), (.kwVoid, 46)],
    [(.rparen, 354)],
    [(.comma, 355)],
    [(.question, 358)],
    [(.comma, 362), (.gt, 361)],
    [(.colon, 364)],
    [(.amp, 146), (.andAnd, 143), (.assign, 160), (.assignOp, 161), (.divide, 141), (.eq, 149),
      (.ge, 156), (.gt, 155), (.kwIn, 158), (.kwInstanceof, 157), (.le, 154), (.lt, 153),
      (.minus, 139), (.modulo, 142), (.ne, 150), (.nullish, 145), (.orOr, 144), (.pipe, 147),
      (.plus, 138), (.question, 159), (.strictEq, 151), (.strictNe, 152), (.templateMiddle, 368),
      (.templateTail, 367), (.times, 140), (.caret, 148)],
    [(.amp, 146), (.andAnd, 143), (.assign, 160), (.assignOp, 161), (.colon, 370),
      (.divide, 141), (.eq, 149), (.ge, 156), (.gt, 155), (.kwIn, 158), (.kwInstanceof, 157),
      (.le, 154), (.lt, 153), (.minus, 139), (.modulo, 142), (.ne, 150), (.nullish, 145),
      (.orOr, 144), (.pipe, 147), (.plus, 138), (.question, 159), (.rparen, 369),
      (.strictEq, 151), (.strictNe, 152), (.times, 140), (.caret, 148)],
    [(.comma, 371), (.rbracket, 372)],
    [(.comma, 375), (.rbrace, 374)],
    [(.arrowLparen, 180), (.colon, 376), (.lparen, 179)],
    [(.colon, 378)],
    [(.colon, 379)],
    [(.string, 382)],
    [(.kwFrom, 383)],
    [(.kwFrom, 384)],
    [(.lbrace, 88), (.times, 386)],
    [(.comma, 389), (.rbrace, 388)],
    [(.kwAs, 390)],
    [(.kwAs, 62), (.kwDeclare, 86), (.kwDefault, 262), (.kwFrom, 61), (.kwInterface, 87),
      (.name, 60), (.kwOpaque, 85), (.kwType, 105)],
    [(.amp, 146), (.andAnd, 143), (.assign, 160), (.assignOp, 161), (.divide, 141), (.eq, 149),
      (.ge, 156), (.gt, 155), (.kwIn, 158), (.kwInstanceof, 157), (.le, 154), (.lt, 153),
      (.minus, 139), (.modulo, 142), (.ne, 150), (.nullish, 145), (.orOr, 144), (.pipe, 147),
      (.plus, 138), (.question, 159), (.semi, 393), (.strictEq, 151), (.strictNe, 152),
      (.times, 140), (.caret, 148)],
    [(.semi, 394)],
    [(.string, 395)],
    [(.string, 397)],
    [(.comma, 400), (.rbrace, 399)],
    [(.kwAs, 401)],
    [(.assign, 402)],
    [(.kwExtends, 405)],
    [(.amp, 416), (.kwAs, 62), (.blockLbrace, 440), (.kwClass, 116), (.kwDeclare, 86),
      (.exactLbrace, 438), (.kwFalse, 427), (.kwFrom, 61), (.kwFunction, 115),
      (.kwInterface, 87), (.lbrace, 439), (.lbracket, 433), (.lparen, 434), (.lt, 63),
      (.minus, 425), (.name, 60), (.kwNull, 428), (.number, 424), (.kwOpaque, 85), (.pipe, 415),
      (.question, 419), (.string, 423), (.times, 430), (.kwTrue, 426), (.kwType, 105),
      (.kwTypeof, 431), (.kwVoid, 429)],
    [(.rparen, 447)],
    [(.kwExtends, 449)],
    [(.amp, 146), (.andAnd, 143), (.assign, 160), (.assignOp, 161), (.divide, 141), (.eq, 149),
      (.ge, 156), (.gt, 155), (.kwIn, 158), (.kwInstanceof, 157), (.le, 154), (.lt, 153),
      (.minus, 139), (.modulo, 142), (.ne, 150), (.nullish, 145), (.orOr, 144), (.pipe, 147),
      (.plus, 138), (.question, 159), (.rparen, 451), (.strictEq, 151), (.strictNe, 152),
      (.times, 140), (.caret, 148)],
    [(.amp, 146), (.andAnd, 143), (.assign, 160), (.assignOp, 161), (.divide, 141), (.eq, 149),
      (.ge, 156), (.gt, 155), (.kwIn, 158), (.kwInstanceof, 157), (.le, 154), (.lt, 153),
      (.minus, 139), (.modulo, 142), (.ne, 150), (.nullish, 145), (.orOr, 144), (.pipe, 147),
      (.plus, 138), (.question, 159), (.rparen, 452), (.strictEq, 151), (.strictNe, 152),
      (.times, 140), (.caret, 148)],
    [(.assign, 455)],
    [(.amp, 416), (.kwAs, 62), (.blockLbrace, 440), (.kwDeclare, 86), (.exactLbrace, 438),
      (.kwFalse, 427), (.kwFrom, 61), (.kwInterface, 87), (.lbrace, 439), (.lbracket, 433),
      (.lparen, 434), (.lt, 63), (.minus, 425), (.name, 60), (.kwNull, 428), (.number, 424),
      (.kwOpaque, 85), (.pipe, 415), (.question, 419), (.string, 423), (.times, 430),
      (.kwTrue, 426), (.kwType, 105), (.kwTypeof, 431), (.kwVoid, 429)],
    [(.comma, 459), (.rbrace, 458)],
    [(.colon, 461)],
    [(.divide, 141), (.modulo, 142), (.times, 140)],
    [(.amp, 146), (.divide, 141), (.eq, 149), (.ge, 156), (.gt, 155), (.kwIn, 158),
      (.kwInstanceof, 157), (.le, 154), (.lt, 153), (.minus, 139), (.modulo, 142), (.ne, 150),
      (.pipe, 147), (.plus, 138), (.strictEq, 151), (.strictNe, 152), (.times, 140),
      (.caret, 148)],
    [(.amp, 146), (.andAnd, 143), (.divide, 141), (.eq, 149), (.ge, 156), (.gt, 155),
      (.kwIn, 158), (.kwInstanceof, 157), (.le, 154), (.lt, 153), (.minus, 139), (.modulo, 142),
      (.ne, 150), (.pipe, 147), (.plus, 138), (.strictEq, 151), (.strictNe, 152), (.times, 140),
      (.caret, 148)],
    [(.amp, 146), (.andAnd, 143), (.divide, 141), (.eq, 149), (.ge, 156), (.gt, 155),
      (.kwIn, 158), (.kwInstanceof, 157), (.le, 154), (.lt, 153), (.minus, 139), (.modulo, 142),
      (.ne, 150), (.orOr, 144), (.pipe, 147), (.plus, 138), (.strictEq, 151), (.strictNe, 152),
      (.times, 140), (.caret, 148)],
    [(.divide, 141), (.eq, 149), (.ge, 156), (.gt, 155), (.kwIn, 158), (.kwInstanceof, 157),
      (.le, 154), (.lt, 153), (.minus, 139), (.modulo, 142), (.ne, 150), (.plus, 138),
      (.strictEq, 151), (.strictNe, 152), (.times, 140)],
    [(.amp, 146), (.divide, 141), (.eq, 149), (.ge, 156), (.gt, 155), (.kwIn, 158),
      (.kwInstanceof, 157), (.le, 154), (.lt, 153), (.minus, 139), (.modulo, 142), (.ne, 150),
      (.plus, 138), (.strictEq, 151), (.strictNe, 152), (.times, 140), (.caret, 148)],
    [(.amp, 146), (.divide, 141), (.eq, 149), (.ge, 156), (.gt, 155), (.kwIn, 158),
      (.kwInstanceof, 157), (.le, 154), (.lt, 153), (.minus, 139), (.modulo, 142), (.ne, 150),
      (.plus, 138), (.strictEq, 151), (.strictNe, 152), (.times, 140)],
    [(.divide, 141), (.ge, 156), (.gt, 155), (.kwIn, 158), (.kwInstanceof, 157), (.le, 154),
      (.lt, 153), (.minus, 139), (.modulo, 142), (.plus, 138), (.times, 140)],
    [(.divide, 141), (.minus, 139), (.modulo, 142), (.plus, 138), (.times, 140)],
    [(.amp, 146), (.andAnd, 143), (.assign, 160), (.assignOp, 161), (.colon, 463),
      (.divide, 141), (.eq, 149), (.ge, 156), (.gt, 155), (.kwIn, 158), (.kwInstanceof, 157),
      (.le, 154), (.lt, 153), (.minus, 139), (.modulo, 142), (.ne, 150), (.nullish, 145),
      (.orOr, 144), (.pipe, 147), (.plus, 138), (.question, 159), (.strictEq, 151),
      (.strictNe, 152), (.times, 140), (.caret, 148)],
    [(.amp, 146), (.andAnd, 143), (.assign, 160), (.assignOp, 161), (.divide, 141), (.eq, 149),
      (.ge, 156), (.gt, 155), (.kwIn, 158), (.kwInstanceof, 157), (.le, 154), (.lt, 153),
      (.minus, 139), (.modulo, 142), (.ne, 150), (.nullish, 145), (.orOr, 144), (.pipe, 147),
      (.plus, 138), (.question, 159), (.rbracket, 464), (.strictEq, 151), (.strictNe, 152),
      (.times, 140), (.caret, 148)],
    [(.comma, 371), (.rparen, 466)],
    [(.amp, 146), (.andAnd, 143), (.assign, 160), (.assignOp, 161), (.divide, 141), (.eq, 149),
      (.ge, 156), (.gt, 155), (.kwIn, 158), (.kwInstanceof, 157), (.le, 154), (.lt, 153),
      (.minus, 139), (.modulo, 142), (.ne, 150), (.nullish, 145), (.orOr, 144), (.pipe, 147),
      (.plus, 138), (.question, 159), (.rbracket, 468), (.strictEq, 151), (.strictNe, 152),
      (.times, 140), (.caret, 148)],
    [(.colon, 474), (.arrow, 473)],
    [(.rparen, 479)],
    [(.kwAs, 62), (.kwDeclare, 86), (.kwFrom, 61), (.gt, 480), (.kwInterface, 87),
      (.minus, 203), (.name, 60), (.kwOpaque, 85), (.plus, 202), (.kwType, 105)],
    [(.assign, 483)],
    [(.arrowLparen, 57), (.kwAs, 62), (.kwAsync, 136), (.kwAwait, 48), (.bang, 41),
      (.kwDeclare, 86), (.kwDelete, 47), (.ellipsis, 211), (.kwFalse, 70), (.kwFrom, 61),
      (.functionExpr, 76), (.kwInterface, 87), (.lbrace, 75), (.lbracket, 74), (.lparen, 72),
      (.lt, 63), (.minus, 42), (.minusMinus, 50), (.name, 60), (.kwNew, 55), (.kwNull, 71),
      (.number, 64), (.kwOpaque, 85), (.plus, 43), (.plusPlus, 49), (.string, 65),
      (.template, 66), (.templateHead, 67), (.kwThis, 68), (.tilde, 44), (.kwTrue, 69),
      (.kwType, 105), (.kwTypeof, 45), (.kwVoid, 46)],
    [(.kwAs, 62), (.kwAwait, 247), (.kwClass, 222), (.kwConst, 241), (.kwDeclare, 86),
      (.kwDefault, 221), (.kwDelete, 224), (.ellipsis, 220), (.kwElse, 234), (.kwExport, 231),
      (.kwExtends, 237), (.kwFalse, 229), (.kwFrom, 61), (.kwFunction, 245),
      (.functionExpr, 246), (.kwIf, 233), (.kwImplements, 238), (.kwImport, 230), (.kwIn, 232),
      (.kwInstanceof, 244), (.kwInterface, 87), (.lbracket, 218), (.kwLet, 240), (.name, 60),
      (.kwNew, 223), (.kwNull, 227), (.number, 217), (.kwOpaque, 85), (.kwReturn, 235),
      (.string, 216), (.kwThis, 236), (.kwThrow, 243), (.kwTrue, 228), (.kwType, 105),
      (.kwTypeof, 225), (.kwVar, 239), (.kwVoid, 226), (.kwWhile, 242)],
    [(.amp, 146), (.andAnd, 143), (.assign, 160), (.assignOp, 161), (.divide, 141), (.eq, 149),
      (.ge, 156), (.gt, 155), (.kwIn, 158), (.kwInstanceof, 157), (.le, 154), (.lt, 153),
      (.minus, 139), (.modulo, 142), (.ne, 150), (.nullish, 145), (.orOr, 144), (.pipe, 147),
      (.plus, 138), (.question, 159), (.rbracket, 495), (.strictEq, 151), (.strictNe, 152),
      (.times, 140), (.caret, 148)],
    [(.semi, 496)],
    [(.string, 497)],
    [(.string, 498)],
    [(.kwAs, 499)],
    [(.kwAs, 62), (.kwDeclare, 86), (.kwDefault, 262), (.kwFrom, 61), (.kwInterface, 87),
      (.name, 60), (.kwOpaque, 85), (.kwType, 259), (.kwTypeof, 260)],
    [(.kwAs, 502)],
    [(.kwAs, 503)],
    [(.semi, 504)],
    [(.semi, 505)],
    [(.kwFrom, 506)],
    [(.colon, 511)],
    [(.blockLbrace, 440), (.exactLbrace, 438), (.lbrace, 439)],
    [(.semi, 517)],
    [(.assign, 518)],
    [(.semi, 521)],
    [(.pipe, 522)],
    [(.kwAs, 62), (.blockLbrace, 440), (.kwDeclare, 86), (.exactLbrace, 438), (.kwFalse, 427),
      (.kwFrom, 61), (.kwInterface, 87), (.lbrace, 439), (.lbracket, 433), (.lparen, 434),
      (.lt, 63), (.minus, 425), (.name, 60), (.kwNull, 428), (.number, 424), (.kwOpaque, 85),
      (.question, 419), (.string, 423), (.times, 430), (.kwTrue, 426), (.kwType, 105),
      (.kwTypeof, 431), (.kwVoid, 429)],
    [(.amp, 525)],
    [(.arrow, 527), (.lbracket, 528)],
    [(.dot, 530), (.lt, 349)],
    [(.number, 533)],
    [(.kwAs, 62), (.blockLbrace, 440), (.kwDeclare, 86), (.exactLbrace, 438), (.kwFalse, 427),
      (.kwFrom, 61), (.kwInterface, 87), (.lbrace, 439), (.lbracket, 433), (.lparen, 434),
      (.lt, 63), (.minus, 425), (.name, 60), (.kwNull, 428), (.number, 424), (.kwOpaque, 85),
      (.string, 423), (.times, 430), (.kwTrue, 426), (.kwType, 105), (.kwTypeof, 431),
      (.kwVoid, 429)],
    [(.amp, 416), (.kwAs, 62), (.blockLbrace, 440), (.kwDeclare, 86), (.exactLbrace, 438),
      (.kwFalse, 427), (.kwFrom, 61), (.kwInterface, 87), (.lbrace, 439), (.lbracket, 433),
      (.lparen, 434), (.lt, 63), (.minus, 425), (.name, 60), (.kwNull, 428), (.number, 424),
      (.kwOpaque, 85), (.pipe, 415), (.question, 419), (.rbracket, 536), (.string, 423),
      (.times, 430), (.kwTrue, 426), (.kwType, 105), (.kwTypeof, 431), (.kwVoid, 429)],
    [(.arrowLparen, 538)],
    [(.kwAs, 62), (.kwAwait, 247), (.kwClass, 222), (.kwConst, 241), (.kwDeclare, 86),
      (.kwDefault, 221), (.kwDelete, 224), (.ellipsis, 545), (.kwElse, 234), (.kwExport, 231),
      (.kwExtends, 237), (.kwFalse, 229), (.kwFrom, 61), (.kwFunction, 245),
      (.functionExpr, 246), (.kwIf, 233), (.kwImplements, 238), (.kwImport, 230), (.kwIn, 232),
      (.kwInstanceof, 244), (.kwInterface, 87), (.lbracket, 546), (.kwLet, 240), (.minus, 203),
      (.name, 60), (.kwNew, 223), (.kwNull, 227), (.kwOpaque, 85), (.plus, 202),
      (.kwReturn, 235), (.string, 548), (.kwThis, 236), (.kwThrow, 243), (.kwTrue, 228),
      (.kwType, 105), (.kwTypeof, 225), (.kwVar, 239), (.kwVoid, 226), (.kwWhile, 242)],
    [(.rparen, 554)],
    [(.kwImplements, 557)],
    [(.kwAs, 62), (.kwAwait, 247), (.kwClass, 222), (.kwConst, 241), (.kwDeclare, 86),
      (.kwDefault, 221), (.kwDelete, 224), (.ellipsis, 309), (.kwElse, 234), (.kwExport, 231),
      (.kwExtends, 237), (.kwFalse, 229), (.kwFrom, 61), (.kwFunction, 245),
      (.functionExpr, 246), (.kwIf, 233), (.kwImplements, 238), (.kwImport, 230), (.kwIn, 232),
      (.kwInstanceof, 244), (.kwInterface, 87), (.kwLet, 240), (.name, 60), (.kwNew, 223),
      (.kwNull, 227), (.kwOpaque, 85), (.kwReturn, 235), (.kwThis, 236), (.kwThrow, 243),
      (.kwTrue, 228), (.kwType, 105), (.kwTypeof, 225), (.kwVar, 239), (.kwVoid, 226),
      (.kwWhile, 242)],
    [(.amp, 146), (.andAnd, 143), (.assign, 160), (.assignOp, 161), (.divide, 141), (.eq, 149),
      (.ge, 156), (.gt, 155), (.kwIn, 158), (.kwInstanceof, 157), (.le, 154), (.lt, 153),
      (.minus, 139), (.modulo, 142), (.ne, 150), (.nullish, 145), (.orOr, 144), (.pipe, 147),
      (.plus, 138), (.question, 159), (.rbracket, 566), (.strictEq, 151), (.strictNe, 152),
      (.times, 140), (.caret, 148)],
    [(.amp, 146), (.andAnd, 143), (.assign, 160), (.assignOp, 161), (.divide, 141), (.eq, 149),
      (.ge, 156), (.gt, 155), (.kwIn, 158), (.kwInstanceof, 157), (.le, 154), (.lt, 153),
      (.minus, 139), (.modulo, 142), (.ne, 150), (.nullish, 145), (.orOr, 144), (.pipe, 147),
      (.plus, 138), (.question, 159), (.rbracket, 567), (.strictEq, 151), (.strictNe, 152),
      (.times, 140), (.caret, 148)],
    [(.comma, 568), (.gt, 569)],
    [(.rparen, 576)],
    [(.rparen, 577)],
    [(.colon, 578)],
    [(.semi, 579)],
    [(.semi, 580)],
    [(.string, 584)],
    [(.semi, 585)],
    [(.assign, 586)],
    [(.comma, 588)],
    [(.rbracket, 596)],
    [(.comma, 599), (.rbracket, 598)],
    [(.rparen, 600)],
    [(.amp, 416), (.kwAs, 62), (.blockLbrace, 440), (.kwDeclare, 86), (.ellipsis, 606),
      (.exactLbrace, 438), (.kwFalse, 427), (.kwFrom, 61), (.kwInterface, 87), (.lbrace, 439),
      (.lbracket, 433), (.lparen, 434), (.lt, 63), (.minus, 425), (.name, 60), (.kwNull, 428),
      (.number, 424), (.kwOpaque, 85), (.pipe, 415), (.question, 419), (.string, 423),
      (.times, 430), (.kwTrue, 426), (.kwType, 105), (.kwTypeof, 431), (.kwVoid, 429)],
    [(.rbrace, 609)],
    [(.comma, 611), (.semi, 612)],
    [(.lt, 63), (.question, 358)],
    [(.kwAs, 62), (.kwAwait, 247), (.kwClass, 222), (.kwConst, 241), (.kwDeclare, 86),
      (.kwDefault, 221), (.kwDelete, 224), (.kwElse, 234), (.kwExport, 231), (.kwExtends, 237),
      (.kwFalse, 229), (.kwFrom, 61), (.kwFunction, 245), (.functionExpr, 246), (.kwIf, 233),
      (.kwImplements, 238), (.kwImport, 230), (.kwIn, 232), (.kwInstanceof, 244),
      (.kwInterface, 87), (.lbracket, 617), (.kwLet, 240), (.name, 60), (.kwNew, 223),
      (.kwNull, 227), (.kwOpaque, 85), (.kwReturn, 235), (.string, 548), (.kwThis, 236),
      (.kwThrow, 243), (.kwTrue, 228), (.kwType, 105), (.kwTypeof, 225), (.kwVar, 239),
      (.kwVoid, 226), (.kwWhile, 242)],
    [(.exactRbrace, 621)],
    [(.semi, 622)],
    [(.rparen, 625)],
    [(.colon, 627)],
    [(.blockLbrace, 440), (.lbrace, 439)],
    [(.dot, 174), (.lbracket, 175), (.lt, 349)],
    [(.kwElse, 633)],
    [(.amp, 146), (.andAnd, 143), (.divide, 141), (.eq, 149), (.ge, 156), (.gt, 155),
      (.kwIn, 158), (.kwInstanceof, 157), (.le, 154), (.lt, 153), (.minus, 139), (.modulo, 142),
      (.ne, 150), (.nullish, 145), (.orOr, 144), (.pipe, 147), (.plus, 138), (.question, 159),
      (.strictEq, 151), (.strictNe, 152), (.times, 140), (.caret, 148)],
    [(.amp, 416), (.kwAs, 62), (.blockLbrace, 440), (.kwDeclare, 86), (.exactLbrace, 438),
      (.kwFalse, 427), (.kwFrom, 61), (.gt, 636), (.kwInterface, 87), (.lbrace, 439),
      (.lbracket, 433), (.lparen, 434), (.lt, 63), (.minus, 425), (.name, 60), (.kwNull, 428),
      (.number, 424), (.kwOpaque, 85), (.pipe, 415), (.question, 419), (.string, 423),
      (.times, 430), (.kwTrue, 426), (.kwType, 105), (.kwTypeof, 431), (.kwVoid, 429)],
    [(.returnArrow, 637)],
    [(.semi, 641)],
    [(.semi, 644)],
    [(.assign, 646), (.semi, 645)],
    [(.rparen, 647)],
    [(.comma, 648)],
    [(.colon, 653)],
    [(.colon, 658)],
    [(.rbracket, 659)],
    [(.rparen, 660)],
    [(.semi, 669)],
    [(.arrow, 671)],
    [(.colon, 675)],
    [(.colon, 678)],
    [(.colon, 679)],
    [(.rbracket, 680)],
    [(.colon, 682)],
    [(.colon, 683)],
    [(.kwAs, 62), (.kwAsync, 693), (.kwAwait, 247), (.kwClass, 222), (.kwConst, 241),
      (.kwDeclare, 86), (.kwDefault, 221), (.kwDelete, 224), (.kwElse, 234), (.kwExport, 231),
      (.kwExtends, 237), (.kwFalse, 229), (.kwFrom, 61), (.kwFunction, 245),
      (.functionExpr, 246), (.kwIf, 233), (.kwImplements, 238), (.kwImport, 230), (.kwIn, 232),
      (.kwInstanceof, 244), (.kwInterface, 87), (.kwLet, 240), (.minus, 203), (.name, 60),
      (.kwNew, 223), (.kwNull, 227), (.kwOpaque, 85), (.plus, 202), (.rbrace, 686),
      (.kwReturn, 235), (.semi, 689), (.kwStatic, 690), (.kwThis, 236), (.kwThrow, 243),
      (.kwTrue, 228), (.kwType, 105), (.kwTypeof, 225), (.kwVar, 239), (.kwVoid, 226),
      (.kwWhile, 242)],
    [(.semi, 694)],
    [(.colon, 696)],
    [(.rparen, 698)],
    [(.colon, 701)],
    [(.rbracket, 702)],
    [(.arrowLparen, 57), (.kwAs, 62), (.kwAsync, 25), (.kwAwait, 48), (.bang, 41),
      (.blockLbrace, 29), (.kwClass, 26), (.kwConst, 40), (.kwDeclare, 23), (.kwDelete, 47),
      (.kwExport, 19), (.kwFalse, 70), (.kwFrom, 61), (.kwFunction, 24), (.functionExpr, 76),
      (.kwIf, 27), (.kwImport, 18), (.kwInterface, 22), (.lbrace, 75), (.lbracket, 74),
      (.kwLet, 39), (.lparen, 72), (.lt, 63), (.minus, 42), (.minusMinus, 50), (.name, 60),
      (.kwNew, 55), (.kwNull, 71), (.number, 64), (.kwOpaque, 21), (.plus, 43), (.plusPlus, 49),
      (.rbrace, 705), (.kwReturn, 35), (.semi, 17), (.string, 65), (.template, 66),
      (.templateHead, 67), (.kwThis, 68), (.kwThrow, 36), (.tilde, 44), (.kwTrue, 69),
      (.kwType, 20), (.kwTypeof, 45), (.kwVar, 38), (.kwVoid, 46), (.kwWhile, 28)],
    [(.kwAs, 62), (.kwAsync, 693), (.kwAwait, 247), (.kwClass, 222), (.kwConst, 241),
      (.kwDeclare, 86), (.kwDefault, 221), (.kwDelete, 224), (.kwElse, 234), (.kwExport, 231),
      (.kwExtends, 237), (.kwFalse, 229), (.kwFrom, 61), (.kwFunction, 245),
      (.functionExpr, 246), (.kwIf, 233), (.kwImplements, 238), (.kwImport, 230), (.kwIn, 232),
      (.kwInstanceof, 244), (.kwInterface, 87), (.kwLet, 240), (.minus, 203), (.name, 60),
      (.kwNew, 223), (.kwNull, 227), (.kwOpaque, 85), (.plus, 202), (.kwReturn, 235),
      (.kwThis, 236), (.kwThrow, 243), (.kwTrue, 228), (.kwType, 105), (.kwTypeof, 225),
      (.kwVar, 239), (.kwVoid, 226), (.kwWhile, 242)],
    [(.colon, 713)],
    [(.rbracket, 714)],
    [(.colon, 716)],
    [(.semi, 717)],
    [(.colon, 723)],
    [(.rparen, 729)],
    [(.rparen, 732)]]

/-- The states that a nonterminal leads to. -/
def moveRows : Array (List (Nonterminal × Nat)) :=
  #[
    [(.program, 1), (.stmtList, 2), (.empty, 3)],
    [],
    [(.stmt, 4), (.importDecl, 5), (.exportDecl, 6), (.typeAlias, 7), (.opaqueType, 8),
      (.interfaceDecl, 9), (.declareStmt, 10), (.functionDecl, 11), (.classDecl, 12),
      (.ifStmt, 13), (.whileStmt, 14), (.block, 15), (.simpleStmt, 16), (.varDecl, 30),
      (.returnStmt, 31), (.throwStmt, 32), (.exprStmt, 33), (.varKind, 34), (.expr, 37),
      (.postfixExpr, 51), (.arrow, 52), (.member, 53), (.call, 54), (.ident, 56),
      (.typeParams, 58), (.primary, 59), (.functionExpr, 73)],
    [(.importClause, 78), (.ident, 82), (.namedImports, 83)],
    [(.declaration, 90), (.namedExports, 91), (.functionDecl, 94), (.classDecl, 95),
      (.typeAlias, 96), (.opaqueType, 97), (.interfaceDecl, 98), (.varDecl, 99), (.varKind, 34)],
    [(.ident, 104)],
    [(.ident, 107)],
    [(.varKind, 108), (.declareFn, 109), (.declareClass, 110)],
    [(.fnRest, 117), (.ident, 118), (.typeParamsOpt, 119), (.typeParams, 120), (.empty, 121)],
    [(.ident, 124)],
    [(.ident, 126)],
    [(.stmtList, 129), (.empty, 3)],
    [(.declarators, 130), (.declarator, 131), (.binding, 132), (.ident, 133)],
    [(.expr, 135), (.postfixExpr, 51), (.arrow, 52), (.member, 53), (.call, 54), (.ident, 56),
      (.typeParams, 58), (.primary, 59), (.functionExpr, 73)],
    [(.expr, 137), (.postfixExpr, 51), (.arrow, 52), (.member, 53), (.call, 54), (.ident, 56),
      (.typeParams, 58), (.primary, 59), (.functionExpr, 73)],
    [(.expr, 162), (.postfixExpr, 51), (.arrow, 52), (.member, 53), (.call, 54), (.ident, 56),
      (.typeParams, 58), (.primary, 59), (.functionExpr, 73)],
    [(.expr, 163), (.postfixExpr, 51), (.arrow, 52), (.member, 53), (.call, 54), (.ident, 56),
      (.typeParams, 58), (.primary, 59), (.functionExpr, 73)],
    [(.expr, 164), (.postfixExpr, 51), (.arrow, 52), (.member, 53), (.call, 54), (.ident, 56),
      (.typeParams, 58), (.primary, 59), (.functionExpr, 73)],
    [(.expr, 165), (.postfixExpr, 51), (.arrow, 52), (.member, 53), (.call, 54), (.ident, 56),
      (.typeParams, 58), (.primary, 59), (.functionExpr, 73)],
    [(.expr, 166), (.postfixExpr, 51), (.arrow, 52), (.member, 53), (.call, 54), (.ident, 56),
      (.typeParams, 58), (.primary, 59), (.functionExpr, 73)],
    [(.expr, 167), (.postfixExpr, 51), (.arrow, 52), (.member, 53), (.call, 54), (.ident, 56),
      (.typeParams, 58), (.primary, 59), (.functionExpr, 73)],
    [(.expr, 168), (.postfixExpr, 51), (.arrow, 52), (.member, 53), (.call, 54), (.ident, 56),
      (.typeParams, 58), (.primary, 59), (.functionExpr, 73)],
    [(.expr, 169), (.postfixExpr, 51), (.arrow, 52), (.member, 53), (.call, 54), (.ident, 56),
      (.typeParams, 58), (.primary, 59), (.functionExpr, 73)],
    [(.expr, 170), (.postfixExpr, 51), (.arrow, 52), (.member, 53), (.call, 54), (.ident, 56),
      (.typeParams, 58), (.primary, 59), (.functionExpr, 73)],
    [(.expr, 171), (.postfixExpr, 51), (.arrow, 52), (.member, 53), (.call, 54), (.ident, 56),
      (.typeParams, 58), (.primary, 59), (.functionExpr, 73)],
    [(.args, 176), (.lparen, 178)],
    [(.args, 181), (.lparen, 178)],
    [(.member, 185), (.primary, 59), (.ident, 187), (.functionExpr, 73)],
    [(.params, 190), (.empty, 191), (.paramList, 192), (.restParam, 193), (.param, 194),
      (.binding, 196), (.ident, 133)],
    [(.typeParamList, 198), (.typeParam, 199), (.ident, 200), (.variance, 201)],
    [(.templateSpans, 204), (.expr, 205), (.postfixExpr, 51), (.arrow, 52), (.member, 53),
      (.call, 54), (.ident, 56), (.typeParams, 58), (.primary, 59), (.functionExpr, 73)],
    [(.expr, 206), (.postfixExpr, 51), (.arrow, 52), (.member, 53), (.call, 54), (.ident, 56),
      (.typeParams, 58), (.primary, 59), (.functionExpr, 73)],
    [(.argList, 207), (.arg, 209), (.expr, 210), (.postfixExpr, 51), (.arrow, 52),
      (.member, 53), (.call, 54), (.ident, 56), (.typeParams, 58), (.primary, 59),
      (.functionExpr, 73)],
    [(.objectProps, 212), (.objectProp, 214), (.propName, 215), (.ident, 219)],
    [(.fnRest, 248), (.ident, 118), (.typeParamsOpt, 119), (.typeParams, 120), (.empty, 121)],
    [(.importClause, 250), (.ident, 82), (.namedImports, 83)],
    [(.importClause, 251), (.ident, 82), (.namedImports, 83)],
    [(.importSpecs, 255), (.importSpec, 257), (.specName, 258), (.ident, 261)],
    [(.expr, 263), (.functionDecl, 264), (.classDecl, 265), (.postfixExpr, 51), (.arrow, 52),
      (.member, 53), (.call, 54), (.ident, 56), (.typeParams, 58), (.primary, 59),
      (.functionExpr, 73)],
    [(.fromOpt, 266), (.empty, 268)],
    [(.namedExports, 269), (.ident, 104)],
    [(.exportSpecs, 273), (.exportSpec, 275), (.specName, 276), (.ident, 261)],
    [(.typeParamsOpt, 277), (.typeParams, 120), (.empty, 121)],
    [(.ident, 278)],
    [(.typeParamsOpt, 279), (.typeParams, 120), (.empty, 121)],
    [(.ident, 280)],
    [(.ident, 281)],
    [(.ident, 283)],
    [(.declareFn, 285), (.declareClass, 286), (.varKind, 287)],
    [(.ident, 288)],
    [(.ident, 289)],
    [(.typeParamsOpt, 290), (.typeParams, 120), (.empty, 121)],
    [(.lparen, 291)],
    [(.fnRest, 292), (.ident, 118), (.typeParamsOpt, 119), (.typeParams, 120), (.empty, 121)],
    [(.fnRest, 293), (.ident, 118), (.typeParamsOpt, 119), (.typeParams, 120), (.empty, 121)],
    [(.params, 295), (.empty, 191), (.paramList, 192), (.restParam, 193), (.param, 194),
      (.binding, 196), (.ident, 133)],
    [(.typeParamsOpt, 296), (.typeParams, 120), (.empty, 121)],
    [(.expr, 297), (.postfixExpr, 51), (.arrow, 52), (.member, 53), (.call, 54), (.ident, 56),
      (.typeParams, 58), (.primary, 59), (.functionExpr, 73)],
    [(.expr, 298), (.postfixExpr, 51), (.arrow, 52), (.member, 53), (.call, 54), (.ident, 56),
      (.typeParams, 58), (.primary, 59), (.functionExpr, 73)],
    [(.annotOpt, 301), (.empty, 303)],
    [(.patternProps, 304), (.patternProp, 306), (.ident, 307), (.propName, 308)],
    [(.expr, 310), (.postfixExpr, 51), (.arrow, 52), (.member, 53), (.call, 54), (.ident, 56),
      (.typeParams, 58), (.primary, 59), (.functionExpr, 73)],
    [(.expr, 311), (.postfixExpr, 51), (.arrow, 52), (.member, 53), (.call, 54), (.ident, 56),
      (.typeParams, 58), (.primary, 59), (.functionExpr, 73)],
    [(.expr, 312), (.postfixExpr, 51), (.arrow, 52), (.member, 53), (.call, 54), (.ident, 56),
      (.typeParams, 58), (.primary, 59), (.functionExpr, 73)],
    [(.expr, 313), (.postfixExpr, 51), (.arrow, 52), (.member, 53), (.call, 54), (.ident, 56),
      (.typeParams, 58), (.primary, 59), (.functionExpr, 73)],
    [(.expr, 314), (.postfixExpr, 51), (.arrow, 52), (.member, 53), (.call, 54), (.ident, 56),
      (.typeParams, 58), (.primary, 59), (.functionExpr, 73)],
    [(.expr, 315), (.postfixExpr, 51), (.arrow, 52), (.member, 53), (.call, 54), (.ident, 56),
      (.typeParams, 58), (.primary, 59), (.functionExpr, 73)],
    [(.expr, 316), (.postfixExpr, 51), (.arrow, 52), (.member, 53), (.call, 54), (.ident, 56),
      (.typeParams, 58), (.primary, 59), (.functionExpr, 73)],
    [(.expr, 317), (.postfixExpr, 51), (.arrow, 52), (.member, 53), (.call, 54), (.ident, 56),
      (.typeParams, 58), (.primary, 59), (.functionExpr, 73)],
    [(.expr, 318), (.postfixExpr, 51), (.arrow, 52), (.member, 53), (.call, 54), (.ident, 56),
      (.typeParams, 58), (.primary, 59), (.functionExpr, 73)],
    [(.expr, 319), (.postfixExpr, 51), (.arrow, 52), (.member, 53), (.call, 54), (.ident, 56),
      (.typeParams, 58), (.primary, 59), (.functionExpr, 73)],
    [(.expr, 320), (.postfixExpr, 51), (.arrow, 52), (.member, 53), (.call, 54), (.ident, 56),
      (.typeParams, 58), (.primary, 59), (.functionExpr, 73)],
    [(.expr, 321), (.postfixExpr, 51), (.arrow, 52), (.member, 53), (.call, 54), (.ident, 56),
      (.typeParams, 58), (.primary, 59), (.functionExpr, 73)],
    [(.expr, 322), (.postfixExpr, 51), (.arrow, 52), (.member, 53), (.call, 54), (.ident, 56),
      (.typeParams, 58), (.primary, 59), (.functionExpr, 73)],
    [(.expr, 323), (.postfixExpr, 51), (.arrow, 52), (.member, 53), (.call, 54), (.ident, 56),
      (.typeParams, 58), (.primary, 59), (.functionExpr, 73)],
    [(.expr, 324), (.postfixExpr, 51), (.arrow, 52), (.member, 53), (.call, 54), (.ident, 56),
      (.typeParams, 58), (.primary, 59), (.functionExpr, 73)],
    [(.expr, 325), (.postfixExpr, 51), (.arrow, 52), (.member, 53), (.call, 54), (.ident, 56),
      (.typeParams, 58), (.primary, 59), (.functionExpr, 73)],
    [(.expr, 326), (.postfixExpr, 51), (.arrow, 52), (.member, 53), (.call, 54), (.ident, 56),
      (.typeParams, 58), (.primary, 59), (.functionExpr, 73)],
    [(.expr, 327), (.postfixExpr, 51), (.arrow, 52), (.member, 53), (.call, 54), (.ident, 56),
      (.typeParams, 58), (.primary, 59), (.functionExpr, 73)],
    [(.expr, 328), (.postfixExpr, 51), (.arrow, 52), (.member, 53), (.call, 54), (.ident, 56),
      (.typeParams, 58), (.primary, 59), (.functionExpr, 73)],
    [(.expr, 329), (.postfixExpr, 51), (.arrow, 52), (.member, 53), (.call, 54), (.ident, 56),
      (.typeParams, 58), (.primary, 59), (.functionExpr, 73)],
    [(.expr, 330), (.postfixExpr, 51), (.arrow, 52), (.member, 53), (.call, 54), (.ident, 56),
      (.typeParams, 58), (.primary, 59), (.functionExpr, 73)],
    [(.expr, 331), (.postfixExpr, 51), (.arrow, 52), (.member, 53), (.call, 54), (.ident, 56),
      (.typeParams, 58), (.primary, 59), (.functionExpr, 73)],
    [(.expr, 332), (.postfixExpr, 51), (.arrow, 52), (.member, 53), (.call, 54), (.ident, 56),
      (.typeParams, 58), (.primary, 59), (.functionExpr, 73)],
    [(.expr, 333), (.postfixExpr, 51), (.arrow, 52), (.member, 53), (.call, 54), (.ident, 56),
      (.typeParams, 58), (.primary, 59), (.functionExpr, 73)],
    [(.propName, 334), (.ident, 335)],
    [(.expr, 336), (.postfixExpr, 51), (.arrow, 52), (.member, 53), (.call, 54), (.ident, 56),
      (.typeParams, 58), (.primary, 59), (.functionExpr, 73)],
    [(.args, 337), (.propName, 338), (.lparen, 178), (.ident, 335)],
    [(.argList, 340), (.arg, 209), (.expr, 210), (.postfixExpr, 51), (.arrow, 52),
      (.member, 53), (.call, 54), (.ident, 56), (.typeParams, 58), (.primary, 59),
      (.functionExpr, 73)],
    [(.args, 342), (.propName, 343), (.lparen, 178), (.ident, 335)],
    [(.propName, 345), (.ident, 335)],
    [(.expr, 346), (.postfixExpr, 51), (.arrow, 52), (.member, 53), (.call, 54), (.ident, 56),
      (.typeParams, 58), (.primary, 59), (.functionExpr, 73)],
    [(.args, 347), (.typeArgs, 348), (.lparen, 178)],
    [(.member, 350), (.primary, 59), (.ident, 187), (.functionExpr, 73)],
    [(.arrowBody, 351), (.block, 352), (.expr, 353), (.postfixExpr, 51), (.arrow, 52),
      (.member, 53), (.call, 54), (.ident, 56), (.typeParams, 58), (.primary, 59),
      (.functionExpr, 73)],
    [(.binding, 356), (.ident, 133)],
    [(.optionalMark, 357), (.empty, 359)],
    [(.params, 360), (.empty, 191), (.paramList, 192), (.restParam, 193), (.param, 194),
      (.binding, 196), (.ident, 133)],
    [(.boundOpt, 363), (.empty, 365)],
    [(.ident, 366)],
    [(.expr, 373), (.postfixExpr, 51), (.arrow, 52), (.member, 53), (.call, 54), (.ident, 56),
      (.typeParams, 58), (.primary, 59), (.functionExpr, 73)],
    [(.lparen, 377)],
    [(.expr, 380), (.postfixExpr, 51), (.arrow, 52), (.member, 53), (.call, 54), (.ident, 56),
      (.typeParams, 58), (.primary, 59), (.functionExpr, 73)],
    [(.expr, 381), (.postfixExpr, 51), (.arrow, 52), (.member, 53), (.call, 54), (.ident, 56),
      (.typeParams, 58), (.primary, 59), (.functionExpr, 73)],
    [(.namedImports, 385)],
    [(.ident, 387)],
    [(.specName, 391), (.ident, 261)],
    [(.specName, 392), (.ident, 261)],
    [(.fromOpt, 396), (.empty, 268)],
    [(.ident, 398)],
    [(.typeParamsOpt, 403), (.typeParams, 120), (.empty, 121)],
    [(.ifaceExtendsOpt, 404), (.empty, 406)],
    [(.annotOpt, 407), (.empty, 303)],
    [(.typeParamsOpt, 408), (.typeParams, 120), (.empty, 121)],
    [(.ident, 409)],
    [(.typeParamsOpt, 410), (.typeParams, 120), (.empty, 121)],
    [(.declareFn, 411), (.declareClass, 412), (.type, 413), (.unionType, 414),
      (.intersectionType, 417), (.prefixType, 418), (.postfixType, 420), (.primaryType, 421),
      (.typeId, 422), (.objectType, 432), (.typeParamsOpt, 435), (.ident, 436), (.lbrace, 437),
      (.typeParams, 120), (.empty, 121)],
    [(.ident, 441)],
    [(.typeParamsOpt, 442), (.typeParams, 120), (.empty, 121)],
    [(.typeParamsOpt, 443), (.typeParams, 120), (.empty, 121)],
    [(.lparen, 444)],
    [(.params, 445), (.empty, 191), (.paramList, 192), (.restParam, 193), (.param, 194),
      (.binding, 196), (.ident, 133)],
    [(.arrowBody, 446), (.block, 352), (.expr, 353), (.postfixExpr, 51), (.arrow, 52),
      (.member, 53), (.call, 54), (.ident, 56), (.typeParams, 58), (.primary, 59),
      (.functionExpr, 73)],
    [(.extendsOpt, 448), (.empty, 450)],
    [(.declarator, 453), (.binding, 132), (.ident, 133)],
    [(.initOpt, 454), (.empty, 456)],
    [(.type, 457), (.unionType, 414), (.intersectionType, 417), (.prefixType, 418),
      (.postfixType, 420), (.primaryType, 421), (.typeId, 422), (.objectType, 432),
      (.typeParamsOpt, 435), (.ident, 436), (.lbrace, 437), (.typeParams, 120), (.empty, 121)],
    [(.initOpt, 460), (.empty, 456)],
    [(.ident, 462)],
    [(.expr, 465), (.postfixExpr, 51), (.arrow, 52), (.member, 53), (.call, 54), (.ident, 56),
      (.typeParams, 58), (.primary, 59), (.functionExpr, 73)],
    [(.expr, 467), (.postfixExpr, 51), (.arrow, 52), (.member, 53), (.call, 54), (.ident, 56),
      (.typeParams, 58), (.primary, 59), (.functionExpr, 73)],
    [(.args, 469), (.lparen, 178)],
    [(.typeList, 470), (.type, 471), (.unionType, 414), (.intersectionType, 417),
      (.prefixType, 418), (.postfixType, 420), (.primaryType, 421), (.typeId, 422),
      (.objectType, 432), (.typeParamsOpt, 435), (.ident, 436), (.lbrace, 437),
      (.typeParams, 120), (.empty, 121)],
    [(.arrowReturn, 472)],
    [(.restParam, 475), (.param, 476), (.binding, 196), (.ident, 133)],
    [(.annotOpt, 477), (.empty, 303)],
    [(.annotOpt, 478), (.empty, 303)],
    [(.typeParam, 481), (.ident, 200), (.variance, 201)],
    [(.typeDefaultOpt, 482), (.empty, 484)],
    [(.type, 485), (.unionType, 414), (.intersectionType, 417), (.prefixType, 418),
      (.postfixType, 420), (.primaryType, 421), (.typeId, 422), (.objectType, 432),
      (.typeParamsOpt, 435), (.ident, 436), (.lbrace, 437), (.typeParams, 120), (.empty, 121)],
    [(.boundOpt, 486), (.empty, 365)],
    [(.templateSpans, 487), (.expr, 205), (.postfixExpr, 51), (.arrow, 52), (.member, 53),
      (.call, 54), (.ident, 56), (.typeParams, 58), (.primary, 59), (.functionExpr, 73)],
    [(.type, 488), (.unionType, 414), (.intersectionType, 417), (.prefixType, 418),
      (.postfixType, 420), (.primaryType, 421), (.typeId, 422), (.objectType, 432),
      (.typeParamsOpt, 435), (.ident, 436), (.lbrace, 437), (.typeParams, 120), (.empty, 121)],
    [(.arg, 489), (.expr, 210), (.postfixExpr, 51), (.arrow, 52), (.member, 53), (.call, 54),
      (.ident, 56), (.typeParams, 58), (.primary, 59), (.functionExpr, 73)],
    [(.objectProp, 490), (.propName, 215), (.ident, 219)],
    [(.expr, 491), (.postfixExpr, 51), (.arrow, 52), (.member, 53), (.call, 54), (.ident, 56),
      (.typeParams, 58), (.primary, 59), (.functionExpr, 73)],
    [(.params, 492), (.empty, 191), (.paramList, 192), (.restParam, 193), (.param, 194),
      (.binding, 196), (.ident, 133)],
    [(.expr, 493), (.postfixExpr, 51), (.arrow, 52), (.member, 53), (.call, 54), (.ident, 56),
      (.typeParams, 58), (.primary, 59), (.functionExpr, 73)],
    [(.expr, 494), (.postfixExpr, 51), (.arrow, 52), (.member, 53), (.call, 54), (.ident, 56),
      (.typeParams, 58), (.primary, 59), (.functionExpr, 73)],
    [(.importSpec, 500), (.specName, 258), (.ident, 261)],
    [(.ident, 501)],
    [(.exportSpec, 507), (.specName, 276), (.ident, 261)],
    [(.specName, 508), (.ident, 261)],
    [(.type, 509), (.unionType, 414), (.intersectionType, 417), (.prefixType, 418),
      (.postfixType, 420), (.primaryType, 421), (.typeId, 422), (.objectType, 432),
      (.typeParamsOpt, 435), (.ident, 436), (.lbrace, 437), (.typeParams, 120), (.empty, 121)],
    [(.supertypeOpt, 510), (.empty, 512)],
    [(.objectType, 513), (.lbrace, 437)],
    [(.ifaceRefList, 514), (.ifaceRef, 515), (.typeId, 516), (.ident, 436)],
    [(.typeParamsOpt, 519), (.typeParams, 120), (.empty, 121)],
    [(.ifaceExtendsOpt, 520), (.empty, 406)],
    [(.unionType, 523), (.intersectionType, 417), (.prefixType, 418), (.postfixType, 420),
      (.primaryType, 421), (.typeId, 422), (.objectType, 432), (.typeParamsOpt, 435),
      (.ident, 436), (.lbrace, 437), (.typeParams, 120), (.empty, 121)],
    [(.intersectionType, 524), (.prefixType, 418), (.postfixType, 420), (.primaryType, 421),
      (.typeId, 422), (.objectType, 432), (.typeParamsOpt, 435), (.ident, 436), (.lbrace, 437),
      (.typeParams, 120), (.empty, 121)],
    [(.prefixType, 526), (.postfixType, 420), (.primaryType, 421), (.typeId, 422),
      (.objectType, 432), (.typeParamsOpt, 435), (.ident, 436), (.lbrace, 437),
      (.typeParams, 120), (.empty, 121)],
    [(.typeArgsOpt, 529), (.typeArgs, 531), (.empty, 532)],
    [(.primaryType, 534), (.typeId, 422), (.objectType, 432), (.typeParamsOpt, 435),
      (.ident, 436), (.lbrace, 437), (.typeParams, 120), (.empty, 121)],
    [(.typeList, 535), (.type, 471), (.unionType, 414), (.intersectionType, 417),
      (.prefixType, 418), (.postfixType, 420), (.primaryType, 421), (.typeId, 422),
      (.objectType, 432), (.typeParamsOpt, 435), (.ident, 436), (.lbrace, 437),
      (.typeParams, 120), (.empty, 121)],
    [(.type, 537), (.unionType, 414), (.intersectionType, 417), (.prefixType, 418),
      (.postfixType, 420), (.primaryType, 421), (.typeId, 422), (.objectType, 432),
      (.typeParamsOpt, 435), (.ident, 436), (.lbrace, 437), (.typeParams, 120), (.empty, 121)],
    [(.objectTypeBody, 539), (.objectTypeMembers, 540), (.empty, 541), (.objectTypeMember, 542),
      (.memberKey, 543), (.variance, 544), (.propName, 547), (.ident, 335)],
    [(.objectTypeBody, 549), (.objectTypeMembers, 540), (.empty, 541), (.objectTypeMember, 542),
      (.memberKey, 543), (.variance, 544), (.propName, 547), (.ident, 335)],
    [(.annotOpt, 550), (.empty, 303)],
    [(.lparen, 551)],
    [(.ifaceExtendsOpt, 552), (.empty, 406)],
    [(.params, 553), (.empty, 191), (.paramList, 192), (.restParam, 193), (.param, 194),
      (.binding, 196), (.ident, 133)],
    [(.arrowReturn, 555)],
    [(.implementsOpt, 556), (.empty, 558)],
    [(.member, 559), (.primary, 59), (.ident, 187), (.functionExpr, 73)],
    [(.stmt, 560), (.importDecl, 5), (.exportDecl, 6), (.typeAlias, 7), (.opaqueType, 8),
      (.interfaceDecl, 9), (.declareStmt, 10), (.functionDecl, 11), (.classDecl, 12),
      (.ifStmt, 13), (.whileStmt, 14), (.block, 15), (.simpleStmt, 16), (.varDecl, 30),
      (.returnStmt, 31), (.throwStmt, 32), (.exprStmt, 33), (.varKind, 34), (.expr, 37),
      (.postfixExpr, 51), (.arrow, 52), (.member, 53), (.call, 54), (.ident, 56),
      (.typeParams, 58), (.primary, 59), (.functionExpr, 73)],
    [(.stmt, 561), (.importDecl, 5), (.exportDecl, 6), (.typeAlias, 7), (.opaqueType, 8),
      (.interfaceDecl, 9), (.declareStmt, 10), (.functionDecl, 11), (.classDecl, 12),
      (.ifStmt, 13), (.whileStmt, 14), (.block, 15), (.simpleStmt, 16), (.varDecl, 30),
      (.returnStmt, 31), (.throwStmt, 32), (.exprStmt, 33), (.varKind, 34), (.expr, 37),
      (.postfixExpr, 51), (.arrow, 52), (.member, 53), (.call, 54), (.ident, 56),
      (.typeParams, 58), (.primary, 59), (.functionExpr, 73)],
    [(.expr, 562), (.postfixExpr, 51), (.arrow, 52), (.member, 53), (.call, 54), (.ident, 56),
      (.typeParams, 58), (.primary, 59), (.functionExpr, 73)],
    [(.patternProp, 563), (.ident, 307), (.propName, 308)],
    [(.binding, 564), (.ident, 133)],
    [(.expr, 565), (.postfixExpr, 51), (.arrow, 52), (.member, 53), (.call, 54), (.ident, 56),
      (.typeParams, 58), (.primary, 59), (.functionExpr, 73)],
    [(.arrowBody, 570), (.block, 352), (.expr, 353), (.postfixExpr, 51), (.arrow, 52),
      (.member, 53), (.call, 54), (.ident, 56), (.typeParams, 58), (.primary, 59),
      (.functionExpr, 73)],
    [(.type, 571), (.unionType, 414), (.intersectionType, 417), (.prefixType, 418),
      (.postfixType, 420), (.primaryType, 421), (.typeId, 422), (.objectType, 432),
      (.typeParamsOpt, 435), (.ident, 436), (.lbrace, 437), (.typeParams, 120), (.empty, 121)],
    [(.initOpt, 572), (.empty, 456)],
    [(.arrowReturn, 573)],
    [(.type, 574), (.unionType, 414), (.intersectionType, 417), (.prefixType, 418),
      (.postfixType, 420), (.primaryType, 421), (.typeId, 422), (.objectType, 432),
      (.typeParamsOpt, 435), (.ident, 436), (.lbrace, 437), (.typeParams, 120), (.empty, 121)],
    [(.typeDefaultOpt, 575), (.empty, 484)],
    [(.ident, 581)],
    [(.ident, 582)],
    [(.ident, 583)],
    [(.type, 587), (.unionType, 414), (.intersectionType, 417), (.prefixType, 418),
      (.postfixType, 420), (.primaryType, 421), (.typeId, 422), (.objectType, 432),
      (.typeParamsOpt, 435), (.ident, 436), (.lbrace, 437), (.typeParams, 120), (.empty, 121)],
    [(.typeArgsOpt, 589), (.typeArgs, 531), (.empty, 532)],
    [(.type, 590), (.unionType, 414), (.intersectionType, 417), (.prefixType, 418),
      (.postfixType, 420), (.primaryType, 421), (.typeId, 422), (.objectType, 432),
      (.typeParamsOpt, 435), (.ident, 436), (.lbrace, 437), (.typeParams, 120), (.empty, 121)],
    [(.supertypeOpt, 591), (.empty, 512)],
    [(.objectType, 592), (.lbrace, 437)],
    [(.intersectionType, 593), (.prefixType, 418), (.postfixType, 420), (.primaryType, 421),
      (.typeId, 422), (.objectType, 432), (.typeParamsOpt, 435), (.ident, 436), (.lbrace, 437),
      (.typeParams, 120), (.empty, 121)],
    [(.prefixType, 594), (.postfixType, 420), (.primaryType, 421), (.typeId, 422),
      (.objectType, 432), (.typeParamsOpt, 435), (.ident, 436), (.lbrace, 437),
      (.typeParams, 120), (.empty, 121)],
    [(.type, 595), (.unionType, 414), (.intersectionType, 417), (.prefixType, 418),
      (.postfixType, 420), (.primaryType, 421), (.typeId, 422), (.objectType, 432),
      (.typeParamsOpt, 435), (.ident, 436), (.lbrace, 437), (.typeParams, 120), (.empty, 121)],
    [(.propName, 597), (.ident, 335)],
    [(.fnTypeParams, 601), (.empty, 602), (.fnTypeParamList, 603), (.fnTypeRest, 604),
      (.fnTypeParam, 605), (.ident, 607), (.type, 608), (.unionType, 414),
      (.intersectionType, 417), (.prefixType, 418), (.postfixType, 420), (.primaryType, 421),
      (.typeId, 422), (.objectType, 432), (.typeParamsOpt, 435), (.lbrace, 437),
      (.typeParams, 120)],
    [(.memberSeparator, 610)],
    [(.optionalMark, 613), (.typeParamsOpt, 614), (.empty, 615), (.typeParams, 120)],
    [(.memberKey, 616), (.propName, 547), (.ident, 335)],
    [(.type, 618), (.unionType, 414), (.intersectionType, 417), (.prefixType, 418),
      (.postfixType, 420), (.primaryType, 421), (.typeId, 422), (.objectType, 432),
      (.typeParamsOpt, 435), (.ident, 436), (.lbrace, 437), (.typeParams, 120), (.empty, 121)],
    [(.ident, 619), (.type, 620), (.unionType, 414), (.intersectionType, 417),
      (.prefixType, 418), (.postfixType, 420), (.primaryType, 421), (.typeId, 422),
      (.objectType, 432), (.typeParamsOpt, 435), (.lbrace, 437), (.typeParams, 120),
      (.empty, 121)],
    [(.fnTypeParams, 623), (.empty, 602), (.fnTypeParamList, 603), (.fnTypeRest, 604),
      (.fnTypeParam, 605), (.ident, 607), (.type, 608), (.unionType, 414),
      (.intersectionType, 417), (.prefixType, 418), (.postfixType, 420), (.primaryType, 421),
      (.typeId, 422), (.objectType, 432), (.typeParamsOpt, 435), (.lbrace, 437),
      (.typeParams, 120)],
    [(.objectType, 624), (.lbrace, 437)],
    [(.returnOpt, 626), (.empty, 628)],
    [(.arrowBody, 629), (.block, 352), (.expr, 353), (.postfixExpr, 51), (.arrow, 52),
      (.member, 53), (.call, 54), (.ident, 56), (.typeParams, 58), (.primary, 59),
      (.functionExpr, 73)],
    [(.lbrace, 630)],
    [(.ifaceRefList, 631), (.ifaceRef, 515), (.typeId, 516), (.ident, 436)],
    [(.typeArgsOpt, 632), (.typeArgs, 531), (.empty, 532)],
    [(.initOpt, 634), (.empty, 456)],
    [(.type, 635), (.unionType, 414), (.intersectionType, 417), (.prefixType, 418),
      (.postfixType, 420), (.primaryType, 421), (.typeId, 422), (.objectType, 432),
      (.typeParamsOpt, 435), (.ident, 436), (.lbrace, 437), (.typeParams, 120), (.empty, 121)],
    [(.arrowBody, 638), (.block, 352), (.expr, 353), (.postfixExpr, 51), (.arrow, 52),
      (.member, 53), (.call, 54), (.ident, 56), (.typeParams, 58), (.primary, 59),
      (.functionExpr, 73)],
    [(.returnOpt, 639), (.empty, 628)],
    [(.expr, 640), (.postfixExpr, 51), (.arrow, 52), (.member, 53), (.call, 54), (.ident, 56),
      (.typeParams, 58), (.primary, 59), (.functionExpr, 73)],
    [(.type, 642), (.unionType, 414), (.intersectionType, 417), (.prefixType, 418),
      (.postfixType, 420), (.primaryType, 421), (.typeId, 422), (.objectType, 432),
      (.typeParamsOpt, 435), (.ident, 436), (.lbrace, 437), (.typeParams, 120), (.empty, 121)],
    [(.ifaceRef, 643), (.typeId, 516), (.ident, 436)],
    [(.ident, 649), (.type, 650), (.unionType, 414), (.intersectionType, 417),
      (.prefixType, 418), (.postfixType, 420), (.primaryType, 421), (.typeId, 422),
      (.objectType, 432), (.typeParamsOpt, 435), (.lbrace, 437), (.typeParams, 120),
      (.empty, 121)],
    [(.optionalMark, 651), (.empty, 359)],
    [(.objectTypeMember, 652), (.memberKey, 543), (.variance, 544), (.propName, 547),
      (.ident, 335)],
    [(.lparen, 654)],
    [(.optionalMark, 655), (.empty, 359)],
    [(.ident, 656), (.type, 657), (.unionType, 414), (.intersectionType, 417),
      (.prefixType, 418), (.postfixType, 420), (.primaryType, 421), (.typeId, 422),
      (.objectType, 432), (.typeParamsOpt, 435), (.lbrace, 437), (.typeParams, 120),
      (.empty, 121)],
    [(.returnOpt, 661), (.empty, 628)],
    [(.fnBody, 662), (.lbrace, 663)],
    [(.type, 664), (.unionType, 414), (.intersectionType, 417), (.prefixType, 418),
      (.postfixType, 420), (.primaryType, 421), (.typeId, 422), (.objectType, 432),
      (.typeParamsOpt, 435), (.ident, 436), (.lbrace, 437), (.typeParams, 120), (.empty, 121)],
    [(.classBody, 665), (.empty, 666)],
    [(.stmt, 667), (.importDecl, 5), (.exportDecl, 6), (.typeAlias, 7), (.opaqueType, 8),
      (.interfaceDecl, 9), (.declareStmt, 10), (.functionDecl, 11), (.classDecl, 12),
      (.ifStmt, 13), (.whileStmt, 14), (.block, 15), (.simpleStmt, 16), (.varDecl, 30),
      (.returnStmt, 31), (.throwStmt, 32), (.exprStmt, 33), (.varKind, 34), (.expr, 37),
      (.postfixExpr, 51), (.arrow, 52), (.member, 53), (.call, 54), (.ident, 56),
      (.typeParams, 58), (.primary, 59), (.functionExpr, 73)],
    [(.fnBody, 668), (.lbrace, 663)],
    [(.type, 670), (.unionType, 414), (.intersectionType, 417), (.prefixType, 418),
      (.postfixType, 420), (.primaryType, 421), (.typeId, 422), (.objectType, 432),
      (.typeParamsOpt, 435), (.ident, 436), (.lbrace, 437), (.typeParams, 120), (.empty, 121)],
    [(.fnTypeRest, 672), (.fnTypeParam, 673), (.ident, 607), (.type, 608), (.unionType, 414),
      (.intersectionType, 417), (.prefixType, 418), (.postfixType, 420), (.primaryType, 421),
      (.typeId, 422), (.objectType, 432), (.typeParamsOpt, 435), (.lbrace, 437),
      (.typeParams, 120), (.empty, 121)],
    [(.optionalMark, 674), (.empty, 359)],
    [(.type, 676), (.unionType, 414), (.intersectionType, 417), (.prefixType, 418),
      (.postfixType, 420), (.primaryType, 421), (.typeId, 422), (.objectType, 432),
      (.typeParamsOpt, 435), (.ident, 436), (.lbrace, 437), (.typeParams, 120), (.empty, 121)],
    [(.fnTypeParams, 677), (.empty, 602), (.fnTypeParamList, 603), (.fnTypeRest, 604),
      (.fnTypeParam, 605), (.ident, 607), (.type, 608), (.unionType, 414),
      (.intersectionType, 417), (.prefixType, 418), (.postfixType, 420), (.primaryType, 421),
      (.typeId, 422), (.objectType, 432), (.typeParamsOpt, 435), (.lbrace, 437),
      (.typeParams, 120)],
    [(.type, 681), (.unionType, 414), (.intersectionType, 417), (.prefixType, 418),
      (.postfixType, 420), (.primaryType, 421), (.typeId, 422), (.objectType, 432),
      (.typeParamsOpt, 435), (.ident, 436), (.lbrace, 437), (.typeParams, 120), (.empty, 121)],
    [(.fnBody, 684), (.lbrace, 663)],
    [(.stmtList, 685), (.empty, 3)],
    [(.classMember, 687), (.memberDef, 688), (.propName, 691), (.variance, 692), (.ident, 335)],
    [(.type, 695), (.unionType, 414), (.intersectionType, 417), (.prefixType, 418),
      (.postfixType, 420), (.primaryType, 421), (.typeId, 422), (.objectType, 432),
      (.typeParamsOpt, 435), (.ident, 436), (.lbrace, 437), (.typeParams, 120), (.empty, 121)],
    [(.type, 697), (.unionType, 414), (.intersectionType, 417), (.prefixType, 418),
      (.postfixType, 420), (.primaryType, 421), (.typeId, 422), (.objectType, 432),
      (.typeParamsOpt, 435), (.ident, 436), (.lbrace, 437), (.typeParams, 120), (.empty, 121)],
    [(.type, 699), (.unionType, 414), (.intersectionType, 417), (.prefixType, 418),
      (.postfixType, 420), (.primaryType, 421), (.typeId, 422), (.objectType, 432),
      (.typeParamsOpt, 435), (.ident, 436), (.lbrace, 437), (.typeParams, 120), (.empty, 121)],
    [(.type, 700), (.unionType, 414), (.intersectionType, 417), (.prefixType, 418),
      (.postfixType, 420), (.primaryType, 421), (.typeId, 422), (.objectType, 432),
      (.typeParamsOpt, 435), (.ident, 436), (.lbrace, 437), (.typeParams, 120), (.empty, 121)],
    [(.type, 703), (.unionType, 414), (.intersectionType, 417), (.prefixType, 418),
      (.postfixType, 420), (.primaryType, 421), (.typeId, 422), (.objectType, 432),
      (.typeParamsOpt, 435), (.ident, 436), (.lbrace, 437), (.typeParams, 120), (.empty, 121)],
    [(.type, 704), (.unionType, 414), (.intersectionType, 417), (.prefixType, 418),
      (.postfixType, 420), (.primaryType, 421), (.typeId, 422), (.objectType, 432),
      (.typeParamsOpt, 435), (.ident, 436), (.lbrace, 437), (.typeParams, 120), (.empty, 121)],
    [(.memberDef, 706), (.propName, 691), (.variance, 692), (.ident, 335)],
    [(.propRest, 707), (.typeParamsOpt, 708), (.optionalMark, 709), (.typeParams, 120),
      (.empty, 615)],
    [(.propName, 710), (.ident, 335)],
    [(.propName, 711), (.ident, 335)],
    [(.type, 712), (.unionType, 414), (.intersectionType, 417), (.prefixType, 418),
      (.postfixType, 420), (.primaryType, 421), (.typeId, 422), (.objectType, 432),
      (.typeParamsOpt, 435), (.ident, 436), (.lbrace, 437), (.typeParams, 120), (.empty, 121)],
    [(.type, 715), (.unionType, 414), (.intersectionType, 417), (.prefixType, 418),
      (.postfixType, 420), (.primaryType, 421), (.typeId, 422), (.objectType, 432),
      (.typeParamsOpt, 435), (.ident, 436), (.lbrace, 437), (.typeParams, 120), (.empty, 121)],
    [(.lparen, 718)],
    [(.annotOpt, 719), (.empty, 303)],
    [(.propRest, 720), (.optionalMark, 709), (.empty, 359)],
    [(.typeParamsOpt, 721), (.typeParams, 120), (.empty, 121)],
    [(.type, 722), (.unionType, 414), (.intersectionType, 417), (.prefixType, 418),
      (.postfixType, 420), (.primaryType, 421), (.typeId, 422), (.objectType, 432),
      (.typeParamsOpt, 435), (.ident, 436), (.lbrace, 437), (.typeParams, 120), (.empty, 121)],
    [(.type, 724), (.unionType, 414), (.intersectionType, 417), (.prefixType, 418),
      (.postfixType, 420), (.primaryType, 421), (.typeId, 422), (.objectType, 432),
      (.typeParamsOpt, 435), (.ident, 436), (.lbrace, 437), (.typeParams, 120), (.empty, 121)],
    [(.params, 725), (.empty, 191), (.paramList, 192), (.restParam, 193), (.param, 194),
      (.binding, 196), (.ident, 133)],
    [(.initOpt, 726), (.empty, 456)],
    [(.lparen, 727)],
    [(.type, 728), (.unionType, 414), (.intersectionType, 417), (.prefixType, 418),
      (.postfixType, 420), (.primaryType, 421), (.typeId, 422), (.objectType, 432),
      (.typeParamsOpt, 435), (.ident, 436), (.lbrace, 437), (.typeParams, 120), (.empty, 121)],
    [(.params, 730), (.empty, 191), (.paramList, 192), (.restParam, 193), (.param, 194),
      (.binding, 196), (.ident, 133)],
    [(.returnOpt, 731), (.empty, 628)],
    [(.fnBody, 733), (.lbrace, 663)],
    [(.returnOpt, 734), (.empty, 628)],
    [(.fnBody, 735), (.lbrace, 663)]]

/-- The states. -/
def states : Array State :=
  #[
    ⟨0, 0, some 3, []⟩, ⟨0, 1, none, []⟩, ⟨1, 2, some 0, []⟩, ⟨0, 1, some 2, []⟩,
    ⟨0, 1, some 1, []⟩, ⟨0, 1, some 4, []⟩, ⟨0, 1, some 5, []⟩, ⟨0, 1, some 6, []⟩,
    ⟨0, 1, some 7, []⟩, ⟨0, 1, some 8, []⟩, ⟨0, 1, some 9, []⟩, ⟨0, 1, some 10, []⟩,
    ⟨0, 1, some 11, []⟩, ⟨0, 1, some 12, []⟩, ⟨0, 1, some 13, []⟩, ⟨0, 1, some 14, []⟩,
    ⟨2, 1, none, []⟩, ⟨0, 1, some 16, []⟩, ⟨3, 3, none, []⟩, ⟨4, 4, none, []⟩,
    ⟨5, 5, some 22, []⟩, ⟨6, 1, some 23, []⟩, ⟨5, 6, some 25, []⟩, ⟨7, 7, some 24, []⟩,
    ⟨8, 8, some 3, []⟩, ⟨9, 9, none, []⟩, ⟨5, 10, none, []⟩, ⟨10, 1, none, []⟩,
    ⟨11, 1, none, []⟩, ⟨0, 11, some 3, []⟩, ⟨0, 1, some 17, []⟩, ⟨0, 1, some 18, []⟩,
    ⟨0, 1, some 19, []⟩, ⟨0, 1, some 20, []⟩, ⟨12, 12, none, []⟩, ⟨13, 13, some 270, []⟩,
    ⟨13, 14, none, []⟩, ⟨14, 1, some 272, []⟩, ⟨0, 1, some 213, []⟩, ⟨0, 1, some 214, []⟩,
    ⟨0, 1, some 215, []⟩, ⟨13, 15, none, []⟩, ⟨13, 16, none, []⟩, ⟨13, 17, none, []⟩,
    ⟨13, 18, none, []⟩, ⟨13, 19, none, []⟩, ⟨13, 20, none, []⟩, ⟨13, 21, none, []⟩,
    ⟨13, 22, none, []⟩, ⟨13, 23, none, []⟩, ⟨13, 24, none, []⟩, ⟨15, 1, some 310, []⟩,
    ⟨0, 1, some 309, []⟩, ⟨16, 25, some 320, []⟩, ⟨17, 26, some 321, []⟩, ⟨18, 27, none, []⟩,
    ⟨19, 1, some 345, []⟩, ⟨20, 28, some 3, []⟩, ⟨21, 1, none, []⟩, ⟨0, 1, some 323, []⟩,
    ⟨0, 1, some 21, []⟩, ⟨0, 1, some 26, []⟩, ⟨0, 1, some 27, []⟩, ⟨22, 29, none, []⟩,
    ⟨0, 1, some 346, []⟩, ⟨0, 1, some 347, []⟩, ⟨0, 1, some 348, []⟩, ⟨13, 30, none, []⟩,
    ⟨0, 1, some 352, []⟩, ⟨0, 1, some 353, []⟩, ⟨0, 1, some 354, []⟩, ⟨0, 1, some 355, []⟩,
    ⟨13, 31, none, []⟩, ⟨0, 1, some 358, []⟩, ⟨23, 32, none, []⟩, ⟨24, 33, none, []⟩,
    ⟨8, 34, some 3, []⟩, ⟨0, 1, some 15, []⟩, ⟨25, 1, none, []⟩, ⟨26, 35, some 22, []⟩,
    ⟨26, 36, none, []⟩, ⟨27, 1, none, []⟩, ⟨28, 1, some 60, []⟩, ⟨0, 1, some 63, []⟩,
    ⟨29, 1, none, []⟩, ⟨0, 1, some 23, []⟩, ⟨0, 1, some 24, []⟩, ⟨0, 1, some 25, []⟩,
    ⟨30, 37, none, []⟩, ⟨31, 38, none, []⟩, ⟨0, 1, some 81, []⟩, ⟨32, 39, some 3, []⟩,
    ⟨33, 40, none, []⟩, ⟨34, 1, none, []⟩, ⟨0, 1, some 86, []⟩, ⟨0, 1, some 87, []⟩,
    ⟨0, 1, some 88, []⟩, ⟨0, 1, some 89, []⟩, ⟨0, 1, some 90, []⟩, ⟨35, 1, none, []⟩,
    ⟨36, 41, none, []⟩, ⟨37, 1, none, []⟩, ⟨6, 1, none, []⟩, ⟨5, 6, none, []⟩,
    ⟨38, 42, some 3, []⟩, ⟨0, 1, some 22, []⟩, ⟨5, 43, none, []⟩, ⟨38, 44, some 3, []⟩,
    ⟨5, 45, none, []⟩, ⟨0, 1, some 112, []⟩, ⟨0, 1, some 113, []⟩, ⟨5, 46, none, []⟩,
    ⟨39, 1, none, []⟩, ⟨5, 47, none, []⟩, ⟨40, 48, none, []⟩, ⟨5, 49, none, []⟩,
    ⟨5, 50, none, []⟩, ⟨0, 1, some 230, []⟩, ⟨38, 51, some 3, []⟩, ⟨41, 52, none, []⟩,
    ⟨0, 1, some 194, []⟩, ⟨0, 1, some 195, []⟩, ⟨8, 53, some 3, []⟩, ⟨8, 54, some 3, []⟩,
    ⟨42, 1, none, []⟩, ⟨20, 55, some 3, []⟩, ⟨38, 56, some 3, []⟩, ⟨13, 57, none, []⟩,
    ⟨13, 58, none, []⟩, ⟨43, 2, none, []⟩, ⟨44, 1, some 212, []⟩, ⟨0, 1, some 216, []⟩,
    ⟨45, 59, some 3, []⟩, ⟨0, 1, some 221, []⟩, ⟨46, 60, none, []⟩, ⟨14, 1, some 269, []⟩,
    ⟨47, 9, none, []⟩, ⟨14, 1, some 271, []⟩, ⟨13, 61, none, []⟩, ⟨13, 62, none, []⟩,
    ⟨13, 63, none, []⟩, ⟨13, 64, none, []⟩, ⟨13, 65, none, []⟩, ⟨13, 66, none, []⟩,
    ⟨13, 67, none, []⟩, ⟨13, 68, none, []⟩, ⟨13, 69, none, []⟩, ⟨13, 70, none, []⟩,
    ⟨13, 71, none, []⟩, ⟨13, 72, none, []⟩, ⟨13, 73, none, []⟩, ⟨13, 74, none, []⟩,
    ⟨13, 75, none, []⟩, ⟨13, 76, none, []⟩, ⟨13, 77, none, []⟩, ⟨13, 78, none, []⟩,
    ⟨13, 79, none, []⟩, ⟨13, 80, none, []⟩, ⟨13, 81, none, []⟩, ⟨13, 82, none, []⟩,
    ⟨13, 83, none, []⟩, ⟨13, 84, none, []⟩, ⟨0, 1, some 297, []⟩, ⟨0, 1, some 298, []⟩,
    ⟨0, 1, some 299, []⟩, ⟨0, 1, some 300, []⟩, ⟨0, 1, some 301, []⟩, ⟨0, 1, some 302, []⟩,
    ⟨0, 1, some 303, []⟩, ⟨0, 1, some 304, []⟩, ⟨0, 1, some 305, []⟩, ⟨0, 1, some 306, []⟩,
    ⟨0, 1, some 307, []⟩, ⟨0, 1, some 308, []⟩, ⟨48, 85, none, []⟩, ⟨13, 86, none, []⟩,
    ⟨0, 1, some 328, []⟩, ⟨49, 87, none, []⟩, ⟨50, 88, none, []⟩, ⟨0, 1, some 236, []⟩,
    ⟨0, 1, some 237, []⟩, ⟨0, 1, some 329, []⟩, ⟨51, 89, none, []⟩, ⟨48, 90, none, []⟩,
    ⟨13, 91, none, []⟩, ⟨52, 92, some 322, []⟩, ⟨18, 93, none, []⟩, ⟨0, 1, some 345, []⟩,
    ⟨53, 1, none, []⟩, ⟨54, 94, none, []⟩, ⟨55, 1, none, []⟩, ⟨0, 1, some 238, []⟩,
    ⟨56, 1, some 239, []⟩, ⟨0, 1, some 242, []⟩, ⟨0, 1, some 243, []⟩, ⟨12, 95, none, []⟩,
    ⟨57, 96, some 3, []⟩, ⟨20, 97, some 3, []⟩, ⟨58, 1, none, []⟩, ⟨0, 1, some 198, []⟩,
    ⟨59, 98, some 3, []⟩, ⟨5, 99, none, []⟩, ⟨0, 1, some 170, []⟩, ⟨0, 1, some 171, []⟩,
    ⟨0, 1, some 349, []⟩, ⟨60, 1, none, []⟩, ⟨61, 1, none, []⟩, ⟨62, 1, none, []⟩,
    ⟨0, 1, some 360, []⟩, ⟨0, 1, some 340, []⟩, ⟨14, 1, some 343, []⟩, ⟨13, 100, none, []⟩,
    ⟨63, 1, none, []⟩, ⟨0, 1, some 362, []⟩, ⟨0, 1, some 363, []⟩, ⟨64, 101, none, []⟩,
    ⟨65, 1, none, []⟩, ⟨66, 1, none, []⟩, ⟨13, 102, none, []⟩,
    ⟨0, 1, some 28, [(.comma, 370), (.rbrace, 370)]⟩, ⟨13, 103, none, []⟩, ⟨0, 1, some 29, []⟩,
    ⟨0, 1, some 30, []⟩, ⟨0, 1, some 31, []⟩, ⟨0, 1, some 32, []⟩, ⟨0, 1, some 33, []⟩,
    ⟨0, 1, some 34, []⟩, ⟨0, 1, some 35, []⟩, ⟨0, 1, some 36, []⟩, ⟨0, 1, some 37, []⟩,
    ⟨0, 1, some 38, []⟩, ⟨0, 1, some 39, []⟩, ⟨0, 1, some 40, []⟩, ⟨0, 1, some 41, []⟩,
    ⟨0, 1, some 42, []⟩, ⟨0, 1, some 43, []⟩, ⟨0, 1, some 44, []⟩, ⟨0, 1, some 45, []⟩,
    ⟨0, 1, some 46, []⟩, ⟨0, 1, some 47, []⟩, ⟨0, 1, some 48, []⟩, ⟨0, 1, some 49, []⟩,
    ⟨0, 1, some 50, []⟩, ⟨0, 1, some 51, []⟩, ⟨0, 1, some 52, []⟩, ⟨0, 1, some 53, []⟩,
    ⟨0, 1, some 54, []⟩, ⟨0, 1, some 55, []⟩, ⟨0, 1, some 232, []⟩, ⟨67, 1, none, []⟩,
    ⟨68, 1, none, []⟩, ⟨69, 1, none, []⟩, ⟨0, 1, some 59, []⟩, ⟨70, 104, none, []⟩,
    ⟨5, 105, none, []⟩, ⟨71, 1, none, []⟩, ⟨0, 1, some 66, []⟩, ⟨0, 1, some 67, []⟩,
    ⟨72, 1, some 70, []⟩, ⟨73, 106, some 22, []⟩, ⟨73, 107, none, []⟩, ⟨0, 1, some 76, []⟩,
    ⟨0, 1, some 77, []⟩, ⟨74, 1, none, []⟩, ⟨0, 1, some 79, []⟩, ⟨0, 1, some 80, []⟩,
    ⟨75, 1, none, []⟩, ⟨76, 1, none, []⟩, ⟨0, 1, some 93, []⟩, ⟨32, 108, some 3, []⟩,
    ⟨77, 1, none, []⟩, ⟨5, 109, none, []⟩, ⟨0, 1, some 91, []⟩, ⟨78, 1, none, []⟩,
    ⟨0, 1, some 95, []⟩, ⟨0, 1, some 96, []⟩, ⟨79, 1, some 99, []⟩, ⟨80, 1, none, []⟩,
    ⟨38, 110, some 3, []⟩, ⟨81, 111, some 3, []⟩, ⟨45, 112, some 3, []⟩, ⟨38, 113, some 3, []⟩,
    ⟨5, 114, none, []⟩, ⟨38, 115, some 3, []⟩, ⟨82, 116, some 3, []⟩, ⟨0, 1, some 121, []⟩,
    ⟨0, 1, some 122, []⟩, ⟨5, 117, none, []⟩, ⟨38, 118, some 3, []⟩, ⟨38, 119, some 3, []⟩,
    ⟨41, 120, none, []⟩, ⟨20, 121, some 3, []⟩, ⟨0, 1, some 231, []⟩, ⟨0, 1, some 233, []⟩,
    ⟨54, 122, none, []⟩, ⟨83, 1, none, []⟩, ⟨84, 123, some 3, []⟩, ⟨85, 1, none, []⟩,
    ⟨86, 1, none, []⟩, ⟨0, 1, some 268, []⟩, ⟨12, 124, none, []⟩, ⟨87, 125, some 3, []⟩,
    ⟨88, 126, some 3, []⟩, ⟨0, 1, some 211, []⟩, ⟨89, 1, none, []⟩, ⟨0, 1, some 223, []⟩,
    ⟨0, 1, some 224, []⟩, ⟨87, 127, some 3, [(.colon, 28)]⟩, ⟨90, 1, none, []⟩,
    ⟨5, 128, none, []⟩, ⟨91, 1, some 273, []⟩, ⟨91, 1, some 274, []⟩, ⟨0, 1, some 275, []⟩,
    ⟨0, 1, some 276, []⟩, ⟨0, 1, some 277, []⟩, ⟨92, 1, some 278, []⟩, ⟨93, 1, some 279, []⟩,
    ⟨94, 1, some 280, []⟩, ⟨95, 1, some 281, []⟩, ⟨96, 1, some 282, []⟩, ⟨97, 1, some 283, []⟩,
    ⟨98, 1, some 284, []⟩, ⟨98, 1, some 285, []⟩, ⟨98, 1, some 286, []⟩, ⟨98, 1, some 287, []⟩,
    ⟨99, 1, some 288, []⟩, ⟨99, 1, some 289, []⟩, ⟨99, 1, some 290, []⟩, ⟨99, 1, some 291, []⟩,
    ⟨99, 1, some 292, []⟩, ⟨99, 1, some 293, []⟩, ⟨100, 1, none, []⟩, ⟨14, 1, some 295, []⟩,
    ⟨14, 1, some 296, []⟩, ⟨0, 1, some 324, []⟩, ⟨0, 1, some 28, []⟩, ⟨101, 1, none, []⟩,
    ⟨0, 1, some 330, []⟩, ⟨0, 1, some 334, []⟩, ⟨13, 129, none, []⟩, ⟨102, 1, none, []⟩,
    ⟨0, 1, some 339, []⟩, ⟨0, 1, some 331, []⟩, ⟨0, 1, some 335, []⟩, ⟨13, 130, none, []⟩,
    ⟨0, 1, some 332, []⟩, ⟨103, 1, none, []⟩, ⟨0, 1, some 326, []⟩, ⟨41, 131, none, []⟩,
    ⟨88, 132, some 3, []⟩, ⟨52, 92, none, []⟩, ⟨0, 1, some 311, []⟩, ⟨0, 1, some 318, []⟩,
    ⟨14, 1, some 319, []⟩, ⟨104, 133, none, []⟩, ⟨20, 134, some 240, []⟩, ⟨45, 135, some 3, []⟩,
    ⟨45, 136, some 3, []⟩, ⟨0, 1, some 181, []⟩, ⟨0, 1, some 182, []⟩, ⟨105, 1, none, []⟩,
    ⟨0, 1, some 196, []⟩, ⟨106, 137, none, []⟩, ⟨107, 138, some 3, []⟩, ⟨88, 139, some 3, []⟩,
    ⟨0, 1, some 203, []⟩, ⟨59, 140, some 3, []⟩, ⟨0, 1, some 350, []⟩, ⟨13, 141, none, []⟩,
    ⟨0, 1, some 356, []⟩, ⟨88, 142, some 3, []⟩, ⟨108, 143, some 342, []⟩, ⟨0, 1, some 359, []⟩,
    ⟨14, 1, some 344, []⟩, ⟨0, 1, some 361, []⟩, ⟨109, 144, some 365, []⟩, ⟨13, 145, none, []⟩,
    ⟨20, 146, some 3, []⟩, ⟨13, 147, none, []⟩, ⟨13, 148, none, []⟩, ⟨110, 1, none, []⟩,
    ⟨14, 1, some 371, []⟩, ⟨111, 1, none, []⟩, ⟨112, 1, none, []⟩, ⟨113, 1, none, []⟩,
    ⟨0, 1, some 61, []⟩, ⟨114, 1, none, []⟩, ⟨0, 1, some 64, []⟩, ⟨0, 1, some 65, []⟩,
    ⟨115, 149, some 69, []⟩, ⟨5, 150, none, []⟩, ⟨116, 1, some 72, []⟩, ⟨117, 1, some 74, []⟩,
    ⟨0, 1, some 78, []⟩, ⟨0, 1, some 82, []⟩, ⟨0, 1, some 92, []⟩, ⟨118, 1, none, []⟩,
    ⟨119, 1, none, []⟩, ⟨120, 1, none, []⟩, ⟨0, 1, some 94, []⟩, ⟨73, 151, some 98, []⟩,
    ⟨73, 152, none, []⟩, ⟨88, 153, some 3, []⟩, ⟨121, 154, some 3, []⟩, ⟨122, 155, none, []⟩,
    ⟨5, 156, none, []⟩, ⟨0, 1, some 107, []⟩, ⟨123, 1, none, []⟩, ⟨124, 1, none, []⟩,
    ⟨38, 157, some 3, []⟩, ⟨81, 158, some 3, []⟩, ⟨0, 1, some 118, []⟩, ⟨0, 1, some 119, []⟩,
    ⟨125, 1, none, []⟩, ⟨126, 1, some 126, []⟩, ⟨127, 159, some 3, []⟩, ⟨127, 160, some 3, []⟩,
    ⟨128, 1, some 130, []⟩, ⟨0, 1, some 132, []⟩, ⟨127, 161, some 3, []⟩, ⟨129, 1, some 134, []⟩,
    ⟨0, 1, some 137, []⟩, ⟨130, 162, some 3, []⟩, ⟨0, 1, some 139, []⟩, ⟨0, 1, some 140, []⟩,
    ⟨131, 1, none, []⟩, ⟨0, 1, some 142, []⟩, ⟨0, 1, some 143, []⟩, ⟨0, 1, some 144, []⟩,
    ⟨0, 1, some 145, []⟩, ⟨0, 1, some 146, []⟩, ⟨132, 163, some 3, []⟩, ⟨0, 1, some 148, []⟩,
    ⟨133, 164, some 3, []⟩, ⟨88, 165, some 3, []⟩, ⟨134, 1, none, []⟩, ⟨0, 1, some 153, []⟩,
    ⟨135, 166, some 3, []⟩, ⟨135, 167, some 3, []⟩, ⟨0, 1, some 159, []⟩, ⟨0, 1, some 160, []⟩,
    ⟨45, 168, some 3, []⟩, ⟨41, 169, none, []⟩, ⟨81, 170, some 3, []⟩, ⟨20, 171, some 3, []⟩,
    ⟨136, 1, none, []⟩, ⟨0, 1, some 312, []⟩, ⟨104, 172, none, []⟩, ⟨137, 173, some 3, []⟩,
    ⟨18, 174, none, []⟩, ⟨0, 1, some 252, []⟩, ⟨1, 175, none, []⟩, ⟨1, 176, none, []⟩,
    ⟨0, 1, some 217, []⟩, ⟨0, 1, some 218, []⟩, ⟨13, 177, none, []⟩, ⟨0, 1, some 220, []⟩,
    ⟨0, 1, some 210, []⟩, ⟨0, 1, some 222, []⟩, ⟨138, 178, some 226, []⟩, ⟨0, 1, some 227, []⟩,
    ⟨12, 179, none, []⟩, ⟨0, 1, some 229, []⟩, ⟨13, 180, none, []⟩, ⟨0, 1, some 325, []⟩,
    ⟨139, 1, none, []⟩, ⟨0, 1, some 338, []⟩, ⟨140, 1, none, []⟩, ⟨0, 1, some 333, []⟩,
    ⟨0, 1, some 327, []⟩, ⟨141, 1, none, []⟩, ⟨0, 1, some 155, []⟩, ⟨54, 181, none, []⟩,
    ⟨0, 1, some 316, []⟩, ⟨88, 182, some 3, []⟩, ⟨0, 1, some 241, []⟩, ⟨0, 1, some 244, []⟩,
    ⟨0, 1, some 246, []⟩, ⟨87, 183, some 3, []⟩, ⟨104, 184, none, []⟩, ⟨0, 1, some 197, []⟩,
    ⟨0, 1, some 199, []⟩, ⟨0, 1, some 200, []⟩, ⟨88, 185, some 3, []⟩, ⟨0, 1, some 205, []⟩,
    ⟨0, 1, some 202, []⟩, ⟨107, 186, some 3, []⟩, ⟨0, 1, some 351, []⟩, ⟨142, 1, none, []⟩,
    ⟨0, 1, some 341, []⟩, ⟨0, 1, some 364, []⟩, ⟨14, 1, some 366, []⟩, ⟨143, 1, none, []⟩,
    ⟨14, 1, some 367, []⟩, ⟨14, 1, some 368, []⟩, ⟨144, 1, none, []⟩, ⟨0, 1, some 56, []⟩,
    ⟨145, 1, none, []⟩, ⟨146, 1, none, []⟩, ⟨5, 187, none, []⟩, ⟨0, 1, some 68, []⟩,
    ⟨0, 1, some 71, []⟩, ⟨5, 188, none, []⟩, ⟨5, 189, none, []⟩, ⟨0, 1, some 83, []⟩,
    ⟨0, 1, some 84, []⟩, ⟨147, 1, none, []⟩, ⟨0, 1, some 97, []⟩, ⟨0, 1, some 100, []⟩,
    ⟨148, 1, none, []⟩, ⟨149, 1, none, []⟩, ⟨88, 190, some 3, []⟩, ⟨0, 1, some 104, []⟩,
    ⟨0, 1, some 105, []⟩, ⟨150, 1, some 106, []⟩, ⟨0, 1, some 108, []⟩, ⟨130, 191, some 3, []⟩,
    ⟨0, 1, some 111, []⟩, ⟨88, 192, some 3, []⟩, ⟨121, 193, some 3, []⟩, ⟨122, 194, none, []⟩,
    ⟨0, 1, some 120, []⟩, ⟨127, 195, some 3, []⟩, ⟨0, 1, some 127, []⟩, ⟨0, 1, some 128, []⟩,
    ⟨127, 196, some 3, []⟩, ⟨0, 1, some 133, []⟩, ⟨88, 197, some 3, []⟩, ⟨151, 1, none, []⟩,
    ⟨0, 1, some 138, []⟩, ⟨48, 198, none, []⟩, ⟨0, 1, some 206, []⟩, ⟨0, 1, some 207, []⟩,
    ⟨0, 1, some 141, []⟩, ⟨0, 1, some 147, []⟩, ⟨152, 1, none, []⟩, ⟨0, 1, some 150, []⟩,
    ⟨153, 1, none, []⟩, ⟨154, 199, some 3, []⟩, ⟨155, 1, none, []⟩, ⟨156, 200, some 161, []⟩,
    ⟨0, 1, some 163, []⟩, ⟨0, 1, some 164, []⟩, ⟨157, 201, some 3, []⟩, ⟨158, 202, none, []⟩,
    ⟨88, 203, some 176, [(.arrowLparen, 3)]⟩, ⟨88, 204, some 3, []⟩, ⟨0, 1, some 168, []⟩,
    ⟨0, 1, some 169, []⟩, ⟨159, 1, none, []⟩, ⟨160, 1, none, []⟩, ⟨154, 205, some 3, []⟩,
    ⟨122, 206, none, []⟩, ⟨161, 1, none, []⟩, ⟨162, 207, some 3, []⟩, ⟨54, 208, none, []⟩,
    ⟨163, 209, none, []⟩, ⟨5, 210, none, []⟩, ⟨0, 1, some 254, []⟩, ⟨164, 211, some 3, []⟩,
    ⟨165, 1, some 265, []⟩, ⟨0, 1, some 267, []⟩, ⟨14, 1, some 219, []⟩, ⟨0, 1, some 225, []⟩,
    ⟨87, 212, some 3, []⟩, ⟨166, 1, some 294, []⟩, ⟨0, 1, some 336, []⟩, ⟨0, 1, some 337, []⟩,
    ⟨167, 213, some 3, []⟩, ⟨0, 1, some 208, []⟩, ⟨0, 1, some 313, []⟩, ⟨168, 1, none, []⟩,
    ⟨0, 1, some 245, []⟩, ⟨54, 214, none, []⟩, ⟨0, 1, some 204, []⟩, ⟨0, 1, some 201, []⟩,
    ⟨0, 1, some 357, []⟩, ⟨162, 215, some 3, []⟩, ⟨13, 216, none, []⟩, ⟨0, 1, some 57, []⟩,
    ⟨0, 1, some 58, []⟩, ⟨0, 1, some 62, []⟩, ⟨0, 1, some 73, []⟩, ⟨0, 1, some 75, []⟩,
    ⟨169, 1, none, []⟩, ⟨0, 1, some 101, []⟩, ⟨88, 217, some 3, []⟩, ⟨0, 1, some 103, []⟩,
    ⟨5, 218, none, []⟩, ⟨0, 1, some 110, []⟩, ⟨170, 1, none, []⟩, ⟨171, 1, none, []⟩,
    ⟨0, 1, some 117, []⟩, ⟨128, 1, some 129, []⟩, ⟨0, 1, some 131, []⟩, ⟨0, 1, some 135, []⟩,
    ⟨0, 1, some 136, []⟩, ⟨0, 1, some 154, []⟩, ⟨0, 1, some 149, []⟩, ⟨88, 213, some 3, []⟩,
    ⟨0, 1, some 151, []⟩, ⟨172, 1, none, []⟩, ⟨0, 1, some 183, [(.arrowLparen, 195)]⟩,
    ⟨173, 1, some 184, []⟩, ⟨0, 1, some 187, []⟩, ⟨0, 1, some 188, []⟩, ⟨88, 219, some 3, []⟩,
    ⟨57, 220, some 153, [(.colon, 3)]⟩, ⟨0, 1, some 191, []⟩, ⟨0, 1, some 157, []⟩,
    ⟨135, 221, some 162, []⟩, ⟨0, 1, some 166, []⟩, ⟨0, 1, some 167, []⟩, ⟨174, 1, none, []⟩,
    ⟨41, 222, none, []⟩, ⟨0, 1, some 182, [(.arrowLparen, 195), (.lparen, 195)]⟩,
    ⟨57, 223, some 3, []⟩, ⟨88, 224, some 3, []⟩, ⟨0, 1, some 175, []⟩, ⟨175, 1, some 153, []⟩,
    ⟨176, 1, none, []⟩, ⟨0, 1, some 158, []⟩, ⟨0, 1, some 123, []⟩, ⟨177, 1, none, []⟩,
    ⟨0, 1, some 125, []⟩, ⟨162, 225, some 3, []⟩, ⟨163, 226, none, []⟩, ⟨88, 227, some 3, []⟩,
    ⟨0, 1, some 248, []⟩, ⟨0, 1, some 315, []⟩, ⟨0, 228, some 3, []⟩, ⟨150, 1, some 253, []⟩,
    ⟨0, 1, some 251, []⟩, ⟨1, 229, none, []⟩, ⟨0, 1, some 228, []⟩, ⟨0, 1, some 156, []⟩,
    ⟨0, 1, some 209, []⟩, ⟨0, 1, some 317, []⟩, ⟨0, 1, some 314, []⟩, ⟨163, 230, none, []⟩,
    ⟨14, 1, some 369, []⟩, ⟨0, 1, some 85, []⟩, ⟨178, 1, none, []⟩, ⟨0, 1, some 109, []⟩,
    ⟨0, 1, some 114, []⟩, ⟨0, 1, some 115, []⟩, ⟨88, 231, some 3, []⟩, ⟨179, 1, none, []⟩,
    ⟨154, 232, some 185, [(.arrowLparen, 3)]⟩, ⟨57, 233, some 153, [(.colon, 3)]⟩,
    ⟨0, 1, some 193, []⟩, ⟨180, 1, none, []⟩, ⟨0, 1, some 165, []⟩, ⟨88, 234, some 3, []⟩,
    ⟨154, 235, some 3, []⟩, ⟨181, 1, none, []⟩, ⟨182, 1, some 153, []⟩, ⟨183, 1, none, []⟩,
    ⟨88, 236, some 3, []⟩, ⟨184, 1, none, []⟩, ⟨185, 1, none, []⟩, ⟨163, 237, none, []⟩,
    ⟨0, 1, some 235, []⟩, ⟨0, 238, some 3, []⟩, ⟨0, 1, some 247, []⟩, ⟨186, 239, none, []⟩,
    ⟨0, 1, some 256, []⟩, ⟨0, 1, some 266, []⟩, ⟨0, 1, some 372, []⟩, ⟨0, 1, some 102, []⟩,
    ⟨187, 1, none, []⟩, ⟨88, 240, some 3, []⟩, ⟨0, 1, some 186, []⟩, ⟨0, 1, some 189, []⟩,
    ⟨188, 1, none, []⟩, ⟨88, 241, some 3, []⟩, ⟨0, 1, some 172, []⟩, ⟨189, 1, none, []⟩,
    ⟨88, 242, some 3, []⟩, ⟨88, 243, some 3, []⟩, ⟨190, 1, none, []⟩, ⟨191, 1, none, []⟩,
    ⟨88, 244, some 3, []⟩, ⟨88, 245, some 3, []⟩, ⟨0, 1, some 234, []⟩, ⟨192, 2, none, []⟩,
    ⟨0, 1, some 250, []⟩, ⟨0, 1, some 255, []⟩, ⟨0, 1, some 257, []⟩, ⟨0, 1, some 258, []⟩,
    ⟨193, 246, none, []⟩, ⟨157, 247, some 3, []⟩, ⟨48, 248, none, []⟩, ⟨48, 249, none, []⟩,
    ⟨0, 1, some 116, []⟩, ⟨0, 1, some 152, []⟩, ⟨88, 250, some 3, []⟩, ⟨0, 1, some 190, []⟩,
    ⟨194, 1, none, []⟩, ⟨0, 1, some 173, []⟩, ⟨195, 1, none, []⟩, ⟨88, 251, some 3, []⟩,
    ⟨196, 1, none, []⟩, ⟨0, 1, some 178, []⟩, ⟨197, 1, none, []⟩, ⟨0, 1, some 249, []⟩,
    ⟨0, 1, some 259, []⟩, ⟨0, 1, some 260, []⟩, ⟨41, 252, none, []⟩, ⟨45, 253, some 3, []⟩,
    ⟨57, 254, some 3, []⟩, ⟨38, 255, some 3, []⟩, ⟨0, 1, some 192, []⟩, ⟨88, 256, some 3, []⟩,
    ⟨198, 1, none, []⟩, ⟨0, 1, some 180, []⟩, ⟨88, 257, some 3, []⟩, ⟨0, 1, some 124, []⟩,
    ⟨20, 258, some 3, []⟩, ⟨87, 259, some 3, []⟩, ⟨0, 1, some 261, []⟩, ⟨41, 260, none, []⟩,
    ⟨0, 1, some 174, []⟩, ⟨88, 261, some 3, []⟩, ⟨0, 1, some 177, []⟩, ⟨199, 1, none, []⟩,
    ⟨0, 1, some 262, []⟩, ⟨20, 262, some 3, []⟩, ⟨0, 1, some 179, []⟩, ⟨162, 263, some 3, []⟩,
    ⟨200, 1, none, []⟩, ⟨163, 264, none, []⟩, ⟨162, 265, some 3, []⟩, ⟨0, 1, some 263, []⟩,
    ⟨163, 266, none, []⟩, ⟨0, 1, some 264, []⟩]

/-- The table of the parser. -/
def table : Table where
  shifts := shiftRows
  moves := moveRows
  states := states
  final := 1

end Retype.Grammar
