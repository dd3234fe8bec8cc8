/-!
# Token kinds

The terminals of the grammar.  Some kinds are never read from a text directly.
A template literal with substitutions is split into a head, middles and a tail.
An opening parenthesis of an arrow function, an opening brace of a block, a
`function` that starts an expression and the arrow behind a return type are told
apart from the plain tokens by their context.
-/

namespace Retype

/-- The kind of a token. -/
inductive TokenKind where
  -- names and literals
  | name | number | string | template | templateHead | templateMiddle | templateTail
  -- punctuation
  | lparen | rparen | lbrace | rbrace | lbracket | rbracket | exactLbrace | exactRbrace
  | comma | semi | colon | dot | ellipsis | question | questionDot | arrow
  -- kinds that depend on the context
  | arrowLparen | blockLbrace | functionExpr | returnArrow
  -- operators
  | assign | assignOp | plus | minus | times | divide | modulo | plusPlus | minusMinus
  | andAnd | orOr | nullish | bang | tilde | pipe | amp | caret
  | eq | ne | strictEq | strictNe | lt | le | gt | ge
  -- reserved words
  | kwAsync | kwAwait | kwClass | kwConst | kwDefault | kwDelete | kwElse | kwExport | kwExtends
  | kwFalse | kwFunction | kwIf | kwImplements | kwImport | kwIn | kwInstanceof | kwLet | kwNew
  | kwNull | kwReturn | kwStatic | kwThis | kwThrow | kwTrue | kwTypeof | kwVar | kwVoid | kwWhile
  -- words that are reserved only in some contexts
  | kwAs | kwDeclare | kwFrom | kwInterface | kwOpaque | kwType
  deriving DecidableEq, Repr, Inhabited

namespace TokenKind

/-- The reserved words and their kinds. -/
def reservedWords : List (String × TokenKind) :=
  [("import", kwImport), ("export", kwExport), ("default", kwDefault), ("function", kwFunction),
    ("class", kwClass), ("extends", kwExtends), ("implements", kwImplements),
    ("return", kwReturn), ("if", kwIf), ("else", kwElse), ("while", kwWhile), ("throw", kwThrow),
    ("var", kwVar), ("let", kwLet), ("const", kwConst), ("new", kwNew), ("this", kwThis),
    ("true", kwTrue), ("false", kwFalse), ("null", kwNull), ("typeof", kwTypeof),
    ("void", kwVoid), ("delete", kwDelete), ("instanceof", kwInstanceof), ("in", kwIn),
    ("async", kwAsync), ("await", kwAwait), ("static", kwStatic), ("type", kwType),
    ("opaque", kwOpaque), ("declare", kwDeclare), ("interface", kwInterface), ("from", kwFrom),
    ("as", kwAs)]

/-- The kind of a word. -/
def ofWord (s : String) : TokenKind := (reservedWords.lookup s).getD name

/-- The words that may also be used as names. -/
def isContextual : TokenKind → Bool
  | kwType | kwOpaque | kwDeclare | kwInterface | kwFrom | kwAs => true
  | _ => false

/-- The closing bracket of an opening one. -/
def closer? : TokenKind → Option TokenKind
  | lparen | arrowLparen => some rparen
  | lbracket => some rbracket
  | lbrace | blockLbrace => some rbrace
  | exactLbrace => some exactRbrace
  | _ => none

/-- The opening brackets. -/
def isOpener (k : TokenKind) : Bool := k.closer?.isSome

/-- The closing brackets. -/
def isCloser : TokenKind → Bool
  | rparen | rbracket | rbrace | exactRbrace => true
  | _ => false

end TokenKind

end Retype
