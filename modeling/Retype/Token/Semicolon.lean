import Retype.Token.Context

/-!
# Inserted semicolons

A semicolon that the text leaves out is put in at three places: before the brace
that closes a block, between two lines of which the first may end a statement
and the second may start one, and at the end of the text.  None is put in behind
another, and none behind the parenthesis that closes the condition of an `if` or
a `while`.
-/

namespace Retype.Semicolon

open TokenKind

/-- The kinds that may start a statement. -/
def startsStatement : TokenKind → Bool
  | name | number | string | template | templateHead | kwImport | kwExport | kwFunction | kwClass
  | kwReturn | kwIf | kwWhile | kwThrow | kwVar | kwLet | kwConst | kwNew | kwThis | kwTrue
  | kwFalse | kwNull | kwTypeof | kwVoid | kwDelete | kwDeclare | kwAsync | kwAwait | kwType
  | kwOpaque | kwInterface | plusPlus | minusMinus | bang | tilde | kwStatic => true
  | _ => false

/-- A semicolon right behind a token. -/
def behind (t : Token) : Token := ⟨semi, ";", t.line, t.endPos⟩

/-- Whether the token at a place closes the condition of an `if` or a `while`. -/
def closesCondition (ks : List TokenKind) (ps : List Bracket.Pair) (i : Nat) : Bool :=
  match ks[i]?, Bracket.openerOf? ps i with
  | some rparen, some (j + 1) => ks[j]? = some kwIf || ks[j]? = some kwWhile
  | _, _ => false

/-- Whether the token at a place closes a block. -/
def closesBlock (ks : List TokenKind) (ps : List Bracket.Pair) (i : Nat) : Bool :=
  match Bracket.openerOf? ps i with
  | some j => ks[j]? = some blockLbrace
  | none => false

/-- Whether a semicolon is missing between a token and the next one, which stands
at the place `i`. -/
def missing (ks : List TokenKind) (ps : List Bracket.Pair) (i : Nat) (prev t : Token) : Bool :=
  if prev.kind = semi then false
  else if t.kind = rbrace then
    closesBlock ks ps i && prev.kind ≠ blockLbrace && prev.kind ≠ comma
  else
    prev.endLine < t.line && Context.endsStatement prev.kind && startsStatement t.kind
      && !closesCondition ks ps (i - 1)

/-- Puts in the missing semicolons behind `prev`, in a list that starts at the
place `i`. -/
def insertFrom (ks : List TokenKind) (ps : List Bracket.Pair) :
    (i : Nat) → (prev : Token) → List Token → List Token
  | _, prev, [] => if prev.kind = semi then [] else [behind prev]
  | i, prev, t :: ts =>
    if missing ks ps i prev t then behind prev :: t :: insertFrom ks ps (i + 1) t ts
    else t :: insertFrom ks ps (i + 1) t ts

/-- Puts in the missing semicolons. -/
def insertAll (ts : List Token) : List Token :=
  let ks := ts.map (·.kind)
  match ts with
  | [] => []
  | t :: ts => t :: insertFrom ks (Bracket.pairs ks) 1 t ts

end Retype.Semicolon
