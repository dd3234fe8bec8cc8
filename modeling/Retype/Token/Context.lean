import Retype.Token.Basic
import Retype.Token.Bracket

/-!
# Tokens in context

Four kinds of tokens depend on more context than one token of lookahead.

* The parenthesis that opens the parameters of an arrow function, or of a
  function type, is an `arrowLparen`.  An arrow follows its closing one, or a
  return type and then an arrow.
* The arrow behind such a return type is a `returnArrow`.
* A brace that opens a block of statements is a `blockLbrace`.
* A `function` that starts an expression is a `functionExpr`.

The first two are settled for every parenthesis from the left, and the later
ones see what was settled before.  Then the other two are settled from the left
for every brace and every `function`.
-/

namespace Retype.Context

open TokenKind

/-! ## Classes of kinds -/

/-- The kinds that may end a statement at the end of a line. -/
def endsStatement : TokenKind → Bool
  | name | number | string | template | templateTail | rparen | rbracket | rbrace | exactRbrace
  | kwThis | kwNull | kwTrue | kwFalse | kwVoid | plusPlus | minusMinus | gt | times => true
  | k => k.isContextual

/-- The kinds behind which a brace opens a block. -/
def precedesBlock : TokenKind → Bool
  | semi | rparen | rbrace | blockLbrace | kwElse | arrow | returnArrow => true
  | _ => false

/-- The kinds behind which a `function` is a declaration. -/
def precedesDeclaration : TokenKind → Bool
  | semi | rbrace | blockLbrace | kwExport | kwDefault | kwDeclare => true
  | _ => false

/-- The kinds that may end a type. -/
def endsType : TokenKind → Bool
  | name | gt | rbracket | rbrace | exactRbrace | rparen | string | number
  | kwVoid | kwNull | kwTrue | kwFalse | times => true
  | k => k.isContextual

/-! ## Parentheses of arrow functions -/

/-- What ends a return type. -/
inductive TypeEnd where
  /-- The arrow at a place. -/
  | arrow (place : Nat)
  /-- The brace at a place, which opens a body. -/
  | body (place : Nat)
  /-- Something else. -/
  | other
  deriving DecidableEq, Repr

/-- Walks over a type that starts at a place.  `depth` counts the open brackets
and `prev` is the kind before, if it belongs to the type.  An arrow outside all
brackets ends the type if `arrows` says so. -/
def typeEnd (arrows : Bool) : (i depth : Nat) → (prev : Option TokenKind) → List TokenKind → TypeEnd
  | _, _, _, [] => .other
  | i, depth, prev, k :: ks =>
    if k.isOpener || k = lt then
      if k = lbrace ∧ depth = 0 ∧ prev.any endsType then .body i
      else typeEnd arrows (i + 1) (depth + 1) (some k) ks
    else if k.isCloser || k = gt then
      match depth with
      | 0 => .other
      | depth + 1 => typeEnd arrows (i + 1) depth (some k) ks
    else if depth = 0 ∧ k = arrow ∧ arrows then .arrow i
    else if depth = 0 ∧ (k = semi ∨ k = comma ∨ k = assign) then .other
    else typeEnd arrows (i + 1) depth (some k) ks

/-- What stands before the type arguments that end a list, read backwards. -/
def beforeAngles : (depth : Nat) → List TokenKind → List TokenKind
  | _, [] => []
  | depth, k :: ks =>
    if k = gt then beforeAngles (depth + 1) ks
    else if k = lt then
      match depth with
      | 0 | 1 => ks
      | depth + 2 => beforeAngles (depth + 1) ks
    else beforeAngles depth ks

/-- Whether the tokens before a parenthesis, read backwards, are the head of a
function: `function`, a name or none, type parameters or none. -/
def afterFunction (before : List TokenKind) : Bool :=
  let before := if before.head? = some gt then beforeAngles 0 before else before
  let before :=
    match before with
    | k :: ks => if k = name ∨ k.isContextual then ks else before
    | [] => []
  before.head? = some kwFunction

/-- The kinds of a list of tokens, and the places of braces that open a body
behind a return type. -/
structure Marked where
  /-- The kinds, some of them settled. -/
  kinds : List TokenKind
  /-- The places of the braces. -/
  bodies : List Nat := []
  deriving DecidableEq, Repr

/-- Settles the parenthesis at a place. -/
def markParen (ps : List Bracket.Pair) (m : Marked) (i : Nat) : Marked :=
  match m.kinds[i]?, Bracket.closerOf? ps i with
  | some lparen, some j =>
    let header := afterFunction (m.kinds.take i).reverse
    match m.kinds[j + 1]? with
    | some arrow => if header then m else { m with kinds := m.kinds.set i arrowLparen }
    | some colon =>
      match typeEnd (!header) (j + 2) 0 none (m.kinds.drop (j + 2)) with
      | .arrow k => { m with kinds := (m.kinds.set i arrowLparen).set k returnArrow }
      | .body k => { m with bodies := k :: m.bodies }
      | .other => m
    | _ => m
  | _, _ => m

/-- Settles every parenthesis from the left. -/
def markParens (ks : List TokenKind) : Marked :=
  (List.range ks.length).foldl (markParen (Bracket.pairs ks)) { kinds := ks }

/-! ## Braces of blocks and functions of expressions -/

/-- Whether a `function` behind a token is a declaration.  It is one at the start
of the text, behind some kinds, and at the start of a line behind the end of a
statement. -/
def declares (prev : Option Token) (t : Token) : Bool :=
  match prev with
  | none => true
  | some p => precedesDeclaration p.kind || (endsStatement p.kind && p.endLine < t.line)

/-- The kind of a brace or a `function` behind two tokens, the nearer first. -/
def settle (bodies : List Nat) (i : Nat) (prev prev2 : Option Token) (t : Token) : TokenKind :=
  match t.kind with
  | lbrace =>
    if prev.all (fun p => precedesBlock p.kind) || i ∈ bodies then blockLbrace else lbrace
  | kwFunction =>
    let prev := if prev.any (·.kind = kwAsync) then prev2 else prev
    if declares prev t then kwFunction else functionExpr
  | k => k

/-- Settles the braces and the functions of a list that starts at the place `i`. -/
def markRest (bodies : List Nat) : (i : Nat) → (prev prev2 : Option Token) → List Token → List Token
  | _, _, _, [] => []
  | i, prev, prev2, t :: ts =>
    let t := t.retag (settle bodies i prev prev2 t)
    t :: markRest bodies (i + 1) (some t) prev ts

/-- Settles every token that depends on its context. -/
def classify (ts : List Token) : List Token :=
  let marked := markParens (ts.map (·.kind))
  markRest marked.bodies 0 none none (List.zipWith Token.retag ts marked.kinds)

end Retype.Context
