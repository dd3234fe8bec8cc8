import Retype.Text.Digit
import Retype.Token.Basic
import Retype.Token.Template

/-!
# Lexemes

A text is cut into *lexemes*: blanks, line ends, comments and tokens.  Where no
lexeme is under way, the next one starts, and `measure` says what it is and how
many characters it takes.  Blanks are the space, the tab and the carriage
return.  A comment runs to the end of the line or to its closing mark.  A mark
of punctuation is the first of `marks` that the text starts with, so a longer
mark stands before its beginning.

A text that no lexeme starts fails.  The lexemes before that point are kept,
since a failure inside an earlier template literal goes first.
-/

namespace Retype.Lexer

/-- What a lexeme is. -/
inductive Shape where
  | blank
  | lineEnd
  | comment
  | token (kind : TokenKind)
  deriving DecidableEq, Repr

/-- A piece of the text. -/
structure Lexeme where
  /-- What it is. -/
  shape : Shape
  /-- The text as it was written. -/
  text : List Char
  /-- The line it starts on, from one. -/
  line : Nat
  /-- The offset of its first character. -/
  pos : Nat
  deriving DecidableEq, Repr

/-! ## Measuring one lexeme -/

/-- The number of characters up to and with the mark that closes a comment. -/
def blockCommentLength : List Char → Option Nat
  | [] => none
  | '*' :: '/' :: _ => some 2
  | _ :: cs => (blockCommentLength cs).map (· + 1)

/-- The length of the comment that starts a text. -/
def commentLength : List Char → Option Nat
  | '/' :: '/' :: cs => some (2 + (cs.takeWhile (· ≠ '\n')).length)
  | '/' :: '*' :: cs => (blockCommentLength cs).map (· + 2)
  | _ => none

/-- The digits of a number with a radix mark. -/
def isRadixDigit (c : Char) : Bool :=
  ('0' ≤ c && c ≤ '9') || ('a' ≤ c && c ≤ 'f') || ('A' ≤ c && c ≤ 'F') || c = '_'

/-- The marks of a radix. -/
def isRadixMark (c : Char) : Bool :=
  c = 'x' || c = 'X' || c = 'b' || c = 'B' || c = 'o' || c = 'O'

/-- One more if a text starts with a character, else nothing. -/
def countIf (p : Char → Bool) : List Char → Nat
  | c :: _ => if p c then 1 else 0
  | [] => 0

/-- The length of the exponent that starts a text, zero if there is none. -/
def exponentLength : List Char → Nat
  | [] => 0
  | e :: cs =>
    if e = 'e' ∨ e = 'E' then
      let sign := countIf (fun c => c = '+' || c = '-') cs
      let digits := ((cs.drop sign).takeWhile Text.isDigit).length
      if digits = 0 then 0 else 1 + sign + digits
    else 0

/-- The length of a number whose digits before an exponent are `mantissa` long. -/
def withExponent (mantissa : Nat) (cs : List Char) : Nat :=
  let exponent := exponentLength (cs.drop mantissa)
  mantissa + exponent + countIf (· = 'n') (cs.drop (mantissa + exponent))

/-- The length of a number with a radix mark that starts a text. -/
def radixLength : List Char → Option Nat
  | '0' :: x :: cs =>
    let digits := (cs.takeWhile isRadixDigit).length
    if isRadixMark x ∧ digits ≠ 0 then
      some (2 + digits + countIf (· = 'n') (cs.drop digits))
    else none
  | _ => none

/-- The length of a decimal number that starts a text. -/
def decimalLength (cs : List Char) : Option Nat :=
  match cs with
  | [] => none
  | '.' :: rest =>
    let fraction := (rest.takeWhile Text.isDigit).length
    if fraction = 0 then none else some (withExponent (1 + fraction) cs)
  | c :: _ =>
    if Text.isDigit c then
      let whole := (cs.takeWhile fun c => Text.isDigit c || c = '_').length
      let point := countIf (· = '.') (cs.drop whole)
      let fraction :=
        if point = 0 then (cs.drop whole).takeWhile Text.isDigit
        else (cs.drop (whole + 1)).takeWhile Text.isDigit
      some (withExponent (whole + point + fraction.length) cs)
    else none

/-- The length of the number that starts a text. -/
def numberLength (cs : List Char) : Option Nat :=
  match radixLength cs with
  | some n => some n
  | none => decimalLength cs

/-- The number of characters up to and with the closing quote of a string. -/
def closingQuote (q : Char) : List Char → Option Nat
  | [] => none
  | '\\' :: c :: cs => if c = '\n' then none else (closingQuote q cs).map (· + 2)
  | c :: cs =>
    if c = q then some 1
    else if c = '\\' ∨ c = '\n' then none
    else (closingQuote q cs).map (· + 1)

/-- The length of the string that starts a text. -/
def stringLength : List Char → Option Nat
  | c :: cs => if c = '"' ∨ c = '\x27' then (closingQuote c cs).map (· + 1) else none
  | [] => none

/-- The characters that may start a name. -/
def isNameStart (c : Char) : Bool := c.isAlpha || c = '_' || c = '$'

/-- The characters that may follow in a name. -/
def isNamePart (c : Char) : Bool := c.isAlphanum || c = '_' || c = '$'

/-- The length of the name that starts a text. -/
def nameLength : List Char → Option Nat
  | c :: cs => if isNameStart c then some (1 + (cs.takeWhile isNamePart).length) else none
  | [] => none

/-- The marks of punctuation, the first that fits being taken. -/
def marks : List (List Char × TokenKind) :=
  [(['.', '.', '.'], .ellipsis),
    (['\x7b', '|'], .exactLbrace), (['|', '\x7d'], .exactRbrace),
    (['+', '='], .assignOp), (['-', '='], .assignOp), (['*', '='], .assignOp),
    (['/', '='], .assignOp), (['%', '='], .assignOp), (['&', '&', '='], .assignOp),
    (['|', '|', '='], .assignOp), (['?', '?', '='], .assignOp), (['&', '='], .assignOp),
    (['|', '='], .assignOp), (['^', '='], .assignOp),
    (['?', '?'], .nullish), (['=', '=', '='], .strictEq), (['!', '=', '='], .strictNe),
    (['=', '>'], .arrow), (['=', '='], .eq), (['!', '='], .ne), (['<', '='], .le),
    (['>', '='], .ge), (['+', '+'], .plusPlus), (['-', '-'], .minusMinus),
    (['&', '&'], .andAnd), (['|', '|'], .orOr),
    (['('], .lparen), ([')'], .rparen), (['\x7b'], .lbrace), (['\x7d'], .rbrace),
    (['['], .lbracket), ([']'], .rbracket), ([','], .comma), ([';'], .semi), ([':'], .colon),
    (['.'], .dot), (['?'], .question), (['='], .assign), (['+'], .plus), (['-'], .minus),
    (['*'], .times), (['/'], .divide), (['%'], .modulo), (['!'], .bang), (['~'], .tilde),
    (['|'], .pipe), (['&'], .amp), (['^'], .caret), (['<'], .lt), (['>'], .gt)]

/-- The mark that starts a text.  A question mark and a point are one mark unless
a digit follows. -/
def mark? (cs : List Char) : Option (TokenKind × Nat) :=
  match cs with
  | '?' :: '.' :: rest =>
    if countIf Text.isDigit rest = 0 then some (.questionDot, 2) else some (.question, 1)
  | _ => (marks.find? fun m => m.1.isPrefixOf cs).map fun m => (m.2, m.1.length)

/-- What the lexeme that starts a text is, and its length.  The text is not
empty and stands at the offset `pos`. -/
def measure (pos : Nat) (c : Char) (cs : List Char) : Except Failure (Shape × Nat) :=
  if c = ' ' ∨ c = '\t' ∨ c = '\r' then .ok (.blank, 1)
  else if c = '\n' then .ok (.lineEnd, 1)
  else if c = '\x60' then
    (Template.scan pos (c :: cs)).map fun r => (.token .template, r.1 - pos)
  else
    match commentLength (c :: cs) with
    | some n => .ok (.comment, n)
    | none =>
      match numberLength (c :: cs) with
      | some n => .ok (.token .number, n)
      | none =>
        match stringLength (c :: cs) with
        | some n => .ok (.token .string, n)
        | none =>
          match nameLength (c :: cs) with
          | some n => .ok (.token (.ofWord (String.ofList ((c :: cs).take n))), n)
          | none =>
            match mark? (c :: cs) with
            | some (k, n) => .ok (.token k, n)
            | none => .error (.unexpectedCharacter c pos)

/-! ## Cutting a text -/

/-- The line behind a character. -/
def nextLine (line : Nat) (c : Char) : Nat := if c = '\n' then line + 1 else line

/-- The lexemes of a text up to a failure, if there is one.  The text stands at
the offset `pos` on the line `line`.  The characters counted by `skip` belong to
a lexeme that is under way. -/
def lexemes : (pos line skip : Nat) → List Char → List Lexeme × Option Failure
  | _, _, _, [] => ([], none)
  | pos, line, skip + 1, c :: cs => lexemes (pos + 1) (nextLine line c) skip cs
  | pos, line, 0, c :: cs =>
    match measure pos c cs with
    | .error e => ([], some e)
    | .ok (shape, n) =>
      let more := lexemes (pos + 1) (nextLine line c) (n - 1) cs
      (⟨shape, (c :: cs).take n, line, pos⟩ :: more.1, more.2)

/-! ## Tokens and comments of a text -/

/-- The tokens and comments of a text. -/
structure Lexed where
  /-- The tokens in order. -/
  tokens : List Token := []
  /-- The comments in order. -/
  comments : List Comment := []
  deriving DecidableEq, Repr

/-- The token that a lexeme is. -/
def Lexeme.token? (l : Lexeme) : Option Token :=
  match l.shape with
  | .token kind => some ⟨kind, String.ofList l.text, l.line, l.pos⟩
  | _ => none

/-- The comment that a lexeme is. -/
def Lexeme.comment? (l : Lexeme) : Option Comment :=
  match l.shape with
  | .comment => some ⟨l.pos, String.ofList l.text⟩
  | _ => none

/-- The tokens and comments of a text, a template literal being one token. -/
def lex (cs : List Char) : Except Failure Lexed :=
  match lexemes 0 1 0 cs with
  | (_, some e) => .error e
  | (ls, none) => .ok ⟨ls.filterMap Lexeme.token?, ls.filterMap Lexeme.comment?⟩

end Retype.Lexer
