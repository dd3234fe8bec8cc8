import Retype.Token.Lexer

/-!
# Expanded template literals

The parser reads the substitutions of a template literal as code.  So a literal
with substitutions becomes a head, the tokens of its first substitution, a
middle or the tail, and so on.  The tokens of a substitution are read in place:
the text is cut from the start of the body on, and what starts at the closing
brace or behind it is left out.  Its template literals are expanded in turn.

Comments inside substitutions are kept with the others, in the order of the text.
-/

namespace Retype.Expand

open Lexer (Lexeme Lexed lexemes)

/-- The tokens and comments of the first part before those of the second. -/
def join (a b : Lexed) : Lexed := ⟨a.tokens ++ b.tokens, a.comments ++ b.comments⟩

/-- The number of line ends among the first characters of a token. -/
def linesBefore (t : Token) (offset : Nat) : Nat := (t.text.toList.take offset).count '\n'

/-- A piece of a template literal that stands at an offset of it. -/
def piece (kind : TokenKind) (text : List Char) (t : Token) (offset : Nat) : Token where
  kind := kind
  text := String.ofList text
  line := t.line + linesBefore t offset
  pos := t.pos + offset

/-- Reads the code of a substitution, given the offset and the line of its start
and the offset of its end. -/
abbrev Reader := (start line stop : Nat) → Except Failure Lexed

/-- The tokens of the substitutions of a literal, each followed by the text
behind it. -/
def substitutions (read : Reader) (t : Token) :
    List Template.Span → List (List Char) → Except Failure Lexed
  | s :: spans, q :: quasis => do
    let body ← read (t.pos + s.start) (t.line + linesBefore t s.start) (t.pos + s.stop)
    let kind := if spans.isEmpty then .templateTail else .templateMiddle
    let rest ← substitutions read t spans quasis
    return join (join body ⟨[piece kind q t s.stop], []⟩) rest
  | _, _ => return {}

/-- The tokens of a template literal. -/
def template (read : Reader) (t : Token) : Except Failure Lexed := do
  let (quasis, spans) ← Template.split t.text.toList
  match spans, quasis with
  | _ :: _, q :: quasis =>
    return join ⟨[piece .templateHead q t 0], []⟩ (← substitutions read t spans quasis)
  | _, _ => return ⟨[t], []⟩

/-- The tokens and comments of lexemes, with template literals expanded.  A token
at the offset `stop` or behind it ends the list, and hides a failure behind it. -/
def collect (read : Reader) (stop : Option Nat) (failure : Option Failure) :
    List Lexeme → Except Failure Lexed
  | [] =>
    match failure with
    | some e => .error e
    | none => .ok {}
  | l :: ls =>
    match l.comment?, l.token? with
    | some c, _ => do return join ⟨[], [c]⟩ (← collect read stop failure ls)
    | none, none => collect read stop failure ls
    | none, some t =>
      if stop.any (· ≤ t.pos) then .ok {}
      else do
        let first ← if t.kind = .template then template read t else pure ⟨[t], []⟩
        return join first (← collect read stop failure ls)

/-- The tokens and comments of a text from an offset on, with template literals
expanded at most `depth` deep. -/
def expand (text : List Char) : (depth : Nat) → (start line : Nat) → (stop : Option Nat) →
    Except Failure Lexed
  | 0, _, _, _ => .ok {}
  | depth + 1, start, line, stop =>
    let found := lexemes start line 0 (text.drop start)
    collect (fun start line stop => expand text depth start line (some stop)) stop found.2 found.1

/-- Puts a comment among comments in the order of the text. -/
def insertComment (c : Comment) : List Comment → List Comment
  | [] => [c]
  | d :: ds => if c.pos ≤ d.pos then c :: d :: ds else d :: insertComment c ds

/-- Comments in the order of the text. -/
def sortComments (cs : List Comment) : List Comment := cs.foldr insertComment []

/-- The tokens of a text with template literals expanded, and its comments.  A
literal inside a substitution is shorter than the literal around it, so the length
of the text bounds the depth. -/
def read (text : List Char) : Except Failure Lexed := do
  let found ← expand text (text.length + 1) 0 1 none
  return { found with comments := sortComments found.comments }

end Retype.Expand
