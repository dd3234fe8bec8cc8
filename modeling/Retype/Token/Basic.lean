import Retype.Token.Kind

/-!
# Tokens and comments

A *token* is a piece of the text with its kind, its line and its offset.  A
*comment* is a piece of the text that is set aside.  Both keep their text as it
was written.
-/

namespace Retype

/-- A piece of the text with its kind. -/
structure Token where
  /-- The kind. -/
  kind : TokenKind
  /-- The text as it was written. -/
  text : String
  /-- The line it starts on, from one. -/
  line : Nat
  /-- The offset of its first character. -/
  pos : Nat
  deriving DecidableEq, Repr, Inhabited

/-- A comment with its delimiters. -/
structure Comment where
  /-- The offset of its first character. -/
  pos : Nat
  /-- The text as it was written. -/
  text : String
  deriving DecidableEq, Repr

namespace Token

/-- The same token with another kind. -/
def retag (t : Token) (kind : TokenKind) : Token := { t with kind := kind }

/-- The line a token ends on. -/
def endLine (t : Token) : Nat := t.line + t.text.toList.count '\n'

/-- The offset behind a token. -/
def endPos (t : Token) : Nat := t.pos + t.text.length

end Token

end Retype
