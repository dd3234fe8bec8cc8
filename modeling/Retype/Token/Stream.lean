import Retype.Token.Expand
import Retype.Token.Semicolon

/-!
# The tokens that the parser reads

A text is cut into tokens, its template literals are expanded, the tokens that
depend on their context are settled, and the missing semicolons are put in.
-/

namespace Retype.Stream

open Lexer (Lexed)

/-- The tokens that the parser reads, and the comments of the text. -/
def read (text : List Char) : Except Failure Lexed := do
  let found ← Expand.read text
  return { found with tokens := Semicolon.insertAll (Context.classify found.tokens) }

end Retype.Stream
