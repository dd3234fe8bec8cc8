import Retype.Comments
import Retype.Parser
import Retype.Token.Stream

/-!
# Programs from source texts

A source text is read into tokens, the tokens are parsed into a tree, and the
comments are hung on the tree.
-/

namespace Retype

/-- The tree of a source text. -/
def Source.parse (src : Source) : Except Failure Node := do
  let found ← Stream.read src.text.toList
  let tree ← Parser.parse found.tokens
  return Comments.attach src found.comments tree

end Retype
