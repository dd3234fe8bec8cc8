import Retype.Grammar.Declaration
import Retype.Grammar.Expression
import Retype.Grammar.Program
import Retype.Grammar.Statement
import Retype.Grammar.TypeExpression

/-!
# The grammar

All productions in one array.  Their places are the names that the parser table
uses.
-/

namespace Retype.Grammar

/-- The grammar of Flow source files. -/
def rules : Array Production :=
  (programs ++ declarations ++ types ++ statements ++ expressions).toArray

end Retype.Grammar
