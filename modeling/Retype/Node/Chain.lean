import Retype.Node.Basic

/-!
# Optional chains

A *chain* is a row of member accesses, index accesses and calls, each on the one
before.  It is *optional* if one of its links is written with a question mark.
-/

namespace Retype.Node

/-- The last optional link of the chain that a node ends. -/
def optionalLink? (n : Node) : Option Node :=
  n.fold fun n results =>
    match results with
    | .expr (.member object _ optional) => if optional then some n else object
    | .expr (.index object _ optional) => if optional then some n else object
    | .expr (.call callee _ optional) => if optional then some n else callee
    | _ => none

/-- Whether a node ends a chain with an optional link. -/
def isOptionalChain (n : Node) : Bool := n.optionalLink?.isSome

end Retype.Node
