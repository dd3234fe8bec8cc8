import Retype.Pass.Annotation
import Retype.Pass.Desugar

/-!
# All passes

The passes in one type, and the order in which a file runs through them.
-/

namespace Retype

/-- A pass over a tree. -/
inductive Pass where
  | imports | exports | declarations | interfaces | typeAliases | typeCasts | annotations
  | typeParameters | typeArguments | nullishCoalescing | optionalChaining
  deriving DecidableEq, Repr

namespace Pass

/-- Every pass, in the order in which a file runs through them. -/
def all : List Pass :=
  [.imports, .exports, .declarations, .interfaces, .typeAliases, .typeCasts, .annotations,
    .typeParameters, .typeArguments, .nullishCoalescing, .optionalChaining]

/-- Runs a pass. -/
def run : Pass → Node → Outcome Node
  | .imports, tree => Passes.imports tree
  | .exports, tree => Passes.exports tree
  | .declarations, tree => Passes.declarations tree
  | .interfaces, tree => Passes.interfaces tree
  | .typeAliases, tree => Passes.typeAliases tree
  | .typeCasts, tree => Passes.typeCasts tree
  | .annotations, tree => Passes.annotations tree
  | .typeParameters, tree => Passes.typeParameters tree
  | .typeArguments, tree => Passes.typeArguments tree
  | .nullishCoalescing, tree => pure (Passes.nullishCoalescing tree)
  | .optionalChaining, tree => pure (Passes.optionalChaining tree)

/-- Runs passes one after the other. -/
def runList : List Pass → Node → Outcome Node
  | [], tree => pure tree
  | p :: ps, tree => do runList ps (← p.run tree)

/-- Runs every pass. -/
def runAll (tree : Node) : Outcome Node := runList all tree

end Pass

end Retype
