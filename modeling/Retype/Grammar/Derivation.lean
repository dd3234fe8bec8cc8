import Retype.Grammar.Basic

/-!
# Derivations

A *derivation* of a symbol is a tree.  A leaf is a token, which derives its own
kind.  A node is a production of the grammar with derivations of its right side.
So every derivation follows the grammar by its type.

`Derivation.tokens` lists the leaves from the left.  `Derivation.eval` is the
value that the actions build, from the leaves up.
-/

namespace Retype.Grammar

variable {g : Array Production}

mutual

/-- A derivation of a symbol. -/
inductive Derivation (g : Array Production) : Symbol → Type where
  /-- A token derives its own kind. -/
  | leaf (t : Token) : Derivation g (.t t.kind)
  /-- A production derives its left side. -/
  | node (p : Fin g.size) (parts : Derivations g g[p].rhs) : Derivation g (.n g[p].lhs)

/-- Derivations of symbols in a row. -/
inductive Derivations (g : Array Production) : List Symbol → Type where
  /-- No symbols. -/
  | nil : Derivations g []
  /-- A symbol before others. -/
  | cons {s : Symbol} {ss : List Symbol} (first : Derivation g s) (rest : Derivations g ss) :
      Derivations g (s :: ss)

end

mutual

/-- The leaves of a derivation, from the left. -/
def Derivation.tokens {s : Symbol} : Derivation g s → List Token
  | .leaf t => [t]
  | .node _ parts => parts.tokens

/-- The leaves of derivations in a row, from the left. -/
def Derivations.tokens {ss : List Symbol} : Derivations g ss → List Token
  | .nil => []
  | .cons first rest => first.tokens ++ rest.tokens

end

mutual

/-- The offset of the first leaf, if there is one. -/
def Derivation.start? {s : Symbol} : Derivation g s → Option Nat
  | .leaf t => some t.pos
  | .node _ parts => parts.start?

/-- The offset of the first leaf of a row, if there is one. -/
def Derivations.start? {ss : List Symbol} : Derivations g ss → Option Nat
  | .nil => none
  | .cons first rest => first.start?.or rest.start?

end

/-- The offset of the first leaf.  A derivation of nothing stands at zero. -/
def Derivation.start {s : Symbol} (d : Derivation g s) : Int := (d.start?.getD 0 : Nat)

/-- The values of symbols in a row. -/
@[reducible]
def Values : List Symbol → Type
  | [] => Unit
  | s :: ss => Located s.Value × Values ss

/-- An action applied to the values of its symbols. -/
def Action.apply {β : Type} : (ss : List Symbol) → Action ss β → Values ss → β
  | [], action, _ => action
  | _ :: ss, action, (v, vs) => Action.apply ss (action v) vs

mutual

/-- The value that the actions build. -/
def Derivation.eval {s : Symbol} : Derivation g s → s.Value
  | .leaf t => t
  | .node p parts => Action.apply g[p].rhs g[p].action parts.values

/-- The values of derivations in a row. -/
def Derivations.values {ss : List Symbol} : Derivations g ss → Values ss
  | .nil => ()
  | .cons first rest => (⟨first.start, first.eval⟩, rest.values)

end

end Retype.Grammar
