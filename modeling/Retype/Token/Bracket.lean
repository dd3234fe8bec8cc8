import Retype.Token.Kind

/-!
# Matching brackets

Brackets are matched with a stack.  An opening bracket is put on it.  A closing
bracket takes the top off if the top asks for it, and is passed over otherwise.
So an opening bracket that is never closed keeps all brackets around it open.
-/

namespace Retype.Bracket

/-- The places of an opening bracket and its closing one. -/
structure Pair where
  /-- The place of the opening bracket. -/
  opener : Nat
  /-- The place of the closing bracket. -/
  closer : Nat
  deriving DecidableEq, Repr

/-- The pairs closed by a list of tokens that starts at the place `i`.  The stack
holds the places of the open brackets and what closes them. -/
def pairsFrom : (i : Nat) → (stack : List (Nat × TokenKind)) → List TokenKind → List Pair
  | _, _, [] => []
  | i, stack, k :: ks =>
    match k.closer? with
    | some c => pairsFrom (i + 1) ((i, c) :: stack) ks
    | none =>
      match stack with
      | [] => pairsFrom (i + 1) [] ks
      | (j, c) :: outer =>
        if c = k then ⟨j, i⟩ :: pairsFrom (i + 1) outer ks
        else pairsFrom (i + 1) ((j, c) :: outer) ks

/-- The matched pairs of a list of tokens, in the order of their closing brackets. -/
def pairs (ks : List TokenKind) : List Pair := pairsFrom 0 [] ks

/-- The place of the bracket that closes the one at a place. -/
def closerOf? (ps : List Pair) (i : Nat) : Option Nat :=
  (ps.find? (·.opener = i)).map (·.closer)

/-- The place of the bracket that opens the one at a place. -/
def openerOf? (ps : List Pair) (i : Nat) : Option Nat :=
  (ps.find? (·.closer = i)).map (·.opener)

end Retype.Bracket
