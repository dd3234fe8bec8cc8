import Retype.Grammar.Basic

/-!
# Parser tables

A table has states.  A state says where a token or a nonterminal leads to, and
which production is reduced otherwise.  A state that reduces different
productions before different tokens lists the exceptions.  Reducing before a
token that cannot follow does no harm: such a token is never shifted later.

Productions are named by their place in the grammar, states and rows by their
place in the table.
-/

namespace Retype.Grammar

/-- A state of the parser. -/
structure State where
  /-- The row of its shifts. -/
  shifts : Nat
  /-- The row of its moves over nonterminals. -/
  moves : Nat
  /-- The production it reduces. -/
  reduce : Option Nat
  /-- The productions it reduces before some tokens instead. -/
  exceptions : List (TokenKind × Nat)
  deriving DecidableEq, Repr

/-- A parser table. -/
structure Table where
  /-- The rows of shifts. -/
  shifts : Array (List (TokenKind × Nat))
  /-- The rows of moves. -/
  moves : Array (List (Nonterminal × Nat))
  /-- The states. -/
  states : Array State
  /-- The state that accepts at the end of the tokens. -/
  final : Nat

/-- What to do in a state before a token. -/
inductive Move where
  /-- Take the token and go to a state. -/
  | shift (state : Nat)
  /-- Reduce a production. -/
  | reduce (production : Nat)
  /-- The tokens are a sentence. -/
  | accept
  /-- The token cannot follow. -/
  | reject
  deriving DecidableEq, Repr

namespace Table

/-- Where a token leads to. -/
def shift? (table : Table) (s : State) (k : TokenKind) : Option Nat :=
  (table.shifts[s.shifts]?).bind (·.lookup k)

/-- Where a nonterminal leads to. -/
def goto? (table : Table) (state : Nat) (x : Nonterminal) : Option Nat := do
  let s ← table.states[state]?
  let row ← table.moves[s.moves]?
  row.lookup x

/-- The production that a state reduces before a token, or before the end. -/
def reduction (s : State) (next : Option TokenKind) : Move :=
  match next.bind (s.exceptions.lookup ·), s.reduce with
  | some p, _ => .reduce p
  | none, some p => .reduce p
  | none, none => .reject

/-- What to do in a state before a token, or before the end. -/
def move (table : Table) (state : Nat) (next : Option TokenKind) : Move :=
  match table.states[state]? with
  | none => .reject
  | some s =>
    match next with
    | none => if state = table.final then .accept else reduction s none
    | some k =>
      match table.shift? s k with
      | some target => .shift target
      | none => reduction s (some k)

end Table

end Retype.Grammar
