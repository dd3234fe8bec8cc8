import Retype.Failure
import Retype.Grammar.Automaton
import Retype.Grammar.Derivation
import Retype.Grammar.Rules

/-!
# The parser

The parser shifts tokens onto a stack of derivations and reduces the top of the
stack by productions, as the table says.  A reduction takes derivations off the
stack only if their symbols are those of the right side.  So what it builds is a
derivation, whatever the table says.

A text is rejected at the first token that cannot be shifted.
-/

namespace Retype.Parser

open Grammar

variable {g : Array Production}

/-- A derivation on the stack, and the state behind it. -/
structure Frame (g : Array Production) where
  /-- The state. -/
  state : Nat
  /-- The symbol that is derived. -/
  symbol : Symbol
  /-- The derivation. -/
  tree : Derivation g symbol

/-- A stack, the top first, and the tokens to come. -/
structure Config (g : Array Production) where
  /-- The stack. -/
  stack : List (Frame g)
  /-- The tokens to come. -/
  rest : List Token

/-- The state of a stack. -/
def topState : List (Frame g) → Nat
  | [] => 0
  | f :: _ => f.state

/-- The derivations of frames, if their symbols are the given ones. -/
def gather : (ss : List Symbol) → List (Frame g) → Option (Derivations g ss)
  | [], [] => some .nil
  | s :: ss, f :: fs =>
    if h : f.symbol = s then (gather ss fs).map (.cons (h ▸ f.tree)) else none
  | _, _ => none

/-- What one step leads to. -/
inductive Step (g : Array Production) where
  /-- Go on from a configuration. -/
  | next (config : Config g)
  /-- The tokens are derived. -/
  | done (tree : Derivation g (.n .program))
  /-- The next token cannot follow. -/
  | stuck

/-- Puts a token on the stack. -/
def shift (state : Nat) (c : Config g) : Step g :=
  match c.rest with
  | [] => .stuck
  | t :: rest => .next ⟨⟨state, .t t.kind, .leaf t⟩ :: c.stack, rest⟩

/-- Replaces the right side of a production on the stack by its left side. -/
def reduce (table : Table) (production : Nat) (c : Config g) : Step g :=
  if h : production < g.size then
    let p : Fin g.size := ⟨production, h⟩
    let width := g[p].rhs.length
    let below := c.stack.drop width
    match gather g[p].rhs (c.stack.take width).reverse, table.goto? (topState below) g[p].lhs with
    | some parts, some state => .next ⟨⟨state, .n g[p].lhs, .node p parts⟩ :: below, c.rest⟩
    | _, _ => .stuck
  else .stuck

/-- The derivation on a stack that holds nothing but a program. -/
def accept (c : Config g) : Step g :=
  match c.stack with
  | [f] => if h : f.symbol = .n .program then .done (h ▸ f.tree) else .stuck
  | _ => .stuck

/-- One step of the parser. -/
def step (table : Table) (c : Config g) : Step g :=
  match table.move (topState c.stack) (c.rest.head?.map (·.kind)) with
  | .shift state => shift state c
  | .reduce production => reduce table production c
  | .accept => accept c
  | .reject => .stuck

/-- The failure of a parser that is stuck before some tokens. -/
def failure : List Token → Failure
  | [] => .unexpectedEnd
  | t :: _ => .unexpectedToken t.text (t.kind = .rparen || t.kind = .rbrace) t.pos

/-- Runs the parser for at most a number of steps. -/
def run (table : Table) : Nat → Config g → Except Failure (Derivation g (.n .program))
  | 0, c => .error (failure c.rest)
  | n + 1, c =>
    match step table c with
    | .next c => run table n c
    | .done tree => .ok tree
    | .stuck => .error (failure c.rest)

/-- A number of steps that suffices for a number of tokens.  Between two shifts
the parser climbs chains of productions with one symbol and puts in symbols that
derive nothing, and both are few for each token. -/
def enough (tokens : Nat) : Nat := 256 * (tokens + 1)

/-- The derivation of a list of tokens. -/
def derive (ts : List Token) : Except Failure (Derivation rules (.n .program)) :=
  run table (enough ts.length) ⟨[], ts⟩

/-- The tree of a list of tokens. -/
def parse (ts : List Token) : Except Failure Node :=
  (derive ts).map (·.eval)

end Retype.Parser
