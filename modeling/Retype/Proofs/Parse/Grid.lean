import Retype.Program

/-!
# Tables in rows

A look-up in a long list takes as many steps as the place says.  In a *grid*, a list cut into rows of
one width, it takes as many as there are rows and columns.  What `Grid.get?` finds is what the list
holds at the place (`get?_ofList`).

The tables of the parser are long lists.  With grids for them the parser does the same in fewer steps
(`Source.parse_eq_parseByGrid`), so that it can be run on a text inside a proof.
-/

namespace Retype

/-! ## Grids -/

/-- A list in rows of one width. -/
structure Grid (α : Type) where
  /-- The width of a row. -/
  width : Nat
  /-- The rows. -/
  rows : List (List α)

namespace Grid

variable {α : Type}

/-- The first rows of a list. -/
def cut (width : Nat) : (count : Nat) → List α → List (List α)
  | 0, _ => []
  | count + 1, xs => xs.take width :: cut width count (xs.drop width)

/-- The grid of a list, with as many rows as columns. -/
def ofList (width : Nat) (xs : List α) : Grid α := ⟨width, cut width width xs⟩

/-- What stands at a place. -/
def get? (grid : Grid α) (i : Nat) : Option α :=
  (grid.rows[i / grid.width]?).bind (·[i % grid.width]?)

theorem get?_cut {width : Nat} (wide : 0 < width) {count : Nat} (xs : List α)
    (fits : xs.length ≤ width * count) (i : Nat) :
    get? ⟨width, cut width count xs⟩ i = xs[i]? := by
  induction count generalizing xs i with
  | zero =>
    obtain rfl := List.eq_nil_of_length_eq_zero (Nat.le_zero.mp fits)
    rfl
  | succ count ih =>
    by_cases first : i < width
    · simp [get?, cut, Nat.div_eq_of_lt first, Nat.mod_eq_of_lt first, first]
    · have later := ih (xs.drop width) (by rw [List.length_drop]; grind) (i - width)
      rw [List.getElem?_drop, Nat.add_sub_cancel' (by omega)] at later
      have row : i / width = (i - width) / width + 1 := Nat.div_eq_sub_div wide (by omega)
      have column : i % width = (i - width) % width := Nat.mod_eq_sub_mod (by omega)
      rw [← later, get?, cut, row, column, List.getElem?_cons_succ, get?]

theorem get?_ofList {width : Nat} (wide : 0 < width) {xs : List α} (fits : xs.length ≤ width * width)
    (i : Nat) : (ofList width xs).get? i = xs[i]? :=
  get?_cut wide xs fits i

end Grid

/-! ## Tables -/

namespace Grammar

/-- A parser table in grids. -/
structure GridTable where
  /-- The rows of shifts. -/
  shifts : Grid (List (TokenKind × Nat))
  /-- The rows of moves. -/
  moves : Grid (List (Nonterminal × Nat))
  /-- The states. -/
  states : Grid State
  /-- The state that accepts at the end of the tokens. -/
  final : Nat

namespace GridTable

/-- What to do in a state before a token, or before the end. -/
def move (grids : GridTable) (state : Nat) (next : Option TokenKind) : Move :=
  match grids.states.get? state with
  | none => .reject
  | some s =>
    match next with
    | none => if state = grids.final then .accept else Table.reduction s none
    | some k =>
      match (grids.shifts.get? s.shifts).bind (·.lookup k) with
      | some target => .shift target
      | none => Table.reduction s (some k)

/-- Where a nonterminal leads to. -/
def goto? (grids : GridTable) (state : Nat) (x : Nonterminal) : Option Nat :=
  (grids.states.get? state).bind fun s => (grids.moves.get? s.moves).bind (·.lookup x)

/-- The grids hold what a table holds. -/
structure Holds (grids : GridTable) (table : Table) : Prop where
  shifts : ∀ i, grids.shifts.get? i = table.shifts[i]?
  moves : ∀ i, grids.moves.get? i = table.moves[i]?
  states : ∀ i, grids.states.get? i = table.states[i]?
  final : grids.final = table.final

variable {grids : GridTable} {table : Table}

theorem Holds.move (holds : grids.Holds table) (state : Nat) (next : Option TokenKind) :
    grids.move state next = table.move state next := by
  rw [GridTable.move, Table.move, holds.states]
  cases table.states[state]? with
  | none => rfl
  | some s =>
    cases next with
    | none => simp only [holds.final]
    | some k =>
      have same : (grids.shifts.get? s.shifts).bind (·.lookup k) = table.shift? s k := by
        simp only [Table.shift?, holds.shifts]
      cases found : table.shift? s k <;> simp only [same, found]

theorem Holds.goto? (holds : grids.Holds table) (state : Nat) (x : Nonterminal) :
    grids.goto? state x = table.goto? state x := by
  simp only [GridTable.goto?, holds.states, holds.moves]
  rfl

end GridTable

/-- The table of the parser in grids. -/
def grids : GridTable where
  shifts := .ofList 15 table.shifts.toList
  moves := .ofList 17 table.moves.toList
  states := .ofList 28 table.states.toList
  final := table.final

theorem grids_holds : grids.Holds table where
  shifts i := by rw [grids, Grid.get?_ofList (by decide) (by decide +kernel), Array.getElem?_toList]
  moves i := by rw [grids, Grid.get?_ofList (by decide) (by decide +kernel), Array.getElem?_toList]
  states i := by rw [grids, Grid.get?_ofList (by decide) (by decide +kernel), Array.getElem?_toList]
  final := rfl

end Grammar

/-! ## The parser -/

namespace Parser

open Grammar

variable {g : Array Production}

/-- Replaces the right side of a production on the stack by its left side. -/
def reduceByGrids (grids : GridTable) (production : Nat) (c : Config g) : Step g :=
  if h : production < g.size then
    let p : Fin g.size := ⟨production, h⟩
    let width := g[p].rhs.length
    let below := c.stack.drop width
    match gather g[p].rhs (c.stack.take width).reverse, grids.goto? (topState below) g[p].lhs with
    | some parts, some state => .next ⟨⟨state, .n g[p].lhs, .node p parts⟩ :: below, c.rest⟩
    | _, _ => .stuck
  else .stuck

/-- One step of the parser. -/
def stepByGrids (grids : GridTable) (c : Config g) : Step g :=
  match grids.move (topState c.stack) (c.rest.head?.map (·.kind)) with
  | .shift state => shift state c
  | .reduce production => reduceByGrids grids production c
  | .accept => accept c
  | .reject => .stuck

/-- Runs the parser for at most a number of steps. -/
def runByGrids (grids : GridTable) : Nat → Config g → Except Failure (Derivation g (.n .program))
  | 0, c => .error (failure c.rest)
  | n + 1, c =>
    match stepByGrids grids c with
    | .next c => runByGrids grids n c
    | .done tree => .ok tree
    | .stuck => .error (failure c.rest)

variable {grids : GridTable} {table : Table}

theorem stepByGrids_eq (holds : grids.Holds table) (c : Config g) :
    stepByGrids grids c = step table c := by
  simp only [stepByGrids, reduceByGrids, step, holds.move, holds.goto?]
  rfl

theorem runByGrids_eq (holds : grids.Holds table) (n : Nat) (c : Config g) :
    runByGrids grids n c = run table n c := by
  induction n generalizing c with
  | zero => rfl
  | succ n ih =>
    rw [runByGrids, run, stepByGrids_eq holds]
    cases step table c with
    | next c => exact ih c
    | done tree => rfl
    | stuck => rfl

/-- The tree of a list of tokens. -/
def parseByGrids (ts : List Token) : Except Failure Node :=
  (runByGrids Grammar.grids (enough ts.length) ⟨[], ts⟩ : Except Failure (Derivation rules _)).map
    (·.eval)

theorem parse_eq_parseByGrids (ts : List Token) : parse ts = parseByGrids ts := by
  rw [parse, derive, parseByGrids, runByGrids_eq grids_holds]

end Parser

/-- The tree of a source text. -/
def Source.parseByGrids (src : Source) : Except Failure Node := do
  let found ← Stream.read src.text.toList
  let tree ← Parser.parseByGrids found.tokens
  return Comments.attach src found.comments tree

theorem Source.parse_eq_parseByGrids (src : Source) : src.parse = src.parseByGrids := by
  simp only [Source.parse, Source.parseByGrids, Parser.parse_eq_parseByGrids]

end Retype
