import Mathlib
import Retype.Proofs.Parse.Automaton

/-!
# The parser as a machine with values

`Parser.derive` keeps derivations on its stack and looks at their symbols when it reduces.  The
usual shift-reduce machine does neither.  Its stack holds values.  A reduction takes as many cells
off the stack as the right side is long, whatever they are, and runs the action of the production on
their values at once.  It makes no checks, and nothing bounds the number of its steps.

Both do the same, step by step, because a reduction always finds its right side on the stack.  So
the machine returns a tree exactly if the parser does, and the tree is the value of a derivation
whose leaves are the tokens.

The parser stops after a number of steps that depends on the number of tokens.  This never cuts a
run short that would return a tree: a run takes a step for each token and for each production of its
derivation, and a derivation has at most sixteen productions for each token, and three more.
-/

namespace Retype.Grammar

variable {g : Array Production}

/-! ## Size of derivations -/

mutual

/-- The number of productions in a derivation. -/
def Derivation.size {s : Symbol} : Derivation g s → Nat
  | .leaf _ => 0
  | .node _ parts => parts.size + 1

/-- The number of productions in derivations in a row. -/
def Derivations.size {ss : List Symbol} : Derivations g ss → Nat
  | .nil => 0
  | .cons first rest => first.size + rest.size

end

/-- How much smaller than sixteen for each token the derivations of a nonterminal are. -/
def Nonterminal.slack : Nonterminal → Int
  | .propRest => -7
  | .program => -3
  | .annotOpt | .boundOpt | .classBody | .extendsOpt | .fnTypeParams | .fromOpt | .ifaceExtendsOpt
  | .implementsOpt | .initOpt | .objectTypeBody | .optionalMark | .params | .returnOpt | .stmtList
  | .supertypeOpt | .typeArgsOpt | .typeDefaultOpt | .typeParamsOpt => -2
  | .empty => -1
  | .fnTypeParamList => 4
  | .classMember | .fnTypeParam | .typeList => 5
  | .memberDef | .paramList | .type => 6
  | .param | .unionType => 7
  | .declarators | .intersectionType => 8
  | .argList | .declarator | .prefixType | .simpleStmt | .typeParamList => 9
  | .arg | .arrowBody | .exprStmt | .ifaceRefList | .postfixType | .typeParam => 10
  | .expr | .ifaceRef | .patternProps | .primaryType => 11
  | .exportSpecs | .importSpecs | .patternProp | .postfixExpr => 12
  | .exportSpec | .importSpec | .member | .memberKey | .objectProps => 13
  | .binding | .declaration | .importClause | .objectProp | .objectTypeMembers | .primary
  | .propName | .specName | .stmt | .typeId => 14
  | _ => 15

/-- How much smaller than sixteen for each token the derivations of a symbol are. -/
def Symbol.slack : Symbol → Int
  | .t _ => 16
  | .n x => x.slack

theorem slack_rules : ∀ rule ∈ rules.toList,
    rule.lhs.slack + 1 ≤ (rule.rhs.map Symbol.slack).sum := by
  decide +kernel

mutual

theorem Derivation.size_le {s : Symbol} : (d : Derivation rules s) →
    (d.size : Int) + s.slack ≤ 16 * d.tokens.length
  | .leaf t => by
    have none : (Derivation.leaf t : Derivation rules (.t t.kind)).size = 0 := rfl
    simp [none, Symbol.slack, Derivation.tokens]
  | .node p parts => by
    have one : (Derivation.node p parts).size = parts.size + 1 := rfl
    have inner := parts.size_le
    have rule := slack_rules rules[p] (Array.getElem_mem_toList p.isLt)
    simp only [one, Symbol.slack, Derivation.tokens]
    omega

theorem Derivations.size_le {ss : List Symbol} : (ds : Derivations rules ss) →
    (ds.size : Int) + (ss.map Symbol.slack).sum ≤ 16 * ds.tokens.length
  | .nil => by simp [Derivations.size, Derivations.tokens]
  | .cons first rest => by
    have head := first.size_le
    have tail := rest.size_le
    simp only [Derivations.size, Derivations.tokens, List.map_cons, List.sum_cons,
      List.length_append]
    omega

end

end Retype.Grammar

namespace Retype.Parser

open Grammar

/-! ## Machines -/

namespace Machine

/-- A value on the stack, and the state behind it. -/
structure Cell where
  /-- The state. -/
  state : Nat
  /-- The symbol that the value belongs to. -/
  symbol : Symbol
  /-- The offset of the first token, if there is one. -/
  start? : Option Nat
  /-- The value. -/
  value : symbol.Value

/-- A stack, the top first, and the tokens to come. -/
structure Config where
  /-- The stack. -/
  stack : List Cell
  /-- The tokens to come. -/
  rest : List Token

/-- What one step leads to. -/
inductive Step where
  /-- Go on from a configuration. -/
  | next (config : Config)
  /-- The machine returns a tree. -/
  | done (tree : Node)
  /-- The machine cannot go on. -/
  | stuck

/-- The state of a stack. -/
def topState : List Cell → Nat
  | [] => 0
  | c :: _ => c.state

-- What an action takes for the value of a symbol if it finds another cell, or none.
variable (junk : Option Cell → (s : Symbol) → s.Value)

/-- The content of a cell where a value of some symbol is expected. -/
def Cell.content (c : Cell) (s : Symbol) : s.Value :=
  if h : c.symbol = s then h ▸ c.value else junk (some c) s

/-- The values that an action finds in cells. -/
def values : (ss : List Symbol) → List Cell → Grammar.Values ss
  | [], _ => ()
  | s :: ss, [] => (⟨0, junk none s⟩, values ss [])
  | s :: ss, c :: cs => (⟨(c.start?.getD 0 : Nat), c.content junk s⟩, values ss cs)

/-- Puts a token on the stack. -/
def shift (state : Nat) (c : Config) : Step :=
  match c.rest with
  | [] => .stuck
  | t :: rest => .next ⟨⟨state, .t t.kind, some t.pos, t⟩ :: c.stack, rest⟩

/-- Runs the action of a production on the cells on top of the stack. -/
def reduce (table : Table) (production : Nat) (c : Config) : Step :=
  match rules[production]? with
  | none => .stuck
  | some rule =>
    let cells := (c.stack.take rule.rhs.length).reverse
    let below := c.stack.drop rule.rhs.length
    match table.goto? (topState below) rule.lhs with
    | none => .stuck
    | some state =>
      .next ⟨⟨state, .n rule.lhs, cells.findSome? (·.start?),
        rule.action.apply rule.rhs (values junk rule.rhs cells)⟩ :: below, c.rest⟩

/-- Returns what is on top of the stack. -/
def accept (c : Config) : Step :=
  match c.stack with
  | [] => .stuck
  | cell :: _ => .done (cell.content junk (.n .program))

/-- One step of the machine. -/
def step (table : Table) (c : Config) : Step :=
  match table.move (topState c.stack) (c.rest.head?.map (·.kind)) with
  | .shift state => shift state c
  | .reduce production => reduce junk table production c
  | .accept => accept junk c
  | .reject => .stuck

/-- The tree that the machine returns within a number of steps. -/
def run (table : Table) : Nat → Config → Option Node
  | 0, _ => none
  | n + 1, c =>
    match step junk table c with
    | .next c => run table n c
    | .done tree => some tree
    | .stuck => none

end Machine

/-! ## Frames and cells -/

/-- The cell that stands for a frame. -/
def Frame.cell (f : Frame rules) : Machine.Cell := ⟨f.state, f.symbol, f.tree.start?, f.tree.eval⟩

/-- The configuration of the machine that stands for one of the parser. -/
def Config.machine (c : Config rules) : Machine.Config := ⟨c.stack.map Frame.cell, c.rest⟩

/-- What a step of the parser is to the machine. -/
def Step.machine : Step rules → Machine.Step
  | .next c => .next c.machine
  | .done tree => .done tree.eval
  | .stuck => .stuck

theorem topState_map_cell (stack : List (Frame rules)) :
    Machine.topState (stack.map Frame.cell) = topState stack := by
  cases stack <;> rfl

section Gather

variable (junk : Option Machine.Cell → (s : Symbol) → s.Value)

/-- The machine finds in the cells of frames the values of their derivations. -/
theorem gather_of_symbols {ss : List Symbol} {fs : List (Frame rules)}
    (symbols : fs.map (·.symbol) = ss) : ∃ parts, gather ss fs = some parts
      ∧ parts.values = Machine.values junk ss (fs.map Frame.cell)
      ∧ parts.start? = (fs.map Frame.cell).findSome? (·.start?) := by
  induction fs generalizing ss with
  | nil =>
    obtain rfl := symbols
    exact ⟨.nil, rfl, rfl, rfl⟩
  | cons f fs ih =>
    cases ss with
    | nil => cases symbols
    | cons s ss =>
      obtain ⟨rfl, others⟩ := List.cons.inj symbols
      obtain ⟨rest, gathers, values, start⟩ := ih others
      refine ⟨.cons f.tree rest, ?_, ?_, ?_⟩
      · rw [gather, dif_pos rfl, gathers]
        rfl
      · rw [Derivations.values, values, List.map_cons, Machine.values, Frame.cell,
          Machine.Cell.content, dif_pos rfl]
        rfl
      · rw [Derivations.start?, start, List.map_cons, List.findSome?_cons, Frame.cell]
        cases f.tree.start? <;> rfl

theorem shift_machine (state : Nat) (c : Config rules) :
    Machine.shift state c.machine = (shift state c).machine := by
  rcases c with ⟨stack, rest⟩
  cases rest <;> rfl

/-- A reduction of the machine is one of the parser if the right side is on the stack. -/
theorem reduce_machine {p : Nat} {c : Config rules} (bound : p < rules.size)
    (symbols : ((c.stack.take rules[p].rhs.length).reverse).map (·.symbol) = rules[p].rhs) :
    Machine.reduce junk table p c.machine = (reduce table p c).machine := by
  obtain ⟨parts, gathers, values, start⟩ := gather_of_symbols junk symbols
  unfold Machine.reduce reduce
  rw [dif_pos bound, Array.getElem?_eq_getElem bound]
  dsimp only [Config.machine, Fin.getElem_fin]
  rw [gathers, ← List.map_drop, topState_map_cell, ← List.map_take, ← List.map_reverse]
  cases table.goto? (topState (c.stack.drop rules[p].rhs.length)) rules[p].lhs with
  | none => rfl
  | some state =>
    dsimp only
    rw [← values, ← start]
    rfl

/-- The machine returns the value of a program if that is all there is on the stack. -/
theorem accept_machine {f : Frame rules} (isProgram : f.symbol = .n .program) (rest : List Token) :
    Machine.accept junk (Config.machine ⟨[f], rest⟩) = (accept ⟨[f], rest⟩).machine := by
  rcases f with ⟨state, symbol, tree⟩
  obtain rfl := isProgram
  rfl

/-- The machine does what the parser does. -/
theorem step_machine {c : Config rules} (path : Path c.stack) :
    Machine.step junk table c.machine = (step table c).machine := by
  unfold Machine.step step
  rw [show Machine.topState c.machine.stack = topState c.stack from topState_map_cell c.stack,
    show c.machine.rest = c.rest from rfl]
  cases moves : table.move (topState c.stack) (c.rest.head?.map (·.kind)) with
  | shift state => exact shift_machine state c
  | reduce p =>
    obtain ⟨bound, symbols⟩ := path.symbols_of_reduce moves
    exact reduce_machine junk bound symbols
  | accept =>
    obtain ⟨f, stack, isProgram⟩ := path.of_final (final_of_accept moves).1
    rcases c with ⟨_, rest⟩
    obtain rfl := stack
    exact accept_machine junk isProgram rest
  | reject => rfl

end Gather

/-! ## Steps -/

/-- The tokens below a stack, from the left. -/
def shifted (stack : List (Frame rules)) : List Token := stack.reverse.flatMap (·.tree.tokens)

/-- The number of productions on a stack. -/
def reduced (stack : List (Frame rules)) : Nat := (stack.map (·.tree.size)).sum

@[simp]
theorem shifted_cons (f : Frame rules) (stack : List (Frame rules)) :
    shifted (f :: stack) = shifted stack ++ f.tree.tokens := by
  simp [shifted]

@[simp]
theorem reduced_cons (f : Frame rules) (stack : List (Frame rules)) :
    reduced (f :: stack) = f.tree.size + reduced stack := rfl

theorem shifted_take_drop (stack : List (Frame rules)) (width : Nat) :
    shifted (stack.drop width) ++ shifted (stack.take width) = shifted stack := by
  rw [shifted, shifted, ← List.flatMap_append, ← List.reverse_append, List.take_append_drop,
    shifted]

theorem reduced_take_drop (stack : List (Frame rules)) (width : Nat) :
    reduced (stack.take width) + reduced (stack.drop width) = reduced stack := by
  rw [reduced, reduced, ← List.sum_append, ← List.map_append, List.take_append_drop, reduced]

/-- Derivations that are gathered from a stack have all its tokens and productions. -/
theorem of_gather {ss : List Symbol} {stack : List (Frame rules)} {parts : Derivations rules ss}
    (gathers : gather ss stack.reverse = some parts) :
    parts.tokens = shifted stack ∧ parts.size = reduced stack := by
  have row : ∀ {fs : List (Frame rules)} {ss} {parts : Derivations rules ss},
      gather ss fs = some parts → parts.tokens = fs.flatMap (·.tree.tokens)
        ∧ parts.size = (fs.map (·.tree.size)).sum := by
    intro fs
    induction fs with
    | nil =>
      intro ss parts gathers
      cases ss with
      | nil =>
        obtain rfl := Option.some.inj gathers
        exact ⟨rfl, rfl⟩
      | cons s ss => cases gathers
    | cons f fs ih =>
      intro ss parts gathers
      cases ss with
      | nil => cases gathers
      | cons s ss =>
        rw [gather] at gathers
        split at gathers
        next same =>
          obtain ⟨rest, inner, rfl⟩ := Option.map_eq_some_iff.mp gathers
          subst same
          obtain ⟨tokens, size⟩ := ih inner
          simp [Derivations.tokens, Derivations.size, tokens, size]
        next => cases gathers
  obtain ⟨tokens, size⟩ := row gathers
  exact ⟨tokens, by rw [size, List.map_reverse, List.sum_reverse, reduced]⟩

/-- What a step of the parser can do.  A reduction replaces the top of the stack. -/
inductive Effect (c : Config rules) : Step rules → Prop where
  | shift {state : Nat} {t : Token} {rest : List Token} (here : c.rest = t :: rest)
      (edge : table.Edge (topState c.stack) (.t t.kind) state) :
      Effect c (.next ⟨⟨state, .t t.kind, .leaf t⟩ :: c.stack, rest⟩)
  | reduce {state width n : Nat} {bound : n < rules.size} {parts : Derivations rules rules[n].rhs}
      (gathers : gather rules[n].rhs (c.stack.take width).reverse = some parts)
      (edge : table.Edge (topState (c.stack.drop width)) (.n rules[n].lhs) state) :
      Effect c (.next
        ⟨⟨state, .n rules[n].lhs, .node ⟨n, bound⟩ parts⟩ :: c.stack.drop width, c.rest⟩)
  | accept {state : Nat} {tree : Derivation rules (.n .program)}
      (stack : c.stack = [⟨state, .n .program, tree⟩]) (ended : c.rest = []) : Effect c (.done tree)
  | stuck : Effect c .stuck

theorem step_effect (c : Config rules) : Effect c (step table c) := by
  unfold step
  cases moves : table.move (topState c.stack) (c.rest.head?.map (·.kind)) with
  | shift state =>
    dsimp only
    unfold shift
    split
    next => exact .stuck
    next t rest here => exact .shift here (edge_of_shift (by simpa [here] using moves))
  | reduce p =>
    dsimp only
    unfold reduce
    split
    next bound =>
      dsimp only
      split
      next parts state gathers leads => exact .reduce gathers (edge_of_goto? leads)
      next => exact .stuck
    next => exact .stuck
  | accept =>
    have ended : c.rest = [] := by simpa using (final_of_accept moves).2
    dsimp only
    unfold accept
    split
    next f stack =>
      split
      next isProgram =>
        rcases f with ⟨state, symbol, tree⟩
        cases isProgram
        exact .accept stack ended
      next => exact .stuck
    next => exact .stuck
  | reject => exact .stuck

theorem Path.next {c c' : Config rules} (path : Path c.stack) (steps : step table c = .next c') :
    Path c'.stack := by
  have effect := step_effect c
  rw [steps] at effect
  cases effect with
  | shift here edge => exact .cons path edge
  | reduce gathers edge => exact .cons (path.drop _) edge

/-- A step keeps the tokens, and shifts one or reduces one production. -/
theorem step_next {c c' : Config rules} (steps : step table c = .next c') :
    shifted c'.stack ++ c'.rest = shifted c.stack ++ c.rest
      ∧ reduced c.stack ≤ reduced c'.stack
      ∧ c'.rest.length + reduced c.stack + 1 = c.rest.length + reduced c'.stack := by
  have effect := step_effect c
  rw [steps] at effect
  cases effect with
  | @shift state t rest here edge =>
    have none : (Derivation.leaf t : Derivation rules (.t t.kind)).size = 0 := rfl
    refine ⟨by simp [here, Derivation.tokens], by simp, ?_⟩
    simp only [here, reduced_cons, none, List.length_cons]
    omega
  | @reduce state width n bound parts gathers edge =>
    have one : (Derivation.node ⟨n, bound⟩ parts).size = parts.size + 1 := rfl
    obtain ⟨tokens, size⟩ := of_gather gathers
    have productions := reduced_take_drop c.stack width
    simp only [shifted_cons, reduced_cons, Derivation.tokens, one, tokens, size,
      shifted_take_drop, true_and]
    omega

/-- The tokens of what the parser returns are those of the stack and those to come.  It returns the
same within any number of steps that is enough for the tokens and productions that are missing. -/
theorem run_eq_ok {n : Nat} {c : Config rules} {d : Derivation rules (.n .program)}
    (returns : run table n c = .ok d) : d.tokens = shifted c.stack ++ c.rest
      ∧ reduced c.stack ≤ d.size
      ∧ ∀ m, c.rest.length + d.size < m + reduced c.stack → run table m c = .ok d := by
  induction n generalizing c with
  | zero => cases returns
  | succ n ih =>
    rw [run] at returns
    split at returns
    next c' steps =>
      obtain ⟨tokens, least, more⟩ := ih returns
      obtain ⟨same, grows, less⟩ := step_next steps
      refine ⟨tokens.trans same, by omega, ?_⟩
      intro m fits
      cases m with
      | zero => omega
      | succ m =>
        rw [run, steps]
        exact more m (by omega)
    next tree steps =>
      obtain rfl := Except.ok.inj returns
      have effect := step_effect c
      rw [steps] at effect
      cases effect with
      | accept stack ended =>
        refine ⟨by simp [stack, ended, shifted], by simp [stack, reduced], ?_⟩
        intro m fits
        cases m with
        | zero =>
          simp only [stack, ended, reduced, List.map_cons, List.map_nil, List.sum_cons, List.sum_nil]
            at fits
          omega
        | succ m => rw [run, steps]
    next => cases returns

/-- The bound on the steps never keeps the parser from returning a derivation. -/
theorem derive_of_run {n : Nat} {ts : List Token} {d : Derivation rules (.n .program)}
    (returns : run table n ⟨[], ts⟩ = .ok d) : derive ts = .ok d := by
  obtain ⟨tokens, -, more⟩ := run_eq_ok returns
  have size := d.size_le
  have slack : (Symbol.n .program).slack = -3 := rfl
  rw [tokens, slack] at size
  apply more
  simp only [shifted, reduced, enough, List.reverse_nil, List.flatMap_nil, List.nil_append,
    List.map_nil, List.sum_nil] at size ⊢
  omega

/-- The machine returns the value of the derivation that the parser returns. -/
theorem run_machine (junk : Option Machine.Cell → (s : Symbol) → s.Value) {n : Nat}
    {c : Config rules} (path : Path c.stack) {tree : Node} :
    Machine.run junk table n c.machine = some tree ↔ ∃ d, run table n c = .ok d ∧ d.eval = tree := by
  induction n generalizing c with
  | zero => simp [Machine.run, run]
  | succ n ih =>
    rw [Machine.run, run, step_machine junk path]
    cases steps : step table c with
    | next c' => exact ih (path.next steps)
    | done d => simp [Step.machine]
    | stuck => simp [Step.machine]

theorem parse_eq_ok_iff {ts : List Token} {tree : Node} :
    parse ts = .ok tree ↔ ∃ d, derive ts = .ok d ∧ d.eval = tree := by
  rw [parse]
  cases derive ts <;> simp [Except.map]

/-- The machine returns a tree exactly if the parser does.  The tree is then the value of the actions
along a derivation of a program, and the leaves of the derivation are the tokens. -/
theorem machine_returns_iff (junk : Option Machine.Cell → (s : Symbol) → s.Value)
    (ts : List Token) (tree : Node) :
    ((∃ n, Machine.run junk table n ⟨[], ts⟩ = some tree) ↔ parse ts = .ok tree)
      ∧ (parse ts = .ok tree ↔
        ∃ d : Derivation rules (.n .program), derive ts = .ok d ∧ d.tokens = ts ∧ d.eval = tree) := by
  have machine {n : Nat} : Machine.run junk table n ⟨[], ts⟩ = some tree ↔
      ∃ d, run table n ⟨[], ts⟩ = .ok d ∧ d.eval = tree := run_machine (c := ⟨[], ts⟩) junk .nil
  rw [parse_eq_ok_iff]
  refine ⟨⟨?_, ?_⟩, ?_, ?_⟩
  · rintro ⟨n, returns⟩
    obtain ⟨d, runs, value⟩ := machine.mp returns
    exact ⟨d, derive_of_run runs, value⟩
  · intro parses
    exact ⟨enough ts.length, machine.mpr parses⟩
  · rintro ⟨d, derives, value⟩
    exact ⟨d, derives, (run_eq_ok derives).1, value⟩
  · rintro ⟨d, derives, -, value⟩
    exact ⟨d, derives, value⟩

end Retype.Parser
