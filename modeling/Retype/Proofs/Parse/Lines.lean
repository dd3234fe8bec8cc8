import Retype.Proofs.Parse.Machine
import Retype.Proofs.Token.LineBreak

/-!
# The parser does not look at lines

A move of the parser depends on the kind of the next token, a failure on its text, kind and offset, and
the actions of the productions use nothing but texts and offsets of tokens (`rules_blind`).  So tokens
without their lines are parsed like the tokens (`parse_unlined`).
-/

namespace Retype.Grammar

variable {g : Array Production}

/-! ## Values without lines -/

/-- A value of a symbol without lines.  Only tokens have lines. -/
def Symbol.unlined : (s : Symbol) → s.Value → s.Value
  | .t _, token => Token.unlined token
  | .n _, v => v

/-- Values of symbols in a row without lines. -/
def Values.unlined : (ss : List Symbol) → Values ss → Values ss
  | [], _ => ()
  | s :: ss, (v, vs) => (⟨v.pos, s.unlined v.val⟩, Values.unlined ss vs)

/-- A production builds the same value if its tokens are on other lines. -/
def Production.Blind (p : Production) : Prop := ∀ vs : Values p.rhs,
  Action.apply p.rhs p.action (Values.unlined p.rhs vs) = Action.apply p.rhs p.action vs

section Productions

set_option maxRecDepth 4000

theorem programs_blind : ∀ p ∈ programs, p.Blind := by
  simp only [programs, List.forall_mem_cons, List.not_mem_nil, false_implies, implies_true, and_true]
  repeat' apply And.intro
  all_goals exact fun _ => rfl

theorem declarations_blind : ∀ p ∈ declarations, p.Blind := by
  simp only [declarations, List.forall_mem_cons, List.not_mem_nil, false_implies, implies_true, and_true]
  repeat' apply And.intro
  all_goals exact fun _ => rfl

theorem types_blind : ∀ p ∈ types, p.Blind := by
  simp only [types, List.forall_mem_cons, List.not_mem_nil, false_implies, implies_true, and_true]
  repeat' apply And.intro
  all_goals exact fun _ => rfl

theorem statements_blind : ∀ p ∈ statements, p.Blind := by
  simp only [statements, List.forall_mem_cons, List.not_mem_nil, false_implies, implies_true, and_true]
  repeat' apply And.intro
  all_goals exact fun _ => rfl

theorem expressions_blind : ∀ p ∈ expressions, p.Blind := by
  simp only [expressions, List.forall_mem_cons, List.not_mem_nil, false_implies, implies_true, and_true]
  repeat' apply And.intro
  all_goals exact fun _ => rfl

end Productions

theorem rules_blind : ∀ p ∈ rules.toList, p.Blind := by
  intro p member
  have member : p ∈ programs ++ declarations ++ types ++ statements ++ expressions := member
  simp only [List.mem_append, or_assoc] at member
  rcases member with inPrograms | inDeclarations | inTypes | inStatements | inExpressions
  · exact programs_blind _ inPrograms
  · exact declarations_blind _ inDeclarations
  · exact types_blind _ inTypes
  · exact statements_blind _ inStatements
  · exact expressions_blind _ inExpressions

/-! ## Derivations without lines -/

mutual

/-- A derivation of tokens without their lines. -/
def Derivation.unlined {s : Symbol} : Derivation g s → Derivation g s
  | .leaf t => .leaf t.unlined
  | .node p parts => .node p parts.unlined

/-- Derivations in a row of tokens without their lines. -/
def Derivations.unlined {ss : List Symbol} : Derivations g ss → Derivations g ss
  | .nil => .nil
  | .cons first rest => .cons first.unlined rest.unlined

end

mutual

theorem Derivation.start?_unlined {s : Symbol} : (d : Derivation g s) → d.unlined.start? = d.start?
  | .leaf _ => rfl
  | .node _ parts => parts.start?_unlined

theorem Derivations.start?_unlined {ss : List Symbol} : (ds : Derivations g ss) → ds.unlined.start? = ds.start?
  | .nil => rfl
  | .cons first rest => by
    rw [Derivations.unlined, Derivations.start?, Derivations.start?, first.start?_unlined, rest.start?_unlined]

end

mutual

theorem Derivation.eval_unlined {s : Symbol} : (d : Derivation rules s) → d.unlined.eval = s.unlined d.eval
  | .leaf _ => rfl
  | .node p parts => by
    have blind := rules_blind rules[p] (Array.getElem_mem_toList p.isLt) parts.values
    show Action.apply rules[p].rhs rules[p].action parts.unlined.values
      = Action.apply rules[p].rhs rules[p].action parts.values
    rw [parts.values_unlined, blind]

theorem Derivations.values_unlined {ss : List Symbol} : (ds : Derivations rules ss) →
    ds.unlined.values = Values.unlined ss ds.values
  | .nil => rfl
  | .cons first rest => by
    have start : first.unlined.start = first.start := by rw [Derivation.start, first.start?_unlined, Derivation.start]
    rw [Derivations.unlined, Derivations.values, Derivations.values, first.eval_unlined, rest.values_unlined, start]
    rfl

end

end Retype.Grammar

namespace Retype.Parser

open Grammar

variable {g : Array Production}

/-! ## Runs without lines -/

/-- A frame of tokens without their lines. -/
def Frame.unlined (f : Frame g) : Frame g := { f with tree := f.tree.unlined }

/-- A configuration of tokens without their lines. -/
def Config.unlined (c : Config g) : Config g := ⟨c.stack.map Frame.unlined, c.rest.map Token.unlined⟩

/-- What a step leads to, without lines. -/
def Step.unlined : Step g → Step g
  | .next c => .next c.unlined
  | .done tree => .done tree.unlined
  | .stuck => .stuck

theorem topState_unlined (stack : List (Frame g)) : topState (stack.map Frame.unlined) = topState stack := by
  cases stack <;> rfl

theorem gather_unlined (ss : List Symbol) (fs : List (Frame g)) :
    gather ss (fs.map Frame.unlined) = (gather ss fs).map Derivations.unlined := by
  induction fs generalizing ss with
  | nil => cases ss <;> rfl
  | cons f fs ih =>
    cases ss with
    | nil => rfl
    | cons s ss =>
      have symbol : f.unlined.symbol = f.symbol := rfl
      by_cases same : f.symbol = s
      · subst same
        rw [List.map_cons, gather, gather, dif_pos symbol, dif_pos rfl, ih, Option.map_map, Option.map_map]
        rfl
      · rw [List.map_cons, gather, gather, dif_neg same, dif_neg (symbol ▸ same)]
        rfl

theorem shift_unlined (state : Nat) (c : Config g) : shift state c.unlined = (shift state c).unlined := by
  obtain ⟨stack, rest⟩ := c
  cases rest <;> rfl

theorem reduce_unlined (table : Table) (production : Nat) (c : Config g) :
    reduce table production c.unlined = (reduce table production c).unlined := by
  by_cases bound : production < g.size
  · simp only [reduce, dif_pos bound, Config.unlined, ← List.map_drop, ← List.map_take, ← List.map_reverse,
      gather_unlined, topState_unlined]
    cases gather g[production].rhs (c.stack.take g[production].rhs.length).reverse with
    | none => rfl
    | some parts =>
      cases table.goto? (topState (c.stack.drop g[production].rhs.length)) g[production].lhs <;> rfl
  · rw [reduce, reduce, dif_neg bound, dif_neg bound]
    rfl

theorem accept_unlined (c : Config g) : accept c.unlined = (accept c).unlined := by
  obtain ⟨stack, rest⟩ := c
  rcases stack with - | ⟨f, - | ⟨f', stack⟩⟩
  · rfl
  · by_cases whole : f.symbol = .n .program
    · obtain ⟨state, symbol, tree⟩ := f
      dsimp only at whole
      subst whole
      rfl
    · have whole' : ¬f.unlined.symbol = .n .program := whole
      simp only [accept, Config.unlined, List.map_cons, List.map_nil, dif_neg whole, dif_neg whole']
      rfl
  · rfl

theorem step_unlined (table : Table) (c : Config g) : step table c.unlined = (step table c).unlined := by
  have next : c.unlined.rest.head?.map (·.kind) = c.rest.head?.map (·.kind) := by
    obtain ⟨stack, rest⟩ := c
    cases rest <;> rfl
  have state : topState c.unlined.stack = topState c.stack := topState_unlined c.stack
  rw [step, step, next, state]
  cases table.move (topState c.stack) (c.rest.head?.map (·.kind)) with
  | shift state => exact shift_unlined state c
  | reduce production => exact reduce_unlined table production c
  | accept => exact accept_unlined c
  | reject => rfl

theorem failure_unlined (ts : List Token) : failure (ts.map Token.unlined) = failure ts := by
  cases ts <;> rfl

theorem run_unlined (table : Table) (n : Nat) (c : Config g) :
    run table n c.unlined = (run table n c).map Derivation.unlined := by
  induction n generalizing c with
  | zero => exact congrArg Except.error (failure_unlined c.rest)
  | succ n ih =>
    rw [run, run, step_unlined]
    cases step table c with
    | next c => exact ih c
    | done tree => rfl
    | stuck => exact congrArg Except.error (failure_unlined c.rest)

/-- Tokens on other lines are parsed to the same tree, or to the same failure. -/
theorem parse_unlined (ts : List Token) : parse (ts.map Token.unlined) = parse ts := by
  have runs := run_unlined (g := rules) table (enough ts.length) ⟨[], ts⟩
  change run table (enough ts.length) ⟨[], ts.map Token.unlined⟩ = _ at runs
  rw [parse, parse, derive, derive, List.length_map, runs]
  cases run table (enough ts.length) ⟨[], ts⟩ with
  | error e => rfl
  | ok d => exact congrArg Except.ok d.eval_unlined

end Retype.Parser
