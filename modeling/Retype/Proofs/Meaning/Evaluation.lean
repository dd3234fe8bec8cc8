import Retype.Proofs.Pass.Desugar

/-!
# Evaluation

An *evaluation* says what expressions come to: a value or an error, depending on an environment.
It is compositional and without side effects.  The meaning of a node is a function of the meanings
of its parts, and neither offsets nor comments have a part in it.

The constructs that take the place of `??` and `?.` have the meaning that they have in JavaScript:
`null`, `undefined`, `===`, `!==`, `&&`, `||`, `?:` and parentheses.  So has `??` itself.  Every
other construct, statements and types among them, means whatever the evaluation says.

A meaning may say more than what an expression comes to, for example that a chain was cut short.
An evaluation whose meanings are results and nothing else is `Evaluation.ofResults`.
-/

namespace Retype

open Passes (coalesce shortCircuit nullTest undefinedAt)

/-! ## Values and results -/

/-- Values with `null`, `undefined` and truth values. -/
structure Values (V : Type) where
  /-- The value of `null`. -/
  null : V
  /-- The value of `undefined`. -/
  undefined : V
  /-- The truth values. -/
  bool : Bool → V
  /-- Whether a value counts as true where one is tested. -/
  isTrue : V → Bool
  /-- Strict equality. -/
  isSame : V → V → Bool
  isTrue_bool : ∀ b, isTrue (bool b) = b
  isSame_null : ∀ v, isSame v null = true ↔ v = null
  isSame_undefined : ∀ v, isSame v undefined = true ↔ v = undefined

/-- The values that every source has: `undefined`, `null` and the truth values. -/
def Values.basic : Values (Option (Option Bool)) where
  null := some none
  undefined := none
  bool b := some (some b)
  isTrue v := v = some (some true)
  isSame v w := v = w
  isTrue_bool b := by cases b <;> rfl
  isSame_null v := decide_eq_true_iff
  isSame_undefined v := decide_eq_true_iff

/-- What an expression comes to in an environment. -/
abbrev Result (Env E V : Type) : Type := Env → Except E V

namespace Values

variable {Env E V : Type} (vs : Values V)

/-- A value that stands for the absence of one. -/
def Missing (v : V) : Prop := v = vs.null ∨ v = vs.undefined

instance [DecidableEq V] (v : V) : Decidable (vs.Missing v) := inferInstanceAs (Decidable (_ ∨ _))

/-- `l === r`. -/
def same (l r : Result Env E V) : Result Env E V := fun env => do
  let x ← l env
  let y ← r env
  return vs.bool (vs.isSame x y)

/-- `l !== r`. -/
def differ (l r : Result Env E V) : Result Env E V := fun env => do
  let x ← l env
  let y ← r env
  return vs.bool (!vs.isSame x y)

/-- `l && r`. -/
def both (l r : Result Env E V) : Result Env E V := fun env => do
  let x ← l env
  if vs.isTrue x then r env else return x

/-- `l || r`. -/
def either (l r : Result Env E V) : Result Env E V := fun env => do
  let x ← l env
  if vs.isTrue x then return x else r env

/-- `test ? cons : alt`. -/
def choose (test cons alt : Result Env E V) : Result Env E V := fun env => do
  let x ← test env
  if vs.isTrue x then cons env else alt env

/-- `l ?? r`. -/
def orElse [DecidableEq V] (l r : Result Env E V) : Result Env E V := fun env => do
  let x ← l env
  if vs.Missing x then r env else return x

/-- One result or another, depending on whether the value of a third is missing. -/
def ifMissing [DecidableEq V] (l missing present : Result Env E V) : Result Env E V := fun env => do
  let x ← l env
  if vs.Missing x then missing env else present env

theorem ifMissing_self [DecidableEq V] (l r : Result Env E V) : vs.ifMissing l r l = vs.orElse l r := by
  funext env
  cases found : l env with
  | error e => simp only [ifMissing, orElse, found, bind, Except.bind]
  | ok v => simp only [ifMissing, orElse, found, bind, Except.bind, pure, Except.pure]

theorem isSame_null_eq [DecidableEq V] (v : V) : vs.isSame v vs.null = decide (v = vs.null) := by
  rw [Bool.eq_iff_iff, vs.isSame_null, decide_eq_true_iff]

theorem isSame_undefined_eq [DecidableEq V] (v : V) :
    vs.isSame v vs.undefined = decide (v = vs.undefined) := by
  rw [Bool.eq_iff_iff, vs.isSame_undefined, decide_eq_true_iff]

/-- The test that a value is there. -/
theorem both_differ [DecidableEq V] (l : Result Env E V) (env : Env) :
    vs.both (vs.differ l fun _ => .ok vs.null) (vs.differ l fun _ => .ok vs.undefined) env
      = (l env).map fun v => vs.bool (!decide (vs.Missing v)) := by
  cases found : l env with
  | error e => simp [both, differ, found, bind, Except.bind, Except.map]
  | ok v =>
    by_cases isNull : v = vs.null
    · simp [both, differ, found, bind, Except.bind, pure, Except.pure, Except.map, Missing,
        vs.isSame_null_eq, vs.isTrue_bool, isNull]
    · simp [both, differ, found, bind, Except.bind, pure, Except.pure, Except.map, Missing,
        vs.isSame_null_eq, vs.isSame_undefined_eq, vs.isTrue_bool, isNull]

/-- The test that a value is missing. -/
theorem either_same [DecidableEq V] (l : Result Env E V) (env : Env) :
    vs.either (vs.same l fun _ => .ok vs.null) (vs.same l fun _ => .ok vs.undefined) env
      = (l env).map fun v => vs.bool (decide (vs.Missing v)) := by
  cases found : l env with
  | error e => simp [either, same, found, bind, Except.bind, Except.map]
  | ok v =>
    by_cases isNull : v = vs.null
    · simp [either, same, found, bind, Except.bind, pure, Except.pure, Except.map, Missing,
        vs.isSame_null_eq, vs.isTrue_bool, isNull]
    · simp [either, same, found, bind, Except.bind, pure, Except.pure, Except.map, Missing,
        vs.isSame_null_eq, vs.isSame_undefined_eq, vs.isTrue_bool, isNull]

/-- Choosing by the test that a value is there. -/
theorem choose_present [DecidableEq V] (l cons alt : Result Env E V) :
    vs.choose (vs.both (vs.differ l fun _ => .ok vs.null) (vs.differ l fun _ => .ok vs.undefined))
      cons alt = vs.ifMissing l alt cons := by
  funext env
  rw [choose, both_differ, ifMissing]
  cases l env with
  | error e => rfl
  | ok v => by_cases missing : vs.Missing v <;>
      simp [Except.map, bind, Except.bind, vs.isTrue_bool, missing]

/-- Choosing by the test that a value is missing. -/
theorem choose_missing [DecidableEq V] (l cons alt : Result Env E V) :
    vs.choose (vs.either (vs.same l fun _ => .ok vs.null) (vs.same l fun _ => .ok vs.undefined))
      cons alt = vs.ifMissing l cons alt := by
  funext env
  rw [choose, either_same, ifMissing]
  cases l env with
  | error e => rfl
  | ok v => simp [Except.map, bind, Except.bind, vs.isTrue_bool]

end Values

/-! ## Evaluations -/

/-- A compositional evaluation without side effects. -/
structure Evaluation (Env E V : Type) extends Values V where
  /-- What a node means. -/
  Meaning : Type
  /-- What an expression of a meaning comes to. -/
  result : Meaning → Result Env E V
  /-- The meaning of an expression that comes to a result, and of which nothing else is known. -/
  ofResult : Result Env E V → Meaning
  /-- The meaning of an expression between parentheses. -/
  group : Meaning → Meaning
  /-- The meaning of every other construct. -/
  other : Form Meaning → Meaning
  result_ofResult : ∀ r, result (ofResult r) = r
  result_group : ∀ m, result (group m) = result m

namespace Evaluation

variable {Env E V : Type}

/-- The evaluation in which every construct other than those above is a function of the results of
its parts. -/
def ofResults (vs : Values V) (other : Form (Result Env E V) → Result Env E V) :
    Evaluation Env E V where
  toValues := vs
  Meaning := Result Env E V
  result := id
  ofResult := id
  group := id
  other := other
  result_ofResult _ := rfl
  result_group _ := rfl

variable [DecidableEq V] (e : Evaluation Env E V)

/-- What an operator between two operands comes to, for the operators with a fixed meaning. -/
def operator? : BinaryOp → Option (Result Env E V → Result Env E V → Result Env E V)
  | .strictEq => some e.same
  | .strictNe => some e.differ
  | .and => some e.both
  | .or => some e.either
  | .nullish => some e.orElse
  | _ => none

/-- The meaning of an expression, given the meanings of its parts. -/
def expr : ExprForm e.Meaning → e.Meaning
  | .null => e.ofResult fun _ => .ok e.null
  | .ident name =>
    if name = "undefined" then e.ofResult fun _ => .ok e.undefined else e.other (.expr (.ident name))
  | .binary op l r =>
    match e.operator? op with
    | some operator => e.ofResult (operator (e.result l) (e.result r))
    | none => e.other (.expr (.binary op l r))
  | .cond test cons alt =>
    e.ofResult (e.choose (e.result test) (e.result cons) (e.result alt))
  | .paren m => e.group m
  | f => e.other (.expr f)

/-- The meaning of a layer, given the meanings of its children. -/
def layer : Form e.Meaning → e.Meaning
  | .expr f => e.expr f
  | f => e.other f

/-- The meaning of a node. -/
def eval (n : Node) : e.Meaning := n.fold fun _ => e.layer

theorem eval_eq (n : Node) : e.eval n = e.layer (n.form.map e.eval) := n.fold_eq _

/-- Comments have no meaning. -/
theorem eval_marked (n : Node) (inside : Bool) (new : Node) :
    e.eval (Passes.marked n inside new) = e.eval new := by
  unfold Passes.marked
  split
  · rfl
  · rw [eval_eq, eval_eq]
    rfl

/-! ## Built expressions -/

section Built

variable (pos : Int)

theorem eval_expr (f : ExprForm Node) : e.eval (.expr pos f) = e.expr (f.map e.eval) := e.eval_eq _

@[simp]
theorem eval_undefinedAt : e.eval (undefinedAt pos) = e.ofResult fun _ => .ok e.undefined :=
  e.eval_expr pos _

@[simp]
theorem eval_null : e.eval (.expr pos .null) = e.ofResult fun _ => .ok e.null := e.eval_expr pos _

theorem eval_cond (test cons alt : Node) : e.eval (.expr pos (.cond test cons alt))
    = e.ofResult (e.choose (e.result (e.eval test)) (e.result (e.eval cons))
      (e.result (e.eval alt))) := e.eval_expr pos _

theorem eval_paren (n : Node) : e.eval (.expr pos (.paren n)) = e.group (e.eval n) :=
  e.eval_expr pos _

theorem eval_binary {op : BinaryOp} {operator} (fixed : e.operator? op = some operator)
    (l r : Node) : e.eval (.expr pos (.binary op l r))
      = e.ofResult (operator (e.result (e.eval l)) (e.result (e.eval r))) := by
  rw [eval_expr]
  simp only [ExprForm.map, ExprForm.mapM, pure_bind, Id.run_pure, expr, fixed]

/-- What a test comes to, from what the tested expression comes to. -/
theorem result_nullTest {join compare : BinaryOp} {joined compared}
    (joins : e.operator? join = some joined) (compares : e.operator? compare = some compared)
    (n : Node) :
    e.result (e.eval (nullTest pos join compare n))
      = joined (compared (e.result (e.eval n)) fun _ => .ok e.null)
        (compared (e.result (e.eval n)) fun _ => .ok e.undefined) := by
  simp only [nullTest, eval_paren, result_group, e.eval_binary pos joins, e.eval_binary pos compares,
    result_ofResult, eval_null, eval_undefinedAt]

/-- The conditional expression for `??` means what `??` means. -/
theorem eval_coalesce (left right : Node) : e.eval (coalesce pos left right)
    = e.ofResult (e.orElse (e.result (e.eval left)) (e.result (e.eval right))) := by
  rw [coalesce, eval_cond, e.result_nullTest pos rfl rfl, e.choose_present, e.ifMissing_self]

/-- The conditional expression for `?.` comes to `undefined` if the tested object is missing, and to
what the rebuilt chain comes to otherwise. -/
theorem eval_shortCircuit (object chain : Node) : e.eval (shortCircuit pos object chain)
    = e.ofResult (e.ifMissing (e.result (e.eval object)) (fun _ => .ok e.undefined)
      (e.result (e.eval chain))) := by
  rw [shortCircuit, eval_cond, e.result_nullTest pos rfl rfl, e.choose_missing, eval_undefinedAt,
    result_ofResult]

end Built

end Evaluation

end Retype
