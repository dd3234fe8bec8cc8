import Retype.Proofs.Meaning.Evaluation
import Retype.Proofs.Parse.Grid
import Retype.Proofs.Pass.Order

/-!
# The passes that remove operators keep the meaning

Removing `??` keeps the meaning of every node under every evaluation.

For `?.` the evaluation has to say more about chains.  In a `Chaining` a link is a function of the
value of its object and of the results of its own parts.  A chain is cut as soon as the value left
of a `?.` is missing: the links behind it are not followed, nor are their parts evaluated, and the
whole chain comes to `undefined`.  Parentheses end a chain.  Removing `?.` keeps what every
expression comes to under every chaining.
-/

namespace Retype

open Passes (coalesce shortCircuit isInside)

variable {Env E V : Type} [DecidableEq V]

/-! ## Without `??` -/

/-- What stands in the place of a node without `??` means the same. -/
theorem Evaluation.eval_coalesced (e : Evaluation Env E V) (b : Bool) (n : Node) :
    e.eval (n.coalesced b) = e.eval n := by
  induction n using Node.childInduction generalizing b with
  | step n ih =>
    rw [coalesced_eq]
    cases found : n.coalescence? with
    | some m =>
      obtain ⟨i, l, r, rfl, rfl⟩ := coalescence_cases found
      have left := ih l (by simp [Node.children, Form.children, Form.parts, ExprForm.parts]) true
      have right := ih r (by simp [Node.children, Form.children, Form.parts, ExprForm.parts]) true
      rw [e.eval_marked, e.eval_coalesce, left, right, e.eval_eq ⟨i, _⟩]
      rfl
    | none =>
      rw [e.eval_eq, Node.form_withForm, Form.map_map, e.eval_eq n]
      exact congrArg e.layer (Form.map_congr fun c child => ih c child _)

/-- Removing `??` leaves none, and it keeps the meaning of a source file and of every node in it. -/
theorem eval_nullishCoalescing {src : Source} {tree : Node} (parsed : src.parse = .ok tree)
    (e : Evaluation Env E V) :
    e.eval (Passes.nullishCoalescing tree) = e.eval tree
      ∧ (∀ n ∈ tree.preorder, ∀ inside, e.eval (n.coalesced inside) = e.eval n)
      ∧ ∀ m ∈ (Passes.nullishCoalescing tree).preorder, m.form.isNullish = false := by
  have runs := (src.parse_stage parsed).nullishCoalescing
  rw [Node.after_nil, Node.after_nil] at runs
  rw [runs]
  exact ⟨e.eval_coalesced false tree, fun n _ inside => e.eval_coalesced inside n, isNullish_coalesced⟩

/-- An operand of `??`, an argument, a substitution and a default with `??` in them. -/
theorem eval_nullishCoalescing_nested : ∃ tree : Node,
    Source.parse { text := "f((a ?? b) ?? c, `${d ?? e}`, (x = y ?? z) => x);" }
      = .ok tree
    ∧ ∀ other : Form (Result (String → Option (Option Bool)) String (Option (Option Bool))) → Result _ _ _,
      (Evaluation.ofResults .basic other).eval (Passes.nullishCoalescing tree)
        = (Evaluation.ofResults .basic other).eval tree := by
  obtain ⟨tree, parsed⟩ := Source.exists_tree { text :=
    "f((a ?? b) ?? c, `${d ?? e}`, (x = y ?? z) => x);" }
    (by rw [Source.parse_eq_parseByGrids]; decide +kernel)
  exact ⟨tree, parsed, fun other => (eval_nullishCoalescing parsed (.ofResults .basic other)).1⟩

/-! ## Chains -/

/-- An evaluation that follows chains. -/
structure Chaining (Env E V : Type) extends Values V where
  /-- What a link comes to on the value of its object. -/
  link : Link (Result Env E V) → V → Result Env E V
  /-- What every other construct comes to. -/
  other : Form (Result Env E V) → Result Env E V

namespace Chaining

variable (c : Chaining Env E V)

/-- What a chain means: the value that its last link comes to, or nothing if it is cut. -/
abbrev Meaning (_ : Chaining Env E V) : Type := Env → Except E (Option V)

/-- What a chain comes to as a whole. -/
def result (m : c.Meaning) : Result Env E V := fun env => (m env).map (·.getD c.undefined)

/-- What has a result is not cut. -/
def whole (r : Result Env E V) : c.Meaning := fun env => (r env).map some

/-- A link behind a chain.  An optional link cuts the chain if the value before it is missing. -/
def follow (object : c.Meaning) (optional : Bool) (link : Link (Result Env E V)) : c.Meaning :=
  fun env => do
    match ← object env with
    | none => return none
    | some v => if optional ∧ c.Missing v then return none else (c.link link v env).map some

/-- The meaning of a construct without a fixed meaning. -/
def construct : Form c.Meaning → c.Meaning
  | .expr (.member object property optional) => c.follow object optional (.member property)
  | .expr (.index object property optional) => c.follow object optional (.index (c.result property))
  | .expr (.call callee args optional) => c.follow callee optional (.call (args.map c.result))
  | f => c.whole (c.other (f.map c.result))

/-- The evaluation of a chaining. -/
def evaluation : Evaluation Env E V where
  toValues := c.toValues
  Meaning := c.Meaning
  result := c.result
  ofResult := c.whole
  group m := c.whole (c.result m)
  other := c.construct
  result_ofResult r := by
    funext env
    simp only [result, whole]
    cases r env <;> rfl
  result_group m := by
    funext env
    simp only [result, whole]
    cases m env <;> rfl

/-- The meaning of a node. -/
def eval (n : Node) : c.Meaning := c.evaluation.eval n

/-- The meaning of a layer, given the meanings of its children. -/
def layer (f : Form c.Meaning) : c.Meaning := c.evaluation.layer f

theorem eval_eq (n : Node) : c.eval n = c.layer (n.form.map c.eval) := c.evaluation.eval_eq n

theorem result_whole (r : Result Env E V) : c.result (c.whole r) = r := c.evaluation.result_ofResult r

theorem layer_on (link : Link c.Meaning) (object : c.Meaning) (optional : Bool) :
    c.layer (.expr (link.on object optional))
      = c.follow object optional (link.map c.result) := by
  cases link <;> rfl

/-- The meaning of a link, from the meaning of its object and the results of its parts. -/
theorem eval_on (i : Info) (link : Link Node) (object : Node) (optional : Bool) :
    c.eval ⟨i, .expr (link.on object optional)⟩
      = c.follow (c.eval object) optional (link.map fun n => c.result (c.eval n)) := by
  rw [eval_eq]
  dsimp only
  rw [Form.map_expr, Link.map_on, layer_on, Link.map_map]

theorem results_congr {link : Link Node} {k : Node → Node}
    (same : ∀ s ∈ link.slots, c.result (c.eval (k s.2)) = c.result (c.eval s.2)) :
    (link.map fun n => c.result (c.eval (k n))) = link.map fun n => c.result (c.eval n) :=
  Link.map_congr link same

/-- Only a link looks at more than what its parts come to. -/
theorem layer_congr {f : Form Node} {k : Node → Node}
    (other : ∀ link object optional, f ≠ .expr (Link.on link object optional))
    (same : ∀ n ∈ f.children, c.result (c.eval (k n)) = c.result (c.eval n)) :
    c.layer (f.map fun n => c.eval (k n)) = c.layer (f.map c.eval) := by
  have results : (f.map fun n => c.eval (k n)).map c.result = (f.map c.eval).map c.result := by
    rw [Form.map_map, Form.map_map]
    exact Form.map_congr same
  cases f with
  | expr f =>
    cases f with
    | member object property optional => exact absurd rfl (other (.member property) object optional)
    | index object property optional => exact absurd rfl (other (.index property) object optional)
    | call callee args optional => exact absurd rfl (other (.call args) callee optional)
    | binary op l r =>
      have left := same l (by simp [Form.children, Form.parts, ExprForm.parts])
      have right := same r (by simp [Form.children, Form.parts, ExprForm.parts])
      change c.evaluation.expr (.binary op (c.eval (k l)) (c.eval (k r)))
        = c.evaluation.expr (.binary op (c.eval l) (c.eval r))
      unfold Evaluation.expr
      dsimp only
      cases c.evaluation.operator? op with
      | some operator => exact congrArg c.whole (congrArg₂ operator left right)
      | none => exact congrArg (fun r => c.whole (c.other r)) results
    | cond test cons alt =>
      have results := fun n member => same n member
      simp only [Form.children, Form.parts, ExprForm.parts, List.flatMap_cons, List.flatMap_nil,
        Part.nodes_node, List.append_nil, List.cons_append, List.nil_append, List.forall_mem_cons,
        List.not_mem_nil, false_implies, implies_true, and_true] at results
      obtain ⟨test_same, cons_same, alt_same⟩ := results
      change c.whole (c.choose (c.result (c.eval (k test))) (c.result (c.eval (k cons)))
        (c.result (c.eval (k alt)))) = _
      rw [test_same, cons_same, alt_same]
      rfl
    | paren n =>
      exact congrArg c.whole (same n (by simp [Form.children, Form.parts, ExprForm.parts]))
    | ident name => rfl
    | null => rfl
    | _ => exact congrArg (fun r => c.whole (c.other r)) results
  | _ => exact congrArg (fun r => c.whole (c.other r)) results

/-! ## Without `?.` -/

/-- A chain that is cut if a result is missing. -/
def cutIf (r : Result Env E V) (m : c.Meaning) : c.Meaning := fun env => do
  let v ← r env
  if c.Missing v then return none else m env

theorem result_cutIf (r : Result Env E V) (m : c.Meaning) :
    c.result (c.cutIf r m) = c.ifMissing r (fun _ => .ok c.undefined) (c.result m) := by
  funext env
  unfold result cutIf Values.ifMissing
  cases r env with
  | error e => rfl
  | ok v =>
    simp only [bind, Except.bind]
    split <;> rfl

/-- An optional link cuts the chain if what its object comes to is missing. -/
theorem follow_optional (m : c.Meaning) (link : Link (Result Env E V)) :
    c.follow m true link = c.cutIf (c.result m) (c.follow m false link) := by
  funext env
  simp only [follow, cutIf, result]
  cases m env with
  | error e => rfl
  | ok v =>
    cases v with
    | none =>
      have missing : c.Missing c.undefined := .inr rfl
      simp [bind, Except.bind, Except.map, missing]
    | some v => simp [bind, Except.bind, Except.map]

omit [DecidableEq V] in
/-- What comes to a value that is not missing was not cut. -/
theorem eq_some_of_result {m : c.Meaning} {env : Env} {v : V} (comes : c.result m env = .ok v)
    (present : ¬ c.Missing v) : m env = .ok (some v) := by
  unfold result at comes
  cases found : m env with
  | error e =>
    rw [found] at comes
    cases comes
  | ok w =>
    rw [found] at comes
    obtain rfl := Except.ok.inj comes
    cases w with
    | some w => rfl
    | none => exact absurd (.inr rfl) present

/-- Of a chain that is not cut, a link sees nothing but what it comes to. -/
theorem cutIf_follow {m m' : c.Meaning} (same : c.result m' = c.result m)
    (link : Link (Result Env E V)) :
    c.cutIf (c.result m) (c.follow m' false link) = c.cutIf (c.result m) (c.follow m false link) := by
  funext env
  unfold cutIf
  cases comes : c.result m env with
  | error e => rfl
  | ok v =>
    simp only [bind, Except.bind]
    split
    next => rfl
    next present =>
      have first := c.eq_some_of_result comes present
      have second := c.eq_some_of_result ((congrFun same env).trans comes) present
      simp only [follow, first, second]

/-- A link behind a chain that is cut is cut with it. -/
theorem follow_cutIf (r : Result Env E V) (m : c.Meaning) (link : Link (Result Env E V)) :
    c.follow (c.cutIf r m) false link = c.cutIf r (c.follow m false link) := by
  funext env
  simp only [follow, cutIf]
  cases r env with
  | error e => rfl
  | ok v => by_cases missing : c.Missing v <;> simp [bind, Except.bind, missing, pure, Except.pure]

/-- A chain means what the rebuilt chain means, unless it is cut because the tested object is
missing. -/
theorem eval_chain {n o chain : Node} (found : n.chain? = some (o, chain)) :
    (∀ d ∈ n.descendants, ∀ b, c.result (c.eval (d.unchained b)) = c.result (c.eval d)) →
    c.eval n = c.cutIf (c.result (c.eval o)) (c.eval chain) := by
  refine chain_induction (P := fun n o chain =>
    (∀ d ∈ n.descendants, ∀ b, c.result (c.eval (d.unchained b)) = c.result (c.eval d)) →
    c.eval n = c.cutIf (c.result (c.eval o)) (c.eval chain)) ?_ ?_ found
  · intro i link object below
    have tested := below object object_mem true
    rw [Node.expr, Node.plain, eval_on, eval_on, Link.map_map,
      c.results_congr fun s slot => below s.2 (part_mem slot) true, follow_optional, tested,
      cutIf_follow _ tested]
  · intro i link object o chain ih below
    have before := ih fun d lower => below d (below_object lower)
    rw [Node.expr, Node.plain, eval_on, eval_on, Link.map_map,
      c.results_congr fun s slot => below s.2 (part_mem slot) true, before, follow_cutIf]

/-- What stands in the place of a node without `?.` comes to the same.  A node that ends no optional
chain even means the same. -/
theorem eval_unchained (n : Node) (b : Bool) :
    (n.chain? = none → c.eval (n.unchained b) = c.eval n)
      ∧ c.result (c.eval (n.unchained b)) = c.result (c.eval n) := by
  induction n using Node.descend generalizing b with
  | step n ih =>
    have below : ∀ d ∈ n.descendants, ∀ b, c.result (c.eval (d.unchained b)) = c.result (c.eval d) :=
      fun d lower b => (ih d lower b).2
    cases found : n.chain? with
    | some oc =>
      obtain ⟨o, chain⟩ := oc
      refine ⟨fun none => absurd none (Option.some_ne_none _), ?_⟩
      have replaced : n.shortCircuit? = some (shortCircuit n.pos o chain) := by
        rw [Node.shortCircuit?, found]
        rfl
      have means := c.evaluation.eval_shortCircuit n.pos o chain
      rw [unchained_eq, replaced, c.eval_chain found below, result_cutIf]
      change c.result (c.evaluation.eval (Passes.marked ..)) = _
      rw [c.evaluation.eval_marked, means]
      exact c.result_whole _
    | none =>
      have kept : n.unchained b = n.withForm (n.form.map (Node.unchained (isInside n b))) := by
        rw [unchained_eq, Node.shortCircuit?, found]
        rfl
      have same : c.eval (n.unchained b) = c.eval n := by
        generalize isInside n b = inside at kept
        rw [kept, eval_eq, Node.form_withForm, Form.map_map, c.eval_eq n]
        by_cases isLink : ∃ link object optional, n.form = .expr (Link.on link object optional)
        · obtain ⟨link, object, optional, form⟩ := isLink
          rcases n with ⟨i, f⟩
          cases form
          rw [chain?_on] at found
          cases optional with
          | true => cases found
          | false =>
            have before := (ih object object_mem inside).1 (Option.map_eq_none_iff.mp found)
            dsimp only
            rw [Form.map_expr, Form.map_expr, Link.map_on, Link.map_on, layer_on, layer_on,
              Link.map_map, Link.map_map, before,
              c.results_congr fun s slot => below s.2 (part_mem slot) inside]
        · refine c.layer_congr (fun link object optional form => isLink ⟨link, object, optional, form⟩) ?_
          intro d child
          exact below d (Node.child_mem_descendants child) _
      exact ⟨fun _ => same, congrArg c.result same⟩

end Chaining

/-- Removing `?.` leaves none, and it keeps the meaning of a source file and what every expression
in it comes to. -/
theorem result_optionalChaining {src : Source} {tree : Node} (parsed : src.parse = .ok tree)
    (c : Chaining Env E V) :
    c.eval (Passes.optionalChaining tree) = c.eval tree
      ∧ (∀ n ∈ tree.preorder, ∀ inside,
        c.result (c.eval (n.unchained inside)) = c.result (c.eval n))
      ∧ ∀ m ∈ (Passes.optionalChaining tree).preorder, m.form.isOptional = false := by
  have stage := src.parse_stage parsed
  have runs := stage.optionalChaining
  rw [Node.after_nil, Node.after_nil] at runs
  rw [runs]
  refine ⟨(c.eval_unchained tree false).1 ?_, fun n _ inside => (c.eval_unchained n inside).2,
    isOptional_unchained⟩
  obtain ⟨ss, form⟩ := Stage.program_form stage.program
  exact chain?_of_other fun link object optional isLink => by
    rw [form] at isLink
    cases isLink

/-- A chain with two optional links, a chain in a key, and a chain between parentheses. -/
theorem result_optionalChaining_nested : ∃ tree : Node,
    Source.parse { text := "a?.b.c?.[d?.e](f); (g?.h).i;" } = .ok tree
    ∧ ∀ (link : Link (Result (String → Option (Option Bool)) String (Option (Option Bool))) → _ → Result _ _ _)
      (other : Form (Result _ _ _) → Result _ _ _),
      Chaining.eval ⟨.basic, link, other⟩ (Passes.optionalChaining tree)
        = Chaining.eval ⟨.basic, link, other⟩ tree := by
  obtain ⟨tree, parsed⟩ := Source.exists_tree { text :=
    "a?.b.c?.[d?.e](f); (g?.h).i;" }
    (by rw [Source.parse_eq_parseByGrids]; decide +kernel)
  exact ⟨tree, parsed, fun link other => (result_optionalChaining parsed ⟨.basic, link, other⟩).1⟩

end Retype
