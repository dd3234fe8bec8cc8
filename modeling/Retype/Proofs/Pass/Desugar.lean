import Retype.Proofs.Pass.Rewriting

/-!
# Removed operators

The passes that remove `??` and `?.` replace expressions, in the sense of `Rewriting`.  After
them no such operator is left, so a second run of one of them changes nothing.
-/

namespace Retype

open Node (Converted Parsed)
open Retype.Convert
open Passes (Desugared isInside marked coalesce shortCircuit nullTest undefinedAt chainOf chainAt
  withoutNullish withoutOptional)

variable {α β : Type}

/-- The layers of the operator `??`. -/
def Form.isNullish : Form α → Bool
  | .expr (.binary .nullish _ _) => true
  | _ => false

/-- The layers of the operator `?.`. -/
def Form.isOptional : Form α → Bool
  | .expr (.member _ _ optional) | .expr (.index _ _ optional) | .expr (.call _ _ optional) =>
    optional
  | _ => false

theorem Form.isNullish_map (k : α → β) (f : Form α) : (f.map k).isNullish = f.isNullish := by
  cases f with
  | expr f =>
    cases f with
    | binary op l r => cases op <;> rfl
    | _ => rfl
  | _ => rfl

theorem Form.isOptional_map (k : α → β) (f : Form α) : (f.map k).isOptional = f.isOptional := by
  cases f with
  | expr f => cases f <;> rfl
  | _ => rfl

/-- Types have neither operator. -/
theorem Node.TypeLevel.plain {n : Node} (types : n.TypeLevel) :
    n.form.isNullish = false ∧ n.form.isOptional = false := by
  rcases types with ⟨g, form, -⟩ | ⟨g, form⟩ | ⟨name, form⟩ | ⟨o, name, form⟩
  all_goals rw [form]; exact ⟨rfl, rfl⟩

/-! ## Built expressions -/

section Built

variable {pos : Int}

theorem after_expr {S : List Topic} {i : Info} {f : ExprForm Node} :
    Node.after S ⟨i, .expr f⟩ = ⟨i, .expr (f.map (Node.after S))⟩ := Node.after_of_topic_none rfl

/-- An expression of the source from expressions of the source. -/
theorem plays_expr_iff {i : Info} {f : ExprForm Node} {r : Role} :
    Node.Plays Parsed r ⟨i, .expr f⟩
      ↔ r ∈ f.roles ∧ f.Sound ∧ ∀ s ∈ f.slots, s.2.Plays Parsed s.1 := by
  rw [Node.Plays, Node.formed_iff]
  refine and_congr_right fun _ => and_iff_right ?_
  exact ⟨by simp, by simp [Form.isHolder]⟩

theorem plays_nullTest {join compare : BinaryOp} {n : Node} (isExpr : n.Plays Parsed .expr) :
    (nullTest pos join compare n).Plays Parsed .expr := by
  simp [nullTest, undefinedAt, Node.ident, Node.expr, Node.plain, plays_expr_iff, ExprForm.roles,
    Role.ofExpr, ExprForm.Sound, ExprForm.slots, isExpr]

theorem after_nullTest {join compare : BinaryOp} {n : Node} {S : List Topic} :
    (nullTest pos join compare n).after S = nullTest pos join compare (n.after S) := by
  simp [nullTest, undefinedAt, Node.ident, Node.expr, Node.plain, after_expr, ExprForm.map,
    ExprForm.mapM]

/-- What is found first in an expression is found in its parts. -/
theorem first_expr {k : Node → Option α} (exprs : ∀ i f, k ⟨i, .expr f⟩ = none) {i : Info}
    {f : ExprForm Node} :
    Node.first k ⟨i, .expr f⟩ = (f.slots.map (·.2)).findSome? (Node.first k) := by
  rw [Node.first_eq, exprs, Option.none_or, Node.children, Form.children_eq_slots (by simp)]
  rfl

theorem first_nullTest {k : Node → Option α} (exprs : ∀ i f, k ⟨i, .expr f⟩ = none)
    {join compare : BinaryOp} {n : Node} :
    (nullTest pos join compare n).first k = n.first k := by
  simp only [nullTest, undefinedAt, Node.ident, Node.expr, Node.plain, first_expr exprs,
    ExprForm.slots, List.map_cons, List.map_nil, List.findSome?_cons, List.findSome?_nil]
  cases n.first k <;> rfl

/-- The layers of an expression are its own and those of its parts. -/
theorem forall_mem_expr {P : Form Node → Prop} {i : Info} {f : ExprForm Node} :
    (∀ m ∈ Node.preorder ⟨i, .expr f⟩, P m.form)
      ↔ P (.expr f) ∧ ∀ s ∈ f.slots, ∀ m ∈ s.2.preorder, P m.form := by
  rw [Node.forall_mem_preorder_iff, Node.children, Form.children_eq_slots (by simp),
    List.forall_mem_map]
  rfl

/-- The layers of a test are those of what is tested, and layers without either operator. -/
theorem forall_mem_nullTest {P : Form Node → Prop}
    (plain : ∀ f, f.isNullish = false → f.isOptional = false → P f) {join compare : BinaryOp}
    (joins : join ≠ .nullish) (compares : compare ≠ .nullish) {n : Node}
    (inner : ∀ m ∈ n.preorder, P m.form) :
    ∀ m ∈ (nullTest pos join compare n).preorder, P m.form := by
  have binary : ∀ {op} (l r : Node), op ≠ .nullish → P (.expr (.binary op l r)) := by
    intro op l r other
    refine plain _ ?_ rfl
    cases op <;> first | rfl | exact absurd rfl other
  simp only [nullTest, undefinedAt, Node.ident, Node.expr, Node.plain, forall_mem_expr,
    ExprForm.slots, List.forall_mem_cons, List.not_mem_nil, false_implies, implies_true, and_true]
  exact ⟨plain _ rfl rfl, binary _ _ joins, ⟨binary _ _ compares, inner, plain _ rfl rfl⟩,
    binary _ _ compares, inner, plain _ rfl rfl⟩

end Built

/-! ## Without `??` -/

theorem Form.nullish_cases {f : Form α} (nullish : f.isNullish) :
    ∃ l r, f = .expr (.binary .nullish l r) := by
  cases f with
  | expr f =>
    cases f with
    | binary op l r =>
      cases op with
      | nullish => exact ⟨l, r, rfl⟩
      | _ => cases nullish
    | _ => cases nullish
  | _ => cases nullish

/-- What stands in the place of a node without `??`. -/
def Node.coalesced (b : Bool) (n : Node) : Node := (n.fold withoutNullish).value b

/-- What replaces a node with the operator `??`. -/
def Node.coalescence? (n : Node) : Option Node :=
  match n.form with
  | .expr (.binary .nullish l r) =>
    some (coalesce n.pos (l.coalesced true) (r.coalesced true))
  | _ => none

theorem coalescence?_eq_none_iff {n : Node} : n.coalescence? = none ↔ n.form.isNullish = false := by
  unfold Node.coalescence?
  split
  next form => simp [form, Form.isNullish]
  next other =>
    simp only [true_iff, Bool.eq_false_iff]
    intro nullish
    obtain ⟨l, r, form⟩ := Form.nullish_cases nullish
    exact other l r form

theorem withoutNullish_of_other {n : Node} {results : Form Desugared}
    (other : results.isNullish = false) : withoutNullish n results = Passes.stays n results := by
  unfold withoutNullish
  split
  next => cases other
  next => rfl

theorem coalesced_eq (b : Bool) (n : Node) : n.coalesced b = match n.coalescence? with
    | some m => marked n b m
    | none => n.withForm (n.form.map (Node.coalesced (isInside n b))) := by
  rw [Node.coalesced, Node.fold_eq]
  cases nullish : n.form.isNullish with
  | true =>
    rcases n with ⟨i, f⟩
    obtain ⟨l, r, rfl⟩ := Form.nullish_cases nullish
    rfl
  | false =>
    rw [coalescence?_eq_none_iff.mpr nullish,
      withoutNullish_of_other ((Form.isNullish_map _ _).trans nullish)]
    simp only [Passes.stays, Form.map_map]
    rfl

theorem coalescence_cases {n m : Node} (found : n.coalescence? = some m) :
    ∃ i l r, n = ⟨i, .expr (.binary .nullish l r)⟩
      ∧ m = coalesce i.pos (l.coalesced true) (r.coalesced true) := by
  rcases n with ⟨i, f⟩
  unfold Node.coalescence? at found
  split at found
  next l r form =>
    cases form
    cases found
    exact ⟨i, l, r, rfl, rfl⟩
  next => cases found

/-- Removing `??` replaces expressions. -/
theorem coalesced_rewriting : Rewriting Node.coalescence? Node.coalesced where
  eq := coalesced_eq
  isExpr := by
    intro n m found
    obtain ⟨i, l, r, rfl, rfl⟩ := coalescence_cases found
    exact ⟨⟨⟨_, rfl⟩, rfl⟩, ⟨_, rfl⟩, List.mem_cons_self⟩
  typing := by
    intro n types
    exact coalescence?_eq_none_iff.mpr (types n n.self_mem_preorder).plain.1
  formed := by
    intro n m found formed below
    obtain ⟨i, l, r, rfl, rfl⟩ := coalescence_cases found
    obtain ⟨-, -, slots⟩ := Node.formed_iff.mp formed
    simp only [Form.slots, ExprForm.slots, List.forall_mem_cons, List.not_mem_nil, false_implies,
      implies_true, and_true] at slots
    have left := below l (Node.child_mem_descendants
      (by simp [Node.children, Form.children, Form.parts, ExprForm.parts])) true .expr slots.1
    have right := below r (Node.child_mem_descendants
      (by simp [Node.children, Form.children, Form.parts, ExprForm.parts])) true .expr slots.2
    have whole : Node.Plays Parsed .expr (coalesce i.pos (l.coalesced true) (r.coalesced true)) := by
      simp [coalesce, Node.expr, Node.plain, plays_expr_iff, ExprForm.roles, Role.ofExpr,
        ExprForm.Sound, ExprForm.slots, plays_nullTest left, left, right]
    exact whole.2
  after := by
    intro S n _ _ below isExpr
    rcases n with ⟨i, f⟩
    cases nullish : f.isNullish with
    | true =>
      obtain ⟨l, r, rfl⟩ := Form.nullish_cases nullish
      have left := below l (Node.child_mem_descendants
        (by simp [Node.children, Form.children, Form.parts, ExprForm.parts])) true
      have right := below r (Node.child_mem_descendants
        (by simp [Node.children, Form.children, Form.parts, ExprForm.parts])) true
      have built : (coalesce i.pos (l.coalesced true) (r.coalesced true)).after S
          = coalesce i.pos ((l.coalesced true).after S) ((r.coalesced true).after S) := by
        simp [coalesce, Node.expr, Node.plain, after_expr, ExprForm.map, ExprForm.mapM,
          after_nullTest]
      change some (coalesce i.pos ((l.after S).coalesced true) ((r.after S).coalesced true))
        = some ((coalesce i.pos (l.coalesced true) (r.coalesced true)).after S)
      rw [left, right, built]
    | false =>
      have still : (Node.layer S ⟨i, f⟩).coalescence? = none :=
        coalescence?_eq_none_iff.mpr ((Form.isNullish_map _ _).trans nullish)
      have none : Node.coalescence? ⟨i, f⟩ = none := coalescence?_eq_none_iff.mpr nullish
      rw [still, none]
      rfl
  first := by
    intro α k n m exprs found below
    obtain ⟨i, l, r, rfl, rfl⟩ := coalescence_cases found
    have left := below l (Node.child_mem_descendants
      (by simp [Node.children, Form.children, Form.parts, ExprForm.parts])) true
    have right := below r (Node.child_mem_descendants
      (by simp [Node.children, Form.children, Form.parts, ExprForm.parts])) true
    simp only [coalesce, Node.expr, Node.plain, first_expr exprs, ExprForm.slots, List.map_cons,
      List.map_nil, List.findSome?_cons, List.findSome?_nil, first_nullTest exprs, left, right]
    cases l.first k <;> rfl

/-- No `??` is left. -/
theorem isNullish_coalesced {n : Node} {b : Bool} :
    ∀ m ∈ (n.coalesced b).preorder, m.form.isNullish = false := by
  refine coalesced_rewriting.forall_mem_value (P := fun f => f.isNullish = false)
    (fun m _ none b => ?_) fun m _ new found below => ?_
  · exact (Form.isNullish_map _ _).trans (coalescence?_eq_none_iff.mp none)
  · obtain ⟨i, l, r, rfl, rfl⟩ := coalescence_cases found
    have left := below l (Node.child_mem_descendants
      (by simp [Node.children, Form.children, Form.parts, ExprForm.parts])) true
    have right := below r (Node.child_mem_descendants
      (by simp [Node.children, Form.children, Form.parts, ExprForm.parts])) true
    have test : ∀ m ∈ (nullTest i.pos .and .strictNe (l.coalesced true)).preorder,
        m.form.isNullish = false :=
      forall_mem_nullTest (P := fun f => f.isNullish = false) (fun f plain _ => plain) (by decide)
        (by decide) left
    refine (forall_mem_expr (P := fun f => f.isNullish = false)).mpr ⟨rfl, ?_⟩
    simp only [ExprForm.slots, List.forall_mem_cons, List.not_mem_nil, false_implies, implies_true,
      and_true]
    exact ⟨test, left, right⟩

/-! ## Without `?.` -/

/-- A link of a chain, apart from the object that it is on. -/
inductive Link (α : Type) where
  | member (property : String)
  | index (property : α)
  | call (args : List α)

namespace Link

/-- The link on an object. -/
def on (link : Link α) (object : α) (optional : Bool) : ExprForm α :=
  match link with
  | member property => .member object property optional
  | index property => .index object property optional
  | call args => .call object args optional

/-- The link with other parts. -/
def map (k : α → β) : Link α → Link β
  | member property => member property
  | index property => index (k property)
  | call args => call (args.map k)

/-- The parts of the link. -/
def slots : Link α → List (Role × α)
  | member _ => []
  | index property => [(.expr, property)]
  | call args => Role.arg.forAll args

variable (link : Link α) (object : α) (optional : Bool)

theorem roles_on : (link.on object optional).roles = Role.ofExpr := by cases link <;> rfl

theorem slots_on : (link.on object optional).slots = (.expr, object) :: link.slots := by
  cases link <;> rfl

theorem map_on (k : α → β) :
    (link.on object optional).map k = (link.map k).on (k object) optional := by
  cases link <;> simp [on, map, ExprForm.map, ExprForm.mapM]

theorem isOptional_on : (Form.expr (link.on object optional)).isOptional = optional := by
  cases link <;> rfl

theorem isNullish_on : (Form.expr (link.on object optional)).isNullish = false := by
  cases link <;> rfl

theorem slots_map (k : α → β) : (link.map k).slots = link.slots.map (Prod.map id k) := by
  cases link <;> simp [map, slots]

theorem map_map {γ : Type} (k : α → β) (h : β → γ) : (link.map k).map h = link.map fun a => h (k a) := by
  cases link <;> simp [map]

theorem map_congr {k h : α → β} (agree : ∀ s ∈ link.slots, k s.2 = h s.2) :
    link.map k = link.map h := by
  cases link with
  | member property => rfl
  | index property => exact congrArg index (agree (.expr, property) List.mem_cons_self)
  | call args =>
    exact congrArg call (List.map_congr_left fun a member =>
      agree (.arg, a) (List.mem_map_of_mem member))

end Link

/-- What stands in the place of a node without `?.`. -/
def Node.unchained (b : Bool) (n : Node) : Node := (n.fold withoutOptional).value b

/-- The object that an optional chain tests, and the chain rebuilt on it. -/
def Node.chain? (n : Node) : Option (Node × Node) := (n.fold withoutOptional).chain

/-- What replaces an optional chain. -/
def Node.shortCircuit? (n : Node) : Option Node :=
  n.chain?.map fun c => shortCircuit n.pos c.1 c.2

theorem chain_withoutOptional (n : Node) (results : Form Desugared) :
    (withoutOptional n results).chain = chainAt n results := by
  unfold withoutOptional
  split
  next o c found => exact found.symm
  next none => exact none.symm

theorem chain?_on {i : Info} {link : Link Node} {object : Node} {optional : Bool} :
    Node.chain? ⟨i, .expr (link.on object optional)⟩
      = if optional then
          some (object.unchained true,
            .expr i.pos ((link.map (Node.unchained true)).on (object.unchained true) false))
        else object.chain?.map fun c =>
          (c.1, .expr i.pos ((link.map (Node.unchained true)).on c.2 false)) := by
  rw [Node.chain?, Node.fold_eq, chain_withoutOptional, Form.map_expr, Link.map_on]
  cases link with
  | call args =>
    have args_eq : (args.map (Node.fold withoutOptional)).map (·.value true)
        = args.map (Node.unchained true) := List.map_map
    cases optional
    all_goals
      simp only [Link.map, Link.on, chainAt, chainOf, args_eq]
      rfl
  | _ => cases optional <;> rfl

/-- What is no link ends no chain. -/
theorem chain?_of_other {n : Node}
    (other : ∀ link object optional, n.form ≠ .expr (Link.on link object optional)) :
    n.chain? = none := by
  rw [Node.chain?, Node.fold_eq, chain_withoutOptional]
  rcases n with ⟨i, f⟩
  cases f with
  | expr f =>
    cases f with
    | member object property optional => exact absurd rfl (other (.member property) object optional)
    | index object property optional => exact absurd rfl (other (.index property) object optional)
    | call callee args optional => exact absurd rfl (other (.call args) callee optional)
    | _ => rfl
  | _ => rfl

/-- A chain is its last link, rebuilt on the tested object or on the chain before it. -/
theorem chain_cases {n o c : Node} (found : n.chain? = some (o, c)) :
    ∃ i link object optional base, n = ⟨i, .expr (Link.on link object optional)⟩
      ∧ c = .expr i.pos ((link.map (Node.unchained true)).on base false)
      ∧ (optional = true ∧ base = o ∧ o = object.unchained true
        ∨ optional = false ∧ object.chain? = some (o, base)) := by
  by_cases isLink : ∃ link object optional, n.form = .expr (Link.on link object optional)
  · obtain ⟨link, object, optional, form⟩ := isLink
    rcases n with ⟨i, f⟩
    cases form
    rw [chain?_on] at found
    cases optional with
    | true =>
      cases found
      exact ⟨i, link, object, true, _, rfl, rfl, .inl ⟨rfl, rfl, rfl⟩⟩
    | false =>
      obtain ⟨⟨o', base⟩, before, same⟩ := Option.map_eq_some_iff.mp found
      cases same
      exact ⟨i, link, object, false, base, rfl, rfl, .inr ⟨rfl, before⟩⟩
  · rw [chain?_of_other fun link object optional form => isLink ⟨link, object, optional, form⟩] at found
    cases found

theorem mem_link {i : Info} {link : Link Node} {object : Node} {optional : Bool} :
    object ∈ Node.children ⟨i, .expr (link.on object optional)⟩
      ∧ ∀ s ∈ link.slots, s.2 ∈ Node.children ⟨i, .expr (link.on object optional)⟩ := by
  rw [Node.children, Form.children_eq_slots (by simp), Form.slots, Link.slots_on]
  exact ⟨List.mem_cons_self, fun s slot => List.mem_cons_of_mem _ (List.mem_map_of_mem slot)⟩

theorem unchained_eq (b : Bool) (n : Node) : n.unchained b = match n.shortCircuit? with
    | some m => marked n b m
    | none => n.withForm (n.form.map (Node.unchained (isInside n b))) := by
  have chain : n.chain? = chainAt n (n.form.map (Node.fold withoutOptional)) := by
    rw [Node.chain?, Node.fold_eq, chain_withoutOptional]
  rw [Node.unchained, Node.fold_eq, Node.shortCircuit?, chain]
  unfold withoutOptional
  split
  next o c found => 
    rw [found]
    rfl
  next none =>
    rw [none]
    simp only [Passes.stays, Form.map_map]
    rfl

/-- Types have no optional chains. -/
theorem chain?_typing {n : Node} (types : n.IsTyping) : n.chain? = none := by
  induction n using Node.childInduction with
  | step n ih =>
    cases found : n.chain? with
    | none => rfl
    | some oc =>
      obtain ⟨i, link, object, optional, base, rfl, -, before⟩ := chain_cases found
      obtain ⟨root, rest⟩ := Node.isTyping_iff.mp types
      rcases before with ⟨rfl, -⟩ | ⟨-, before⟩
      · have plain := root.plain.2
        rw [Link.isOptional_on] at plain
        cases plain
      · rw [ih object mem_link.1 (rest object mem_link.1)] at before
        cases before

theorem isOptional_of_chain? {n : Node} (none : n.chain? = none) : n.form.isOptional = false := by
  by_cases isLink : ∃ link object optional, n.form = .expr (Link.on link object optional)
  · obtain ⟨link, object, optional, form⟩ := isLink
    rcases n with ⟨i, f⟩
    cases form
    rw [Link.isOptional_on]
    cases optional with
    | false => rfl
    | true =>
      rw [chain?_on] at none
      cases none
  · rcases n with ⟨i, f⟩
    cases f with
    | expr f =>
      cases f with
      | member object property optional => exact absurd ⟨.member property, object, optional, rfl⟩ isLink
      | index object property optional => exact absurd ⟨.index property, object, optional, rfl⟩ isLink
      | call callee args optional => exact absurd ⟨.call args, callee, optional, rfl⟩ isLink
      | _ => rfl
    | _ => rfl

/-- Induction along a chain, from its first optional link on. -/
theorem chain_induction {P : Node → Node → Node → Prop}
    (opens : ∀ i link object, P ⟨i, .expr (Link.on link object true)⟩ (object.unchained true)
      (.expr i.pos ((link.map (Node.unchained true)).on (object.unchained true) false)))
    (goes_on : ∀ i link object o c, P object o c → P ⟨i, .expr (Link.on link object false)⟩ o
      (.expr i.pos ((link.map (Node.unchained true)).on c false)))
    {n o c : Node} (found : n.chain? = some (o, c)) : P n o c := by
  induction n using Node.childInduction generalizing c with
  | step n ih =>
    obtain ⟨i, link, object, optional, base, rfl, rfl, before⟩ := chain_cases found
    rcases before with ⟨rfl, rfl, rfl⟩ | ⟨rfl, before⟩
    · exact opens i link object
    · exact goes_on i link object o base (ih object mem_link.1 before)

section Chains

variable {n o c : Node}

theorem object_mem {i : Info} {link : Link Node} {object : Node} {optional : Bool} :
    object ∈ Node.descendants ⟨i, .expr (link.on object optional)⟩ :=
  Node.child_mem_descendants mem_link.1

theorem part_mem {i : Info} {link : Link Node} {object : Node} {optional : Bool} {s : Role × Node}
    (slot : s ∈ link.slots) : s.2 ∈ Node.descendants ⟨i, .expr (link.on object optional)⟩ :=
  Node.child_mem_descendants (mem_link.2 s slot)

theorem below_object {i : Info} {link : Link Node} {object d : Node} {optional : Bool}
    (lower : d ∈ object.descendants) :
    d ∈ Node.descendants ⟨i, .expr (link.on object optional)⟩ :=
  Node.descendants_trans (Node.descendants_subset_preorder lower) object_mem

/-- A rebuilt link is well-formed if its parts are. -/
theorem plays_on {pos : Int} {link : Link Node} {base : Node} (isExpr : base.Plays Parsed .expr)
    (parts : ∀ s ∈ link.slots, s.2.Plays Parsed s.1) {k : Node → Node}
    (each : ∀ s ∈ link.slots, s.2.Plays Parsed s.1 → (k s.2).Plays Parsed s.1) :
    (Node.expr pos ((link.map k).on base false)).Plays Parsed .expr := by
  rw [Node.expr, Node.plain, plays_expr_iff, Link.roles_on, Link.slots_on, List.forall_mem_cons,
    Link.slots_map, List.forall_mem_map]
  refine ⟨List.mem_cons_self, ?_, isExpr, fun s slot => each s slot (parts s slot)⟩
  cases link <;> trivial

/-- The tested object and the rebuilt chain are well-formed. -/
theorem plays_chain (found : n.chain? = some (o, c)) : n.Formed Parsed →
    (∀ d ∈ n.descendants, ∀ b r, d.Plays Parsed r → (d.unchained b).Plays Parsed r) →
    o.Plays Parsed .expr ∧ c.Plays Parsed .expr := by
  refine chain_induction (P := fun n o c => n.Formed Parsed →
    (∀ d ∈ n.descendants, ∀ b r, d.Plays Parsed r → (d.unchained b).Plays Parsed r) →
    o.Plays Parsed .expr ∧ c.Plays Parsed .expr) ?_ ?_ found
  · intro i link object formed below
    obtain ⟨-, -, slots⟩ := Node.formed_iff.mp formed
    rw [Form.slots, Link.slots_on, List.forall_mem_cons] at slots
    have tested := below object object_mem true .expr slots.1
    exact ⟨tested, plays_on tested slots.2 fun s slot => below s.2 (part_mem slot) true s.1⟩
  · intro i link object o c ih formed below
    obtain ⟨-, -, slots⟩ := Node.formed_iff.mp formed
    rw [Form.slots, Link.slots_on, List.forall_mem_cons] at slots
    obtain ⟨tested, chain⟩ := ih slots.1.2 fun d lower => below d (below_object lower)
    exact ⟨tested, plays_on chain slots.2 fun s slot => below s.2 (part_mem slot) true s.1⟩

/-- What is found first in a link is found in its object or in its parts. -/
theorem first_on {α : Type} {k : Node → Option α} (exprs : ∀ i f, k ⟨i, .expr f⟩ = none) {i : Info}
    {link : Link Node} {object : Node} {optional : Bool} :
    Node.first k ⟨i, .expr (link.on object optional)⟩
      = (object.first k).or (link.slots.findSome? fun s => s.2.first k) := by
  rw [first_expr exprs, Link.slots_on, List.map_cons, List.findSome?_cons, List.findSome?_map]
  cases object.first k <;> rfl

theorem first_parts {α : Type} {k : Node → Option α} {link : Link Node}
    (each : ∀ s ∈ link.slots, (s.2.unchained true).first k = s.2.first k) :
    ((link.map (Node.unchained true)).slots.findSome? fun s => s.2.first k)
      = link.slots.findSome? fun s => s.2.first k := by
  rw [Link.slots_map, List.findSome?_map, ← List.head?_filterMap, ← List.head?_filterMap]
  exact congrArg _ (List.filterMap_congr each)

/-- What is found first in the rebuilt chain is what is found first in the chain, and it is not
behind what is found first in the tested object. -/
theorem first_chain {α : Type} {k : Node → Option α} (exprs : ∀ i f, k ⟨i, .expr f⟩ = none)
    (found : n.chain? = some (o, c)) :
    (∀ d ∈ n.descendants, ∀ b, (d.unchained b).first k = d.first k) →
    c.first k = n.first k ∧ (o.first k).or (n.first k) = n.first k := by
  refine chain_induction (P := fun n o c =>
    (∀ d ∈ n.descendants, ∀ b, (d.unchained b).first k = d.first k) →
    c.first k = n.first k ∧ (o.first k).or (n.first k) = n.first k) ?_ ?_ found
  · intro i link object below
    have parts := first_parts fun s slot => below s.2 (part_mem (i := i) slot) true
    rw [Node.expr, Node.plain, first_on exprs, first_on exprs, parts, below object object_mem]
    refine ⟨rfl, ?_⟩
    cases object.first k <;> rfl
  · intro i link object o c ih below
    obtain ⟨chain, tested⟩ := ih fun d lower => below d (below_object lower)
    have parts := first_parts fun s slot => below s.2 (part_mem (i := i) slot) true
    rw [Node.expr, Node.plain, first_on exprs, first_on exprs, parts, chain, ← Option.or_assoc, tested]
    exact ⟨rfl, rfl⟩

/-- The layers of the tested object and of the rebuilt chain are layers of what the parts become,
and links without `?.`. -/
theorem forall_mem_chain {P : Form Node → Prop}
    (plain : ∀ f, f.isNullish = false → f.isOptional = false → P f)
    (found : n.chain? = some (o, c)) :
    (∀ d ∈ n.descendants, ∀ b, ∀ m ∈ (d.unchained b).preorder, P m.form) →
    (∀ m ∈ o.preorder, P m.form) ∧ ∀ m ∈ c.preorder, P m.form := by
  have link_mem : ∀ {pos : Int} {link : Link Node} {base : Node},
      (∀ s ∈ link.slots, ∀ m ∈ (s.2.unchained true).preorder, P m.form) →
      (∀ m ∈ base.preorder, P m.form) →
      ∀ m ∈ (Node.expr pos ((link.map (Node.unchained true)).on base false)).preorder, P m.form := by
    intro pos link base parts inner
    refine forall_mem_expr.mpr ⟨plain _ (Link.isNullish_on ..) (Link.isOptional_on ..), ?_⟩
    rw [Link.slots_on, List.forall_mem_cons, Link.slots_map, List.forall_mem_map]
    exact ⟨inner, parts⟩
  refine chain_induction (P := fun n o c =>
    (∀ d ∈ n.descendants, ∀ b, ∀ m ∈ (d.unchained b).preorder, P m.form) →
    (∀ m ∈ o.preorder, P m.form) ∧ ∀ m ∈ c.preorder, P m.form) ?_ ?_ found
  · intro i link object below
    have tested := below object object_mem true
    exact ⟨tested, link_mem (fun s slot => below s.2 (part_mem slot) true) tested⟩
  · intro i link object o c ih below
    obtain ⟨tested, chain⟩ := ih fun d lower => below d (below_object lower)
    exact ⟨tested, link_mem (fun s slot => below s.2 (part_mem slot) true) chain⟩

/-- What is no expression of the source is none at any stage. -/
theorem form_after_of_other {S : List Topic} (formed : n.Formed Parsed) (good : n.Good S)
    (other : ∀ f, n.form ≠ .expr f) : ∀ f, (n.after S).form ≠ .expr f := by
  intro f form
  have layered : ∀ m : Node, (∀ f, m.form ≠ .expr f) → (m.layer S).form ≠ .expr f := by
    rintro ⟨i, g⟩ other form
    cases g with
    | expr g => exact other g rfl
    | _ => cases form
  cases topic : n.form.topic? with
  | none =>
    rw [Node.after_of_topic_none topic] at form
    exact layered n other form
  | some t =>
    by_cases settled : t ∈ S
    · obtain ⟨new, turns⟩ := good.turns formed topic settled
      rw [turns.after settled, turns.spent.after] at form
      refine layered new (fun g isExpr => ?_) form
      rcases turns.shared with ⟨h, same⟩ | ⟨h, same⟩ <;> rw [same] at isExpr <;> cases isExpr
    · rw [after_of_unsettled topic settled] at form
      exact layered n other form

theorem after_on {S : List Topic} {i : Info} {link : Link Node} {object : Node} {optional : Bool} :
    Node.after S ⟨i, .expr (link.on object optional)⟩
      = ⟨i, .expr ((link.map (Node.after S)).on (object.after S) optional)⟩ := by
  rw [after_expr, Link.map_on]

/-- The chain that a node ends is the same at every stage. -/
theorem chain?_after {S : List Topic} (formed : n.Formed Parsed) (good : n.Good S)
    (below : ∀ d ∈ n.descendants, ∀ b, (d.after S).unchained b = (d.unchained b).after S) :
    (n.after S).chain? = n.chain?.map fun c => (c.1.after S, c.2.after S) := by
  induction n using Node.childInduction with
  | step n ih =>
    by_cases isLink : ∃ link object optional, n.form = .expr (Link.on link object optional)
    · obtain ⟨link, object, optional, form⟩ := isLink
      rcases n with ⟨i, f⟩
      cases form
      have parts : (link.map (Node.after S)).map (Node.unchained true)
          = (link.map (Node.unchained true)).map (Node.after S) := by
        rw [Link.map_map, Link.map_map]
        exact Link.map_congr _ fun s slot => below s.2 (part_mem slot) true
      have rebuilt : ∀ base : Node,
          (Node.expr i.pos ((link.map (Node.unchained true)).on base false)).after S
            = .expr i.pos (((link.map (Node.unchained true)).map (Node.after S)).on (base.after S) false) :=
        fun base => after_on
      rw [after_on, chain?_on, chain?_on, parts]
      cases optional with
      | true =>
        simp only [if_true, Option.map_some, rebuilt, below object object_mem true]
      | false =>
        have before := ih object mem_link.1 (formed.of_child mem_link.1) (good.below object_mem)
          fun d lower => below d (below_object lower)
        simp only [Bool.false_eq_true, if_false, before, Option.map_map, Function.comp_def, rebuilt]
    · rw [chain?_of_other fun link object optional form => isLink ⟨link, object, optional, form⟩]
      refine chain?_of_other fun link object optional form => ?_
      rcases n with ⟨i, f⟩
      by_cases isExpr : ∃ g, f = .expr g
      · obtain ⟨g, rfl⟩ := isExpr
        rw [after_expr] at form
        cases g with
        | member object property optional => exact isLink ⟨.member property, object, optional, rfl⟩
        | index object property optional => exact isLink ⟨.index property, object, optional, rfl⟩
        | call callee args optional => exact isLink ⟨.call args, callee, optional, rfl⟩
        | _ => cases link <;> cases form
      · exact form_after_of_other formed good (fun g same => isExpr ⟨g, same⟩) _ form

/-- The layers of a replacement are layers of what the parts become, and layers without either
operator. -/
theorem forall_mem_shortCircuit {P : Form Node → Prop}
    (plain : ∀ f, f.isNullish = false → f.isOptional = false → P f) {new : Node}
    (found : n.shortCircuit? = some new)
    (below : ∀ d ∈ n.descendants, ∀ b, ∀ m ∈ (d.unchained b).preorder, P m.form) :
    ∀ m ∈ new.preorder, P m.form := by
  obtain ⟨⟨o, c⟩, chain, rfl⟩ := Option.map_eq_some_iff.mp found
  obtain ⟨tested, rebuilt⟩ := forall_mem_chain plain chain below
  refine forall_mem_expr.mpr ⟨plain _ rfl rfl, ?_⟩
  simp only [ExprForm.slots, List.forall_mem_cons, List.not_mem_nil, false_implies, implies_true,
    and_true]
  refine ⟨forall_mem_nullTest plain (by decide) (by decide) tested, ?_, rebuilt⟩
  exact forall_mem_expr.mpr ⟨plain _ rfl rfl, by simp [ExprForm.slots]⟩

end Chains

/-- Removing `?.` replaces expressions. -/
theorem unchained_rewriting : Rewriting Node.shortCircuit? Node.unchained where
  eq := unchained_eq
  isExpr := by
    intro n m found
    obtain ⟨⟨o, c⟩, chain, rfl⟩ := Option.map_eq_some_iff.mp found
    obtain ⟨i, link, object, optional, base, rfl, -⟩ := chain_cases chain
    exact ⟨⟨⟨_, rfl⟩, Link.roles_on ..⟩, ⟨_, rfl⟩, List.mem_cons_self⟩
  typing := by
    intro n types
    rw [Node.shortCircuit?, chain?_typing types]
    rfl
  formed := by
    intro n m found formed below
    obtain ⟨⟨o, c⟩, chain, rfl⟩ := Option.map_eq_some_iff.mp found
    obtain ⟨tested, rebuilt⟩ := plays_chain chain formed below
    have whole : Node.Plays Parsed .expr (shortCircuit n.pos o c) := by
      simp [shortCircuit, undefinedAt, Node.ident, Node.expr, Node.plain, plays_expr_iff,
        ExprForm.roles, Role.ofExpr, ExprForm.Sound, ExprForm.slots, plays_nullTest tested, rebuilt]
    exact whole.2
  after := by
    intro S n formed good below isExpr
    have topic : n.form.topic? = none := by
      obtain ⟨f, form⟩ := isExpr
      rw [form]
      rfl
    have built : ∀ o c : Node, (shortCircuit n.pos o c).after S
        = shortCircuit n.pos (o.after S) (c.after S) := by
      intro o c
      simp [shortCircuit, undefinedAt, Node.ident, Node.expr, Node.plain, after_expr, ExprForm.map,
        ExprForm.mapM, after_nullTest]
    have pos : (n.after S).pos = n.pos := by
      rw [Node.after_of_topic_none topic]
      rfl
    rw [← Node.after_of_topic_none topic, Node.shortCircuit?, Node.shortCircuit?,
      chain?_after formed good below, Option.map_map, Option.map_map, pos]
    exact congrArg (fun h => n.chain?.map h) (funext fun c => (built c.1 c.2).symm)
  first := by
    intro α k n m exprs found below
    obtain ⟨⟨o, c⟩, chain, rfl⟩ := Option.map_eq_some_iff.mp found
    obtain ⟨rebuilt, tested⟩ := first_chain exprs chain below
    rw [← tested, ← rebuilt]
    simp only [shortCircuit, undefinedAt, Node.ident, Node.expr, Node.plain, first_expr exprs,
      ExprForm.slots, List.map_cons, List.map_nil, List.findSome?_cons, List.findSome?_nil,
      first_nullTest exprs]
    cases o.first k <;> cases c.first k <;> rfl

/-- No `?.` is left. -/
theorem isOptional_unchained {n : Node} {b : Bool} :
    ∀ m ∈ (n.unchained b).preorder, m.form.isOptional = false := by
  refine unchained_rewriting.forall_mem_value (P := fun f => f.isOptional = false)
    (fun m _ none b => ?_) fun m _ new found below => ?_
  · exact (Form.isOptional_map _ _).trans (isOptional_of_chain? (Option.map_eq_none_iff.mp none))
  · exact forall_mem_shortCircuit (P := fun f => f.isOptional = false) (fun _ _ plain => plain) found
      below

/-- No `??` comes back. -/
theorem isNullish_unchained {n : Node} {b : Bool} (before : ∀ m ∈ n.preorder, m.form.isNullish = false) :
    ∀ m ∈ (n.unchained b).preorder, m.form.isNullish = false := by
  refine unchained_rewriting.forall_mem_value (P := fun f => f.isNullish = false)
    (fun m member _ b => (Form.isNullish_map _ _).trans (before m member)) fun m _ new found below => ?_
  exact forall_mem_shortCircuit (P := fun f => f.isNullish = false) (fun _ plain _ => plain) found
    below

end Retype
