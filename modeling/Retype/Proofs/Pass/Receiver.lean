import Retype.Proofs.Parse.Grid
import Retype.Proofs.Pass.Order

/-!
# Receivers

A function that is called on a member of an object runs on that object, its *receiver*, and a
`delete` removes a member from its object.  Both depend on the shape of the expression: the callee
or the operand has to be an access, and the value of the access is not enough.

Removing `?.` keeps these shapes along a chain.  The links behind the first optional one are rebuilt
one on the other, so a call stays on the access before it.  It is different where a chain ends.  A
chain that is cut off, by parentheses or by the next `?.`, is replaced by a conditional expression,
and what stands around it meets this expression and no access.
-/

namespace Retype

variable {α : Type}

/-- Accesses to a member or by an index, and no calls. -/
def Link.isAccess : Link α → Bool
  | .call _ => false
  | _ => true

namespace Node

/-- A node without the parentheses around it. -/
def unwrapped : Node → Node
  | ⟨_, .expr (.paren e)⟩ => e.unwrapped
  | n => n

/-- Accesses to a member or by an index. -/
def isAccess (n : Node) : Bool :=
  match n.form with
  | .expr (.member ..) | .expr (.index ..) => true
  | _ => false

/-- Whether some link of the chain that a node ends is optional.  Parentheses begin a new chain. -/
def endsOptional : Node → Bool
  | ⟨_, .expr (.member object _ optional)⟩ => optional || object.endsOptional
  | ⟨_, .expr (.index object _ optional)⟩ => optional || object.endsOptional
  | ⟨_, .expr (.call object _ optional)⟩ => optional || object.endsOptional
  | _ => false

/-- What a node becomes as a link: the link rebuilt on the chain before it.  A node that ends no
optional chain becomes what stands in its place. -/
def rebuilt (b : Bool) (n : Node) : Node :=
  match n.chain? with
  | some (_, chain) => chain
  | none => n.unchained b

/-- A node is the access that another one was: to the same property, or by the same index, of what
the object has become. -/
def AccessOf (old new : Node) : Prop :=
  ∃ i link object optional b, old = ⟨i, .expr (Link.on link object optional)⟩ ∧ link.isAccess
    ∧ new.form = .expr ((link.map (unchained b)).on
      (if optional then object.unchained b else object.rebuilt b) false)

end Node

open Node (AccessOf)

section Chains

variable {i : Info} {link : Link Node} {object : Node} {optional : Bool}

theorem endsOptional_on :
    Node.endsOptional ⟨i, .expr (link.on object optional)⟩ = (optional || object.endsOptional) := by
  cases link <;> rw [Link.on, Node.endsOptional]

theorem unwrapped_on :
    Node.unwrapped ⟨i, .expr (link.on object optional)⟩ = ⟨i, .expr (link.on object optional)⟩ := by
  cases link <;> simp [Link.on, Node.unwrapped]

theorem unwrapped_of_other {n : Node} (other : ∀ inner, n.form ≠ .expr (.paren inner)) :
    n.unwrapped = n :=
  Node.unwrapped.eq_2 n fun _ inner same => other inner (congrArg Node.form same)

/-- Parentheses end no chain. -/
theorem endsOptional_of_unwrapped {n : Node} (plain : n.unwrapped.endsOptional = false) :
    n.endsOptional = false := by
  by_cases wrapped : ∃ inner, n.form = .expr (.paren inner)
  · obtain ⟨inner, form⟩ := wrapped
    rcases n with ⟨i, f⟩
    cases form
    rw [Node.endsOptional] <;> simp
  · rw [unwrapped_of_other fun inner form => wrapped ⟨inner, form⟩] at plain
    exact plain

theorem access_cases {n : Node} (access : n.isAccess) :
    ∃ i link object optional, n = ⟨i, .expr (Link.on link object optional)⟩ ∧ link.isAccess := by
  rcases n with ⟨i, f⟩
  unfold Node.isAccess at access
  split at access
  next object property optional form =>
    cases form
    exact ⟨i, .member property, object, optional, rfl, rfl⟩
  next object property optional form =>
    cases form
    exact ⟨i, .index property, object, optional, rfl, rfl⟩
  next => cases access

/-- A chain is rebuilt if it has an optional link. -/
theorem isSome_chain? (n : Node) : n.chain?.isSome = n.endsOptional := by
  induction n using Node.childInduction with
  | step n ih =>
    by_cases isLink : ∃ link object optional, n.form = .expr (Link.on link object optional)
    · obtain ⟨link, object, optional, form⟩ := isLink
      rcases n with ⟨i, f⟩
      cases form
      rw [endsOptional_on, ← ih object mem_link.1, chain?_on]
      cases optional <;> simp
    · rw [chain?_of_other fun link object optional form => isLink ⟨link, object, optional, form⟩]
      unfold Node.endsOptional
      split
      next object property optional => exact absurd ⟨.member property, object, optional, rfl⟩ isLink
      next object property optional => exact absurd ⟨.index property, object, optional, rfl⟩ isLink
      next object args optional => exact absurd ⟨.call args, object, optional, rfl⟩ isLink
      next => rfl

theorem chain?_of_endsOptional {n : Node} (plain : n.endsOptional = false) : n.chain? = none := by
  rw [← isSome_chain?, Option.isSome_eq_false_iff, Option.isNone_iff_eq_none] at plain
  exact plain

theorem rebuilt_of_none {n : Node} {b : Bool} (none : n.chain? = none) : n.rebuilt b = n.unchained b := by
  rw [Node.rebuilt, none]

theorem rebuilt_of_chain {n o c : Node} {b : Bool} (found : n.chain? = some (o, c)) :
    n.rebuilt b = c := by
  rw [Node.rebuilt, found]

/-- Outside chains, the parts of a node are replaced. -/
theorem unchained_of_none {n : Node} {b : Bool} (none : n.chain? = none) :
    n.unchained b = n.withForm (n.form.map (Node.unchained (Passes.isInside n b))) :=
  unchained_rewriting.value_of_none (by rw [Node.shortCircuit?, none]; rfl)

end Chains

/-! ## Where the links are -/

/-- What is in the object or in the parts of a link is in the rebuilt link. -/
theorem mem_rebuilt_link {pos : Int} {link : Link Node} {object base : Node} {optional : Bool} {i : Info}
    (inObject : ∀ m ∈ object.preorder, ∃ f, m.rebuilt f ∈ base.preorder)
    (inParts : ∀ s ∈ link.slots, ∀ m ∈ s.2.preorder, ∃ f, m.rebuilt f ∈ (s.2.unchained true).preorder)
    {m : Node} (lower : m ∈ Node.descendants ⟨i, .expr (link.on object optional)⟩) :
    ∃ f, m.rebuilt f ∈ (Node.expr pos ((link.map (Node.unchained true)).on base false)).preorder := by
  have within {c : Node} (child : c ∈ Node.children
      (Node.expr pos ((link.map (Node.unchained true)).on base false)))
      (inner : ∃ f, m.rebuilt f ∈ c.preorder) :
      ∃ f, m.rebuilt f ∈ (Node.expr pos ((link.map (Node.unchained true)).on base false)).preorder := by
    obtain ⟨f, member⟩ := inner
    exact ⟨f, Node.preorder_trans member
      (Node.descendants_subset_preorder (Node.child_mem_descendants child))⟩
  obtain ⟨c, child, member⟩ := Node.mem_descendants_iff.mp lower
  rw [Node.children, Form.children_eq_slots (by simp), Form.slots, Link.slots_on, List.map_cons,
    List.mem_cons] at child
  rcases child with rfl | part
  · exact within mem_link.1 (inObject m member)
  · obtain ⟨s, slot, rfl⟩ := List.mem_map.mp part
    refine within (mem_link.2 (s.1, s.2.unchained true) ?_) (inParts s slot m member)
    rw [Link.slots_map]
    exact List.mem_map_of_mem slot

/-- Every link of a chain is in the rebuilt chain, and so is what is in its parts. -/
theorem rebuilt_mem_chain {n o c : Node} (found : n.chain? = some (o, c)) :
    (∀ d ∈ n.descendants, ∀ b, ∀ m ∈ d.preorder, ∃ f, m.rebuilt f ∈ (d.unchained b).preorder) →
      ∀ m ∈ n.preorder, ∃ f, m.rebuilt f ∈ c.preorder := by
  -- the chain itself is carried along, since the last link is rebuilt as the whole of it
  suffices both : n.chain? = some (o, c) ∧ ((∀ d ∈ n.descendants, ∀ b, ∀ m ∈ d.preorder,
      ∃ f, m.rebuilt f ∈ (d.unchained b).preorder) →
      ∀ m ∈ n.preorder, ∃ f, m.rebuilt f ∈ c.preorder) from both.2
  refine chain_induction (P := fun n o c => n.chain? = some (o, c) ∧ ((∀ d ∈ n.descendants, ∀ b,
    ∀ m ∈ d.preorder, ∃ f, m.rebuilt f ∈ (d.unchained b).preorder) →
    ∀ m ∈ n.preorder, ∃ f, m.rebuilt f ∈ c.preorder)) ?_ ?_ found
  · intro i link object
    have whole : Node.chain? ⟨i, .expr (link.on object true)⟩ = _ := chain?_on
    refine ⟨whole, fun below m member => ?_⟩
    rcases Node.mem_preorder_iff.mp member with rfl | lower
    · exact ⟨true, rebuilt_of_chain whole ▸ Node.self_mem_preorder _⟩
    · exact mem_rebuilt_link (below object object_mem true)
        (fun s slot => below s.2 (part_mem slot) true) lower
  · rintro i link object o c ⟨chain, ih⟩
    have whole : Node.chain? ⟨i, .expr (link.on object false)⟩ = _ := chain?_on
    rw [chain] at whole
    refine ⟨whole, fun below m member => ?_⟩
    rcases Node.mem_preorder_iff.mp member with rfl | lower
    · exact ⟨true, rebuilt_of_chain whole ▸ Node.self_mem_preorder _⟩
    · exact mem_rebuilt_link (ih fun d lower => below d (below_object lower))
        (fun s slot => below s.2 (part_mem slot) true) lower

/-- Whatever a tree has, what it becomes is in what the tree becomes. -/
theorem rebuilt_mem_unchained {n m : Node} {b : Bool} (member : m ∈ n.preorder) :
    ∃ f, m.rebuilt f ∈ (n.unchained b).preorder := by
  induction n using Node.descend generalizing b m with
  | step n ih =>
    cases chain : n.chain? with
    | some oc =>
      obtain ⟨o, c⟩ := oc
      obtain ⟨f, inChain⟩ := rebuilt_mem_chain chain (fun d lower b m inner => ih d lower inner) m member
      have special : n.shortCircuit? = some (Passes.shortCircuit n.pos o c) := by
        rw [Node.shortCircuit?, chain]
        rfl
      refine ⟨f, Node.preorder_trans inChain ?_⟩
      refine Node.descendants_subset_preorder (Node.child_mem_descendants ?_)
      rw [unchained_rewriting.value_of_special special, Node.children, form_marked]
      simp [Passes.shortCircuit, Node.expr, Node.plain, Form.children, Form.parts, ExprForm.parts]
    | none =>
      rcases Node.mem_preorder_iff.mp member with rfl | lower
      · exact ⟨b, rebuilt_of_none chain ▸ Node.self_mem_preorder _⟩
      · obtain ⟨c, child, inner⟩ := Node.mem_descendants_iff.mp lower
        obtain ⟨f, found⟩ := ih c (Node.child_mem_descendants child) inner
          (b := Passes.isInside n b)
        refine ⟨f, Node.preorder_trans found ?_⟩
        refine Node.descendants_subset_preorder (Node.child_mem_descendants ?_)
        rw [unchained_of_none chain, Node.children, Node.form_withForm, Form.children_map]
        exact List.mem_map_of_mem child

/-! ## Accesses -/

/-- Parentheses stay where they are. -/
theorem unwrapped_unchained (e : Node) (b : Bool) :
    ∃ f, (e.unchained b).unwrapped = (e.unwrapped.unchained f).unwrapped := by
  induction e using Node.childInduction generalizing b with
  | step e ih =>
    rcases e with ⟨i, g⟩
    by_cases wrapped : ∃ inner, g = .expr (.paren inner)
    · obtain ⟨inner, rfl⟩ := wrapped
      have none : Node.chain? ⟨i, .expr (.paren inner)⟩ = none :=
        chain?_of_endsOptional (by rw [Node.endsOptional] <;> simp)
      obtain ⟨f, same⟩ := ih inner (by simp [Node.children, Form.children, Form.parts, ExprForm.parts])
        (Passes.isInside ⟨i, .expr (.paren inner)⟩ b)
      refine ⟨f, ?_⟩
      rw [Node.unwrapped, ← same, unchained_of_none none]
      rfl
    · refine ⟨b, ?_⟩
      rw [unwrapped_of_other (n := ⟨i, g⟩) fun inner form => wrapped ⟨inner, form⟩]

/-- An access outside of chains stays an access. -/
theorem accessOf_unchained {m : Node} {b : Bool} (access : m.isAccess) (plain : m.endsOptional = false) :
    AccessOf m (m.unchained b).unwrapped := by
  obtain ⟨i, link, object, optional, rfl, isAccess⟩ := access_cases access
  rw [endsOptional_on, Bool.or_eq_false_iff] at plain
  obtain ⟨rfl, inner⟩ := plain
  have none : Node.chain? ⟨i, .expr (link.on object false)⟩ = none :=
    chain?_of_endsOptional (by rw [endsOptional_on, inner]; rfl)
  refine ⟨i, link, object, false, Passes.isInside ⟨i, .expr (link.on object false)⟩ b, rfl, isAccess, ?_⟩
  rw [unchained_of_none none, Node.withForm, Form.map_expr, Link.map_on, unwrapped_on,
    if_neg (by simp), rebuilt_of_none (chain?_of_endsOptional inner)]

/-- The access at the end of a chain stays an access in the rebuilt chain. -/
theorem accessOf_chain {m o c : Node} (access : m.isAccess) (found : m.chain? = some (o, c)) :
    AccessOf m c.unwrapped := by
  obtain ⟨i, link, object, optional, base, rfl, rfl, before⟩ := chain_cases found
  have isAccess : link.isAccess := by
    cases link <;> first | rfl | cases access
  rw [Node.expr, Node.plain, unwrapped_on]
  refine ⟨i, link, object, optional, true, rfl, isAccess, ?_⟩
  rcases before with ⟨rfl, rfl, rfl⟩ | ⟨rfl, before⟩
  · rfl
  · rw [if_neg (by simp), rebuilt_of_chain before]

/-- A call that is not cut off from its receiver stays a call on an access. -/
theorem accessOf_callee {i : Info} {callee : Node} {args : List Node} {optional : Bool}
    (access : callee.unwrapped.isAccess)
    (joined : callee.unwrapped.endsOptional → optional = false ∧ callee.isAccess)
    (b : Bool) : ∃ f new,
      (Node.rebuilt b ⟨i, .expr ((Link.call args).on callee optional)⟩).form
        = .expr (((Link.call args).map (Node.unchained f)).on new false)
      ∧ AccessOf callee.unwrapped new.unwrapped := by
  have chain : Node.chain? ⟨i, .expr ((Link.call args).on callee optional)⟩ = _ := chain?_on
  cases ends : callee.unwrapped.endsOptional with
  | true =>
    -- the callee is a link of the same chain
    obtain ⟨rfl, isAccess⟩ := joined ends
    have bare : callee.unwrapped = callee := by
      obtain ⟨j, link, object, opt, rfl, -⟩ := access_cases isAccess
      exact unwrapped_on
    rw [bare] at access ends ⊢
    obtain ⟨⟨o, c⟩, found⟩ := Option.isSome_iff_exists.mp ((isSome_chain? callee).trans ends)
    rw [found] at chain
    rw [rebuilt_of_chain chain]
    exact ⟨true, c, rfl, accessOf_chain access found⟩
  | false =>
    have kept (f : Bool) : AccessOf callee.unwrapped (callee.unchained f).unwrapped := by
      obtain ⟨g, same⟩ := unwrapped_unchained callee f
      exact same ▸ accessOf_unchained access ends
    cases optional with
    | true =>
      rw [rebuilt_of_chain chain]
      exact ⟨true, _, rfl, kept true⟩
    | false =>
      have none : callee.chain? = none := chain?_of_endsOptional (endsOptional_of_unwrapped ends)
      rw [none] at chain
      rw [rebuilt_of_none chain, unchained_of_none chain, Node.form_withForm, Form.map_expr, Link.map_on]
      exact ⟨_, _, rfl, kept _⟩

/-- The operand of an operator stays an access, unless it ends an optional chain. -/
theorem accessOf_operand {i : Info} {op : UnaryOp} {operand : Node} (access : operand.unwrapped.isAccess)
    (plain : operand.unwrapped.endsOptional = false) (b : Bool) : ∃ new,
      (Node.rebuilt b ⟨i, .expr (.unary op operand)⟩).form = .expr (.unary op new)
      ∧ AccessOf operand.unwrapped new.unwrapped := by
  have none : Node.chain? ⟨i, .expr (.unary op operand)⟩ = none :=
    chain?_of_endsOptional (by rw [Node.endsOptional] <;> simp)
  rw [rebuilt_of_none none, unchained_of_none none]
  obtain ⟨f, same⟩ := unwrapped_unchained operand (Passes.isInside ⟨i, .expr (.unary op operand)⟩ b)
  exact ⟨_, rfl, same ▸ accessOf_unchained access plain⟩

/-- Whether a node is a call on an access that ends an optional chain, and goes on with it. -/
def Node.goesOn (n : Node) : Bool :=
  match n.form with
  | .expr (.call callee _ false) =>
    callee.isAccess && callee.unwrapped.isAccess && callee.unwrapped.endsOptional
  | _ => false

/-- Whether a node is a call on an access. -/
def Node.callsAccess (n : Node) : Bool :=
  match n.form with
  | .expr (.call callee _ _) => callee.unwrapped.isAccess
  | _ => false

end Retype
