import Retype.Proofs.Pass.Stage

/-!
# Rewritten expressions

Two passes follow no rule.  They replace *special* expressions, and each replacement is built
from what the parts of the expression become.  `Rewriting` says what such a pass has to do with
its special expressions.  Everything else follows: the pass changes no type, it keeps the roles
of all nodes, it commutes with the rules, and what is found first in a tree stays the same.
-/

namespace Retype

open Node (Converted Parsed)
open Retype.Convert
open Passes (isInside marked replacement)

variable {α : Type}

/-- The first thing found in a tree, a node before its children. -/
def Node.first (k : Node → Option α) (n : Node) : Option α := (n.preorder.filterMap k).head?

theorem Node.first_eq (k : Node → Option α) (n : Node) :
    n.first k = (k n).or (n.children.findSome? (Node.first k)) := by
  rw [first, filterMap_preorder, List.head?_append, List.head?_flatMap]
  cases k n <;> rfl

theorem Node.first_eq_none_iff {k : Node → Option α} {n : Node} :
    n.first k = none ↔ ∀ m ∈ n.preorder, k m = none := by
  rw [first, List.head?_eq_none_iff, List.filterMap_eq_nil_iff]

/-! ## Replacements -/

section Marks

variable {n m : Node} {b : Bool}

theorem form_marked : (marked n b m).form = m.form := by
  rw [marked]
  split <;> rfl

theorem first_marked {k : Node → Option α} (exprs : ∀ i f, k ⟨i, .expr f⟩ = none)
    (isExpr : ∃ f, m.form = .expr f) : (marked n b m).first k = m.first k := by
  have form := form_marked (n := n) (m := m) (b := b)
  generalize marked n b m = new at form
  rcases m with ⟨i, f⟩
  rcases new with ⟨j, g⟩
  obtain ⟨f, rfl⟩ := isExpr
  cases form
  rw [Node.first_eq, Node.first_eq, exprs, exprs]
  rfl

theorem after_marked {S : List Topic} (isExpr : ∃ f, m.form = .expr f) :
    (marked n b m).after S = marked n b (m.after S) := by
  rcases m with ⟨i, f⟩
  obtain ⟨f, rfl⟩ := isExpr
  rw [marked, marked]
  split
  · rfl
  · rw [Node.addComment, Node.after_of_topic_none rfl, Node.after_of_topic_none rfl]
    rfl

/-- Nothing depends on the place of an expression. -/
theorem formed_expr {i j : Info} {f : ExprForm Node} (formed : Node.Formed Parsed ⟨i, .expr f⟩) :
    Node.Formed Parsed ⟨j, .expr f⟩ := by
  obtain ⟨-, sound, slots⟩ := Node.formed_iff.mp formed
  exact Node.formed_iff.mpr ⟨⟨by simp, by simp [Form.isHolder]⟩, sound, slots⟩

theorem formed_marked (isExpr : ∃ f, m.form = .expr f) (formed : m.Formed Parsed) :
    (marked n b m).Formed Parsed := by
  have form := form_marked (n := n) (m := m) (b := b)
  generalize marked n b m = new at form
  rcases m with ⟨i, f⟩
  rcases new with ⟨j, g⟩
  obtain ⟨f, rfl⟩ := isExpr
  cases form
  exact formed_expr formed

end Marks

/-- A pass that replaces special expressions. -/
structure Rewriting (special : Node → Option Node) (value : Bool → Node → Node) : Prop where
  /-- A special node is replaced.  In any other node, the children are. -/
  eq : ∀ b n, value b n = match special n with
    | some m => marked n b m
    | none => n.withForm (n.form.map (value (isInside n b)))
  /-- Special nodes and their replacements are expressions. -/
  isExpr : ∀ n m, special n = some m → ((∃ f, n.form = .expr f) ∧ n.form.roles = Role.ofExpr)
    ∧ (∃ f, m.form = .expr f) ∧ .expr ∈ m.form.roles
  /-- No node of a type is special. -/
  typing : ∀ n, n.IsTyping → special n = none
  /-- A replacement is well-formed if its parts are. -/
  formed : ∀ n m, special n = some m → n.Formed Parsed →
    (∀ c ∈ n.descendants, ∀ b r, c.Plays Parsed r → (value b c).Plays Parsed r) → m.Formed Parsed
  /-- A replacement is the same at every stage, if its parts are. -/
  after : ∀ S n, n.Formed Parsed → n.Good S →
    (∀ c ∈ n.descendants, ∀ b, value b (c.after S) = (value b c).after S) →
    (∃ f, n.form = .expr f) → special (n.layer S) = (special n).map (Node.after S)
  /-- What is found first in a replacement is what is found first in its parts. -/
  first : ∀ {α : Type} (k : Node → Option α) n m, (∀ i f, k ⟨i, .expr f⟩ = none) →
    special n = some m → (∀ c ∈ n.descendants, ∀ b, (value b c).first k = c.first k) →
    m.first k = n.first k

theorem replaced_of_isDeclare {s : Node} (other : s.form.isDeclare = false) : s.replaced = [s] := by
  rw [Node.replaced, kept_of_isDeclare other]
  rfl

namespace Rewriting

variable {special : Node → Option Node} {value : Bool → Node → Node} (w : Rewriting special value)
  {n : Node} {b : Bool}

include w

theorem value_of_special {m : Node} (found : special n = some m) : value b n = marked n b m := by
  rw [w.eq, found]

theorem value_of_none (none : special n = none) :
    value b n = n.withForm (n.form.map (value (isInside n b))) := by
  rw [w.eq, none]

theorem special_none (other : ∀ f, n.form ≠ .expr f) : special n = none := by
  cases found : special n with
  | none => rfl
  | some m =>
    obtain ⟨⟨⟨f, form⟩, -⟩, -⟩ := w.isExpr n m found
    exact absurd form (other f)

/-- A node that is no expression stays. -/
theorem value_of_other (other : ∀ f, n.form ≠ .expr f) :
    value b n = n.withForm (n.form.map (value (isInside n b))) :=
  w.value_of_none (w.special_none other)

theorem value_stmt (b : Bool) (i : Info) (f : StmtForm Node) : value b ⟨i, .stmt f⟩
    = ⟨i, .stmt (f.map (value (isInside ⟨i, .stmt f⟩ b)))⟩ :=
  w.value_of_other (by simp)

/-- A tree without special nodes stays as it is. -/
theorem value_fixed (none : ∀ m ∈ n.preorder, special m = none) : value b n = n := by
  induction n using Node.childInduction generalizing b with
  | step n ih =>
    obtain ⟨root, rest⟩ := Node.forall_mem_preorder_iff.mp none
    rw [w.value_of_none root, Form.map_eq_self fun c child => ih c child (rest c child),
      Node.withForm_self]

/-- Types stay as they are. -/
theorem value_typing (types : n.IsTyping) : value b n = n :=
  w.value_fixed fun m member => w.typing m fun _ inner => types _ (Node.preorder_trans inner member)

/-- A node keeps its layer, or it is an expression and becomes one. -/
theorem form_value (b : Bool) (n : Node) : (∃ k, (value b n).form = n.form.map k)
    ∨ n.form.roles = Role.ofExpr ∧ (∃ f, n.form = .expr f) ∧ (∃ f, (value b n).form = .expr f)
      ∧ .expr ∈ (value b n).form.roles := by
  cases found : special n with
  | none =>
    rw [w.value_of_none found]
    exact .inl ⟨_, rfl⟩
  | some m =>
    obtain ⟨⟨isExpr, roles⟩, new, newRole⟩ := w.isExpr n m found
    rw [w.value_of_special found, form_marked]
    exact .inr ⟨roles, isExpr, new, newRole⟩

/-! ## Roles -/

theorem roles_value {r : Role} (role : r ∈ n.form.roles) : r ∈ (value b n).form.roles := by
  rcases w.form_value b n with ⟨k, form⟩ | ⟨roles, -, -, isExpr⟩
  · rw [form, Form.roles_map]
    exact role
  · exact Form.roles_of_expr isExpr r (roles ▸ role)

theorem formed_value (formed : n.Formed Parsed) : (value b n).Formed Parsed := by
  induction n using Node.descend generalizing b with
  | step n ih =>
    have below : ∀ c ∈ n.descendants, ∀ b r, c.Plays Parsed r → (value b c).Plays Parsed r :=
      fun c lower b r plays => ⟨w.roles_value plays.1, ih c lower plays.2⟩
    cases found : special n with
    | some m =>
      obtain ⟨-, isExpr, -⟩ := w.isExpr n m found
      rw [w.value_of_special found]
      exact formed_marked isExpr (w.formed n m found formed below)
    | none =>
      rw [w.value_of_none found]
      obtain ⟨-, -, slots⟩ := Node.formed_iff.mp formed
      refine Node.formed_map formed (fun s slot => ?_) fun a isAnnot => ?_
      · exact below s.2 (Node.child_mem_descendants (Node.mem_children_of_slot slot)) _ _ (slots s slot)
      · exact w.value_typing (Node.isTyping_of_plays isAnnot (.inl rfl))

theorem plays_value {r : Role} (plays : n.Plays Parsed r) : (value b n).Plays Parsed r :=
  ⟨w.roles_value plays.1, w.formed_value plays.2⟩

/-! ## What is found first -/

theorem isDeclare_value (b : Bool) (n : Node) : (value b n).form.isDeclare = n.form.isDeclare := by
  rcases w.form_value b n with ⟨k, form⟩ | ⟨-, ⟨f, form⟩, ⟨g, new⟩, -⟩
  · rw [form, Form.isDeclare_map]
  · rw [form, new]
    rfl

theorem first_value {k : Node → Option α} (exprs : ∀ i f, k ⟨i, .expr f⟩ = none)
    (stays : ∀ m ∈ n.preorder, ∀ b, k (m.withForm (m.form.map (value b))) = k m) :
    (value b n).first k = n.first k := by
  induction n using Node.descend generalizing b with
  | step n ih =>
    have below : ∀ c ∈ n.descendants, ∀ b, (value b c).first k = c.first k := by
      intro c lower b
      refine ih c lower fun m inner => stays m ?_
      exact Node.preorder_trans inner (Node.descendants_subset_preorder lower)
    cases found : special n with
    | some m =>
      obtain ⟨-, isExpr, -⟩ := w.isExpr n m found
      rw [w.value_of_special found, first_marked exprs isExpr, w.first k n m exprs found below]
    | none =>
      rw [w.value_of_none found, Node.first_eq, Node.first_eq k n, stays n n.self_mem_preorder]
      refine congrArg _ ?_
      rw [Node.children, Node.form_withForm, Form.children_map, List.findSome?_map,
        ← List.head?_filterMap, ← List.head?_filterMap]
      exact congrArg _ (List.filterMap_congr fun c child => below c (Node.child_mem_descendants child) _)

/-- A statement that cannot be converted stays one. -/
theorem badExport?_value (formed : n.Formed Parsed) : (value b n).badExport? = n.badExport? := by
  cases declares : n.form.isDeclare with
  | true => rw [w.value_typing (isTyping_of_isDeclare formed declares)]
  | false =>
    rw [badExport?_of_isDeclare declares,
      badExport?_of_isDeclare ((w.isDeclare_value b n).trans declares)]

theorem badExports_map {ss : List Node} (formed : ∀ s ∈ ss, s.Formed Parsed) :
    (ss.map (value b)).findSome? Node.badExport? = ss.findSome? Node.badExport? := by
  rw [List.findSome?_map, ← List.head?_filterMap, ← List.head?_filterMap]
  exact congrArg _ (List.filterMap_congr fun s member => w.badExport?_value (formed s member))

theorem badStatement?_map (formed : n.Formed Parsed) :
    (n.withForm (n.form.map (value b))).badStatement? = n.badStatement? := by
  by_cases topic : n.form.topic? = some .declarations
  · have each := fun c => formed.of_child (c := c)
    rcases n with ⟨i, f⟩
    obtain ⟨ss, rfl | rfl⟩ := block_of_topic topic
    all_goals
      simp only [Node.withForm, Form.map_stmt, StmtForm.map, StmtForm.mapM, mapChildren_pure, Id.run,
        Node.badStatement?]
      refine w.badExports_map fun s member => each s ?_
      simp [Node.children, Form.children, Form.parts, StmtForm.parts, member]
  · rw [badStatement?_of_topic topic, badStatement?_of_topic (by rwa [Node.form_withForm, Form.topic?_map])]

theorem failure?_value (q : Topic) (formed : n.Formed Parsed) :
    (value b n).failure? q = n.failure? q := by
  rw [Node.failure?, Node.failure?]
  split
  · exact w.first_value (fun _ _ => rfl) fun m member b => w.badStatement?_map (formed.of_mem member)
  · rfl

theorem good_value {S : List Topic} (formed : n.Formed Parsed) (good : n.Good S) :
    (value b n).Good S := by
  intro settled
  have fine := good.failure? settled
  rw [← w.failure?_value (b := b) .declarations formed, Node.failure?, if_pos rfl] at fine
  exact Node.first_eq_none_iff.mp fine

/-! ## Layers -/

/-- Every layer that a pass leaves behind is a layer of the tree that is not special, or it is
part of a replacement. -/
theorem forall_mem_value {P : Form Node → Prop}
    (stays : ∀ m ∈ n.preorder, special m = none → ∀ b, P (m.form.map (value b)))
    (built : ∀ m ∈ n.preorder, ∀ new, special m = some new →
      (∀ c ∈ m.descendants, ∀ b, ∀ k ∈ (value b c).preorder, P k.form) →
      ∀ k ∈ new.preorder, P k.form) : ∀ k ∈ (value b n).preorder, P k.form := by
  induction n using Node.descend generalizing b with
  | step n ih =>
    have below : ∀ c ∈ n.descendants, ∀ b, ∀ k ∈ (value b c).preorder, P k.form := by
      intro c lower b
      have inner := fun m member => Node.preorder_trans (k := m) (m := c) member
        (Node.descendants_subset_preorder lower)
      exact ih c lower (fun m member => stays m (inner m member))
        fun m member => built m (inner m member)
    cases found : special n with
    | none =>
      rw [w.value_of_none found]
      refine Node.forall_mem_preorder_iff.mpr ⟨stays n n.self_mem_preorder found _, ?_⟩
      rw [Node.children, Node.form_withForm, Form.children_map, List.forall_mem_map]
      exact fun c child => below c (Node.child_mem_descendants child) _
    | some m =>
      have replaced := built n n.self_mem_preorder m found below
      rw [Node.forall_mem_preorder_iff] at replaced
      rw [w.value_of_special found, Node.forall_mem_preorder_iff, Node.children, form_marked]
      exact replaced

/-! ## Stages -/

variable {S : List Topic}

/-- A layer whose children stay, stays. -/
theorem value_of_children (other : ∀ f, n.form ≠ .expr f)
    (fixed : ∀ c ∈ n.children, ∀ b, value b c = c) : value b n = n := by
  rw [w.value_of_other other, Form.map_eq_self fun c child => fixed c child _, Node.withForm_self]

/-- What takes the place of a statement does so before and after its expressions are replaced. -/
theorem value_replaced {s : Node} (plays : s.Plays Parsed .stmt) (good : s.badExport? = none)
    (here : value b (s.after S) = (value b s).after S) :
    s.replaced.map (fun r => value b (r.after S)) = (value b s).replaced.map (Node.after S) := by
  have shape := (statement_turns plays.2 plays.1 good).shape
  cases declares : s.form.isDeclare with
  | false =>
    rw [replaced_of_isDeclare declares,
      replaced_of_isDeclare ((w.isDeclare_value b s).trans declares), List.map_singleton,
      List.map_singleton, here]
  | true =>
    rw [w.value_typing (isTyping_of_isDeclare plays.2 declares)]
    refine List.map_congr_left fun r member => ?_
    generalize s.replaced = news at shape member
    cases shape with
    | kept other => rw [declares] at other; cases other
    | declaration declared =>
      rw [List.mem_singleton] at member
      rw [member, w.value_typing ((declared.typed _).isTyping S)]
    | named declared =>
      rw [List.mem_singleton] at member
      rw [member, spent_exportNamed.after, layer_exportNamed]
      refine w.value_of_children (by simp) fun c child b => ?_
      obtain rfl : c = Node.after S (.ts _ _) := by
        simpa [Node.children, Form.children, Form.parts, StmtForm.parts, Part.ofImportKind?] using child
      exact w.value_typing ((declared.typed _).isTyping S)
    | default declared =>
      rw [List.mem_cons, List.mem_singleton] at member
      rcases member with rfl | rfl
      · exact w.value_typing ((declared.typed _).isTyping S)
      · have ident : ∀ pos name, (Node.ident pos name).Formed Converted := fun pos name =>
          (plays_ident (r := .expr) (by simp [ExprForm.roles, Role.ofExpr])).2
        rw [Node.after_of_topic_none rfl]
        refine w.value_of_children (by simp [Node.layer]) fun c child b => ?_
        rw [Node.children_layer] at child
        obtain rfl : c = Node.after S (.ident _ _) := by
          simpa [Node.children, Form.children, Form.parts, StmtForm.parts] using child
        rw [Node.after_of_converted (ident _ _), w.value_typing (Node.isTyping_of_converted (ident _ _))]

section Blocks

variable {i : Info} {ss : List Node}

theorem value_replacements (fits : ∀ s ∈ ss, s.Plays Parsed .stmt)
    (good : ss.findSome? Node.badExport? = none)
    (each : ∀ s ∈ ss, ∀ b, value b (s.after S) = (value b s).after S) :
    ((ss.flatMap Node.replaced).map (Node.after S)).map (value b)
      = ((ss.map (value b)).flatMap Node.replaced).map (Node.after S) := by
  rw [List.map_map, List.map_flatMap, List.map_flatMap, List.flatMap_map]
  refine List.flatMap_congr fun s member => ?_
  exact w.value_replaced (fits s member) (List.findSome?_eq_none_iff.mp good s member)
    (each s member b)

theorem value_after_program (settled : .declarations ∈ S)
    (fits : ∀ s ∈ ss, s.Plays Parsed .stmt) (good : ss.findSome? Node.badExport? = none)
    (each : ∀ s ∈ ss, ∀ b, value b (s.after S) = (value b s).after S) :
    value b (Node.after S ⟨i, .stmt (.program ss)⟩) = (value b ⟨i, .stmt (.program ss)⟩).after S := by
  have stays : ∀ ts, value b ⟨i, .stmt (.program ts)⟩
      = ⟨i, .stmt (.program (ts.map (value (isInside ⟨i, .stmt (.program ss)⟩ b))))⟩ := by
    intro ts
    rw [w.value_stmt]
    simp only [StmtForm.map, StmtForm.mapM, mapChildren_pure]
    rfl
  have before := turns_program (i := i) fits good
  have areStmts : ∀ s ∈ ss.map (value (isInside ⟨i, .stmt (.program ss)⟩ b)), s.Plays Parsed .stmt :=
    List.forall_mem_map.mpr fun s member => w.plays_value (fits s member)
  have later := turns_program (i := i) areStmts
    ((w.badExports_map fun s member => (fits s member).2).trans good)
  rw [stays, later.after settled, later.spent.after, layer_program, before.after settled,
    before.spent.after, layer_program, stays, w.value_replacements fits good each]

theorem value_after_block (settled : .declarations ∈ S)
    (fits : ∀ s ∈ ss, s.Plays Parsed .stmt) (good : ss.findSome? Node.badExport? = none)
    (each : ∀ s ∈ ss, ∀ b, value b (s.after S) = (value b s).after S) :
    value b (Node.after S ⟨i, .stmt (.block ss)⟩) = (value b ⟨i, .stmt (.block ss)⟩).after S := by
  have stays : ∀ ts, value b ⟨i, .stmt (.block ts)⟩
      = ⟨i, .stmt (.block (ts.map (value (isInside ⟨i, .stmt (.block ss)⟩ b))))⟩ := by
    intro ts
    rw [w.value_stmt]
    simp only [StmtForm.map, StmtForm.mapM, mapChildren_pure]
    rfl
  have before := turns_block (i := i) fits good
  have areStmts : ∀ s ∈ ss.map (value (isInside ⟨i, .stmt (.block ss)⟩ b)), s.Plays Parsed .stmt :=
    List.forall_mem_map.mpr fun s member => w.plays_value (fits s member)
  have later := turns_block (i := i) areStmts
    ((w.badExports_map fun s member => (fits s member).2).trans good)
  rw [stays, later.after settled, later.spent.after, layer_block, before.after settled,
    before.spent.after, layer_block, stays, w.value_replacements fits good each]

end Blocks

theorem value_after_typecast {i : Info} {e a : Node} (settled : .casts ∈ S)
    (isExpr : e.Plays Parsed .expr) (isAnnot : a.Plays Parsed .annot)
    (here : ∀ b, value b (e.after S) = (value b e).after S) :
    value b (Node.after S ⟨i, .flow (.typecast e a)⟩)
      = (value b ⟨i, .flow (.typecast e a)⟩).after S := by
  obtain ⟨u, isType, turns⟩ := turns_typecast isAnnot
  have cast : ∀ e : Node, .expr ∈ e.form.roles →
      Node.after S ⟨i, .flow (.typecast e a)⟩ = ⟨i, .ts (.cast (e.after S) u)⟩ := by
    intro e role
    rw [(turns i e role).after settled, spent_ts.after, layer_cast,
      Node.after_of_converted isType.2]
  have before : value b ⟨i, .flow (.typecast e a)⟩
      = ⟨i, .flow (.typecast (value (isInside ⟨i, .flow (.typecast e a)⟩ b) e) a)⟩ := by
    rw [w.value_of_other (by simp)]
    have same := w.value_typing (b := isInside ⟨i, .flow (.typecast e a)⟩ b)
      (Node.isTyping_of_plays isAnnot (.inl rfl))
    exact congrArg (fun a => Node.mk i (.flow (.typecast _ a))) same
  have later : value b ⟨i, .ts (.cast (e.after S) u)⟩
      = ⟨i, .ts (.cast (value (isInside ⟨i, .flow (.typecast e a)⟩ b) (e.after S)) u)⟩ := by
    rw [w.value_of_other (by simp)]
    have same := w.value_typing (b := isInside ⟨i, .flow (.typecast e a)⟩ b)
      (Node.isTyping_of_converted isType.2)
    exact congrArg (fun u => Node.mk i (.ts (.cast _ u))) same
  rw [cast e isExpr.1, later, before, cast _ (w.roles_value isExpr.1), here]

/-- Replacing expressions and following rules commute. -/
theorem value_after (formed : n.Formed Parsed) (good : n.Good S) :
    value b (n.after S) = (value b n).after S := by
  induction n using Node.descend generalizing b with
  | step n ih =>
    have below : ∀ c ∈ n.descendants, ∀ b, value b (c.after S) = (value b c).after S :=
      fun c lower b => ih c lower (formed.of_mem (Node.descendants_subset_preorder lower))
        (good.below lower)
    have each := fun c child => below c (Node.child_mem_descendants child)
    have layered (others : ∀ t ∈ S, n.form.topic? ≠ some t) :
        value b (n.layer S) = (value b n).after S := by
      cases found : special n with
      | none =>
        have still : special (n.layer S) = none := by
          by_cases isExpr : ∃ f, n.form = .expr f
          · rw [w.after S n formed good below isExpr, found]
            rfl
          · refine w.special_none fun f form => isExpr ?_
            rcases n with ⟨i, g⟩
            cases g with
            | expr g => exact ⟨g, rfl⟩
            | _ => cases form
        rw [w.value_of_none still, w.value_of_none found, Node.after_of_topic]
        · change Node.mk n.info ((n.form.map (Node.after S)).map _)
            = ⟨n.info, (n.form.map _).map (Node.after S)⟩
          rw [Form.map_map, Form.map_map]
          exact congrArg (Node.mk n.info) (Form.map_congr fun c child => each c child _)
        · intro t inS
          rw [Node.form_withForm, Form.topic?_map]
          exact others t inS
      | some m =>
        obtain ⟨⟨isExpr, -⟩, new, -⟩ := w.isExpr n m found
        have still := w.after S n formed good below isExpr
        rw [found] at still
        rw [w.value_of_special still, w.value_of_special found, after_marked new]
        rfl
    cases topic : n.form.topic? with
    | none =>
      rw [Node.after_of_topic_none topic]
      exact layered (by simp [topic])
    | some t =>
      by_cases settled : t ∈ S
      · by_cases same : t = .declarations
        · subst same
          have fine := good settled n n.self_mem_preorder
          obtain ⟨-, -, slots⟩ := Node.formed_iff.mp formed
          rcases n with ⟨i, f⟩
          obtain ⟨ss, rfl | rfl⟩ := block_of_topic topic
          all_goals
            simp only [Form.slots, StmtForm.slots, Role.forall_mem_forAll] at slots
            have here : ∀ s ∈ ss, ∀ b, value b (s.after S) = (value b s).after S := fun s member =>
              each s (by simp [Node.children, Form.children, Form.parts, StmtForm.parts, member])
          · exact w.value_after_program settled slots fine here
          · exact w.value_after_block settled slots fine here
        obtain ⟨new, turns⟩ := good.turns formed topic settled
        cases turns.shape with
        | typing types typed =>
          rw [w.value_typing types, turns.after settled, w.value_typing (typed.isTyping S)]
        | @cast i e a u types converted =>
          obtain ⟨-, -, slots⟩ := Node.formed_iff.mp formed
          simp only [Form.slots, FlowForm.slots, List.forall_mem_cons] at slots
          cases topic
          refine w.value_after_typecast settled slots.1 slots.2.1 (each e ?_)
          simp [Node.children, Form.children, Form.parts, FlowForm.parts]
        | @unmarked i f =>
          have fits := (w.formed_value (b := b) formed).fits
          rw [w.value_stmt] at fits ⊢
          have later := turns_unmarked fits ((Form.topic?_map _ (.stmt f)).trans topic) same
          have children := children_of_slots (i := i) (j := i) (StmtForm.slots_unmarked f)
          rw [turns.after settled, turns.spent.after, later.after settled, later.spent.after,
            StmtForm.unmarked_map, Node.layer, w.value_of_other (by simp [Node.withForm])]
          change Node.mk i (((Form.stmt f.unmarked).map (Node.after S)).map _)
            = ⟨i, ((Form.stmt f.unmarked).map _).map (Node.after S)⟩
          rw [Form.map_map, Form.map_map]
          refine congrArg (Node.mk i) (Form.map_congr fun c child => each c ?_ _)
          exact children ▸ child
        | program | block => exact absurd (Option.some.inj topic).symm same
      · rw [after_of_unsettled topic settled]
        refine layered fun u inS same => settled ?_
        exact Option.some.inj (topic.symm.trans same) ▸ inS

end Rewriting

end Retype
