import Retype.Node.Walk
import Retype.Proofs.Tree.Layer

/-!
# Descent into a tree

A fold at a node is its step applied to the layer of the results of its children.
So a function that is a fold is opened one layer at a time, by `Node.fold_eq`.

`Node.descendants` lists the nodes strictly below a node.  `Node.descend` is the
induction that goes with it: what holds of a node whenever it holds of all nodes
below it holds of every node.
-/

namespace Retype

variable {β : Type}

theorem foldForm_eq_map (g : Node → Form β → β) (f : Form Node) :
    foldForm g f = f.map (·.fold g) := by
  cases f with
  | flow f =>
    cases f <;> simp [foldForm, foldFlowForm, FlowForm.map, FlowForm.mapM, foldChildren_eq_map,
      foldChild?_eq_map]
  | ts f =>
    cases f <;> simp [foldForm, foldTsForm, TsForm.map, TsForm.mapM, foldChildren_eq_map,
      foldChild?_eq_map]
  | expr f =>
    cases f <;> simp [foldForm, foldExprForm, ExprForm.map, ExprForm.mapM, foldChildren_eq_map,
      foldChild?_eq_map]
  | stmt f =>
    cases f <;> simp [foldForm, foldStmtForm, StmtForm.map, StmtForm.mapM, foldChildren_eq_map,
      foldChild?_eq_map]
  | foreign kind ps =>
    have item_eq : foldItem g = Item.map (·.fold g) := funext fun i => by
      cases i <;> simp [foldItem, Item.map]
    have part_eq : foldPart g = Part.map (·.fold g) := funext fun p => by
      cases p <;> simp [foldPart, Part.map, foldItems_eq_map, item_eq]
    simp [foldForm, foldParts_eq_map, part_eq]

namespace Node

@[simp]
theorem form_withForm (n : Node) (f : Form Node) : (n.withForm f).form = f := rfl

@[simp]
theorem info_withForm (n : Node) (f : Form Node) : (n.withForm f).info = n.info := rfl

theorem withForm_self (n : Node) : n.withForm n.form = n := by
  cases n
  rfl

/-- A fold opens one layer at a time. -/
theorem fold_eq (g : Node → Form β → β) (n : Node) : n.fold g = g n (n.form.map (·.fold g)) := by
  cases n with
  | mk i f => rw [Node.fold, foldForm_eq_map]

/-- The nodes strictly below a node. -/
def descendants (n : Node) : List Node := n.children.flatMap preorder

theorem preorder_eq_cons_descendants (n : Node) : n.preorder = n :: n.descendants := n.preorder_eq

theorem self_mem_preorder (n : Node) : n ∈ n.preorder := by
  rw [preorder_eq_cons_descendants]
  exact List.mem_cons_self

theorem mem_preorder_iff {m n : Node} : m ∈ n.preorder ↔ m = n ∨ m ∈ n.descendants := by
  rw [preorder_eq_cons_descendants, List.mem_cons]

theorem mem_descendants_iff {m n : Node} : m ∈ n.descendants ↔ ∃ c ∈ n.children, m ∈ c.preorder := by
  rw [descendants, List.mem_flatMap]

theorem child_mem_descendants {c n : Node} (child : c ∈ n.children) : c ∈ n.descendants :=
  mem_descendants_iff.mpr ⟨c, child, c.self_mem_preorder⟩

theorem descendants_subset_preorder {m n : Node} (member : m ∈ n.descendants) : m ∈ n.preorder :=
  mem_preorder_iff.mpr (.inr member)

theorem count_pos (n : Node) : 0 < n.count := by
  rw [count_eq]
  omega

theorem count_lt_of_child {c n : Node} (child : c ∈ n.children) : c.count < n.count := by
  have part : c.count ≤ countAll n.children := by
    rw [count, countAll, List.flatMap_def]
    exact (List.sublist_flatten_of_mem (List.mem_map_of_mem child)).length_le
  rw [count_eq n]
  omega

/-- Induction from the children to a node. -/
theorem childInduction {P : Node → Prop} (step : ∀ n, (∀ c ∈ n.children, P c) → P n) (n : Node) :
    P n := by
  induction size : n.count using Nat.strongRecOn generalizing n with
  | _ k ih =>
    apply step
    intro c child
    exact ih c.count (size ▸ count_lt_of_child child) c rfl

/-- What lies below a node below another lies below the other. -/
theorem preorder_trans {k m n : Node} (inner : k ∈ m.preorder) (outer : m ∈ n.preorder) :
    k ∈ n.preorder := by
  induction n using childInduction with
  | step n ih =>
    rcases mem_preorder_iff.mp outer with rfl | lower
    · exact inner
    · obtain ⟨c, child, member⟩ := mem_descendants_iff.mp lower
      exact descendants_subset_preorder (mem_descendants_iff.mpr ⟨c, child, ih c child member⟩)

theorem descendants_trans {k m n : Node} (inner : k ∈ m.preorder) (outer : m ∈ n.descendants) :
    k ∈ n.descendants := by
  obtain ⟨c, child, member⟩ := mem_descendants_iff.mp outer
  exact mem_descendants_iff.mpr ⟨c, child, preorder_trans inner member⟩

theorem count_lt_of_descendants {m n : Node} (lower : m ∈ n.descendants) : m.count < n.count := by
  induction n using childInduction with
  | step n ih =>
    obtain ⟨c, child, member⟩ := mem_descendants_iff.mp lower
    have smaller := count_lt_of_child child
    rcases mem_preorder_iff.mp member with rfl | deeper
    · exact smaller
    · exact Nat.lt_trans (ih c child deeper) smaller

/-- Induction from all nodes below a node to the node. -/
theorem descend {P : Node → Prop} (step : ∀ n, (∀ m ∈ n.descendants, P m) → P n) (n : Node) : P n := by
  induction size : n.count using Nat.strongRecOn generalizing n with
  | _ k ih =>
    apply step
    intro m lower
    exact ih m.count (size ▸ count_lt_of_descendants lower) m rfl

/-- A property of all nodes of a tree holds at its root and in the trees of its children. -/
theorem forall_mem_preorder_iff {P : Node → Prop} {n : Node} :
    (∀ m ∈ n.preorder, P m) ↔ P n ∧ ∀ c ∈ n.children, ∀ m ∈ c.preorder, P m := by
  constructor
  · intro all
    refine ⟨all n n.self_mem_preorder, ?_⟩
    intro c child m member
    exact all m (descendants_subset_preorder (mem_descendants_iff.mpr ⟨c, child, member⟩))
  · rintro ⟨root, rest⟩ m member
    rcases mem_preorder_iff.mp member with rfl | lower
    · exact root
    · obtain ⟨c, child, inner⟩ := mem_descendants_iff.mp lower
      exact rest c child m inner

/-- What is listed of all nodes of a tree is listed of its root and of the trees of its children. -/
theorem filterMap_preorder {α : Type} (k : Node → Option α) (n : Node) :
    n.preorder.filterMap k = (k n).toList ++ n.children.flatMap (·.preorder.filterMap k) := by
  rw [preorder_eq_cons_descendants, List.filterMap_cons, descendants, List.filterMap_flatMap]
  cases k n <;> rfl

end Node

end Retype
