import Retype.Node.Fold
import Mathlib.Data.List.Basic

/-!
# Laws of one layer

`Form.map` changes the children of a layer and nothing else.  It is a functor, it
keeps the kind, and it acts on the list of children.  Two maps that agree on the
children of a layer change it in the same way.

The laws are proved for each of the four groups of layers and for a foreign layer,
and then put together.
-/

namespace Retype

variable {α β γ : Type}

/-! ## Maps without effects -/

@[simp]
theorem mapChildren_pure (k : α → β) (as : List α) :
    mapChildren (m := Id) (fun a => pure (k a)) as = pure (as.map k) := by
  induction as with
  | nil => rfl
  | cons a as ih => simp [mapChildren, ih]

@[simp]
theorem mapChild?_pure (k : α → β) (a : Option α) :
    mapChild? (m := Id) (fun a => pure (k a)) a = pure (a.map k) := by
  cases a <;> rfl

/-- Changes the child that an item may be. -/
def Item.map (k : α → β) : Item α → Item β
  | .node a => .node (k a)
  | .datum d => .datum d

/-- Changes the children inside a part. -/
def Part.map (k : α → β) : Part α → Part β
  | .node a => .node (k a)
  | .list items => .list (items.map (Item.map k))
  | .text s => .text s
  | .flag b => .flag b
  | .absent => .absent

theorem Item.mapM_pure (k : α → β) (i : Item α) :
    i.mapM (m := Id) (fun a => pure (k a)) = pure (i.map k) := by
  cases i <;> rfl

theorem Part.mapM_pure (k : α → β) (p : Part α) :
    p.mapM (m := Id) (fun a => pure (k a)) = pure (p.map k) := by
  cases p with
  | list items =>
    have items_eq : (fun i : Item α => i.mapM (m := Id) fun a => pure (k a))
        = fun i => pure (i.map k) := funext (Item.mapM_pure k)
    simp [Part.mapM, Part.map, items_eq]
  | _ => rfl

/-- Changes the children of a layer of this group. -/
def FlowForm.map (k : α → β) (f : FlowForm α) : FlowForm β := Id.run (f.mapM fun a => pure (k a))

/-- Changes the children of a layer of this group. -/
def TsForm.map (k : α → β) (f : TsForm α) : TsForm β := Id.run (f.mapM fun a => pure (k a))

/-- Changes the children of a layer of this group. -/
def ExprForm.map (k : α → β) (f : ExprForm α) : ExprForm β := Id.run (f.mapM fun a => pure (k a))

/-- Changes the children of a layer of this group. -/
def StmtForm.map (k : α → β) (f : StmtForm α) : StmtForm β := Id.run (f.mapM fun a => pure (k a))

@[simp]
theorem Form.map_flow (k : α → β) (f : FlowForm α) : (Form.flow f).map k = .flow (f.map k) := rfl

@[simp]
theorem Form.map_ts (k : α → β) (f : TsForm α) : (Form.ts f).map k = .ts (f.map k) := rfl

@[simp]
theorem Form.map_expr (k : α → β) (f : ExprForm α) : (Form.expr f).map k = .expr (f.map k) := rfl

@[simp]
theorem Form.map_stmt (k : α → β) (f : StmtForm α) : (Form.stmt f).map k = .stmt (f.map k) := rfl

@[simp]
theorem Form.map_foreign (k : α → β) (kind : String) (ps : List (Part α)) :
    (Form.foreign kind ps).map k = .foreign kind (ps.map (Part.map k)) := by
  have parts_eq : (fun p : Part α => p.mapM (m := Id) fun a => pure (k a))
      = fun p => pure (p.map k) := funext (Part.mapM_pure k)
  simp [Form.map, Form.mapM, parts_eq]

/-! ## Parts and children -/

section Layers

attribute [local simp] FlowForm.map FlowForm.mapM TsForm.map TsForm.mapM ExprForm.map
  ExprForm.mapM StmtForm.map StmtForm.mapM Form.parts FlowForm.parts TsForm.parts ExprForm.parts
  StmtForm.parts Part.ofVariance? Part.ofImportKind?

@[simp]
theorem Part.map_node (k : α → β) (a : α) : (Part.node a).map k = .node (k a) := rfl

@[simp]
theorem Part.map_text (k : α → β) (s : String) : (Part.text s).map k = .text s := rfl

@[simp]
theorem Part.map_flag (k : α → β) (b : Bool) : (Part.flag b).map k = .flag b := rfl

@[simp]
theorem Part.map_absent (k : α → β) : (Part.absent : Part α).map k = .absent := rfl

@[simp]
theorem Part.map_ofChildren (k : α → β) (as : List α) :
    (Part.ofChildren as).map k = .ofChildren (as.map k) := by
  simp [Part.ofChildren, Part.map, Item.map]

@[simp]
theorem Part.map_ofChild? (k : α → β) (a : Option α) :
    (Part.ofChild? a).map k = .ofChild? (a.map k) := by
  cases a <;> rfl

@[simp]
theorem Part.map_ofText? (k : α → β) (s : Option String) :
    (Part.ofText? s).map k = .ofText? s := by
  cases s <;> rfl

@[simp]
theorem Part.map_ofTexts (k : α → β) (ss : List String) :
    (Part.ofTexts ss).map k = .ofTexts ss := by
  simp [Part.ofTexts, Part.map, Item.map]

theorem Part.nodes_map (k : α → β) (p : Part α) : (p.map k).nodes = p.nodes.map k := by
  cases p with
  | list items =>
    simp only [Part.map, Part.nodes]
    induction items with
    | nil => rfl
    | cons i is ih => cases i <;> simp_all [Item.map, Item.child, List.filterMap_cons]
  | _ => rfl

theorem FlowForm.parts_map (k : α → β) (f : FlowForm α) :
    (f.map k).parts = f.parts.map (Part.map k) := by
  cases f <;> simp

theorem TsForm.parts_map (k : α → β) (f : TsForm α) :
    (f.map k).parts = f.parts.map (Part.map k) := by
  cases f <;> simp

theorem ExprForm.parts_map (k : α → β) (f : ExprForm α) :
    (f.map k).parts = f.parts.map (Part.map k) := by
  cases f <;> simp

theorem StmtForm.parts_map (k : α → β) (f : StmtForm α) :
    (f.map k).parts = f.parts.map (Part.map k) := by
  cases f <;> simp

theorem Form.parts_map (k : α → β) (f : Form α) : (f.map k).parts = f.parts.map (Part.map k) := by
  cases f with
  | flow f => exact f.parts_map k
  | ts f => exact f.parts_map k
  | expr f => exact f.parts_map k
  | stmt f => exact f.parts_map k
  | foreign kind ps => simp

/-- The children of a changed layer are the changed children. -/
theorem Form.children_map (k : α → β) (f : Form α) : (f.map k).children = f.children.map k := by
  simp only [Form.children, Form.parts_map, List.flatMap_map, List.map_flatMap, Part.nodes_map]

/-- A changed layer has the same kind. -/
theorem Form.kind_map (k : α → β) (f : Form α) : (f.map k).kind = f.kind := by
  cases f with
  | flow f => cases f <;> rfl
  | ts f => cases f <;> rfl
  | expr f => cases f <;> rfl
  | stmt f => cases f <;> rfl
  | foreign kind ps => simp [Form.kind]

/-! ## Composition -/

theorem Item.map_map (k : α → β) (l : β → γ) (i : Item α) : (i.map k).map l = i.map fun a => l (k a) := by
  cases i <;> rfl

theorem Part.map_map (k : α → β) (l : β → γ) (p : Part α) : (p.map k).map l = p.map fun a => l (k a) := by
  cases p with
  | list items => simp [Part.map, Item.map_map, Function.comp_def]
  | _ => rfl

theorem Form.map_map (k : α → β) (l : β → γ) (f : Form α) : (f.map k).map l = f.map fun a => l (k a) := by
  cases f with
  | flow f => cases f <;> simp [Function.comp_def]
  | ts f => cases f <;> simp [Function.comp_def]
  | expr f => cases f <;> simp [Function.comp_def]
  | stmt f => cases f <;> simp [Function.comp_def]
  | foreign kind ps => simp [Part.map_map, Function.comp_def]

section Effects

variable {m : Type → Type} [Monad m]

theorem mapChildren_map (k : α → β) (h : β → m γ) (as : List α) :
    mapChildren h (as.map k) = mapChildren (fun a => h (k a)) as := by
  induction as with
  | nil => rfl
  | cons a as ih => simp [mapChildren, ih]

theorem mapChild?_map (k : α → β) (h : β → m γ) (a : Option α) :
    mapChild? h (a.map k) = mapChild? (fun a => h (k a)) a := by
  cases a <;> rfl

/-- Acting on the children of a changed layer is acting on the changed children. -/
theorem Form.mapM_map (k : α → β) (h : β → m γ) (f : Form α) :
    (f.map k).mapM h = f.mapM fun a => h (k a) := by
  cases f with
  | flow f => cases f <;> simp [Form.mapM, mapChildren_map, mapChild?_map]
  | ts f => cases f <;> simp [Form.mapM, mapChildren_map, mapChild?_map]
  | expr f => cases f <;> simp [Form.mapM, mapChildren_map, mapChild?_map]
  | stmt f => cases f <;> simp [Form.mapM, mapChildren_map, mapChild?_map]
  | foreign kind ps =>
    have item_eq : ∀ i : Item α, (i.map k).mapM h = i.mapM fun a => h (k a) := by
      intro i
      cases i <;> rfl
    have part_eq : ∀ p : Part α, (p.map k).mapM h = p.mapM fun a => h (k a) := by
      intro p
      cases p with
      | list items => simp [Part.map, Part.mapM, mapChildren_map, item_eq]
      | _ => rfl
    simp [Form.mapM, mapChildren_map, part_eq]

end Effects

/-! ## Children of parts -/

@[simp]
theorem Part.nodes_node (a : α) : (Part.node a).nodes = [a] := rfl

@[simp]
theorem Part.nodes_text (s : String) : (Part.text s : Part α).nodes = [] := rfl

@[simp]
theorem Part.nodes_flag (b : Bool) : (Part.flag b : Part α).nodes = [] := rfl

@[simp]
theorem Part.nodes_absent : (Part.absent : Part α).nodes = [] := rfl

@[simp]
theorem Part.nodes_ofChildren (as : List α) : (Part.ofChildren as).nodes = as := by
  induction as with
  | nil => rfl
  | cons a as ih =>
    simp only [Part.ofChildren, Part.nodes] at ih
    simp [Part.ofChildren, Part.nodes, Item.child, ih]

@[simp]
theorem Part.nodes_ofChild? (a : Option α) : (Part.ofChild? a).nodes = a.toList := by
  cases a <;> rfl

@[simp]
theorem Part.nodes_ofText? (s : Option String) : (Part.ofText? s : Part α).nodes = [] := by
  cases s <;> rfl

@[simp]
theorem Part.nodes_ofTexts (ss : List String) : (Part.ofTexts ss : Part α).nodes = [] := by
  simp [Part.ofTexts, Part.nodes, Item.child]

/-! ## Congruence -/

theorem option_map_eq_map_iff {k l : α → β} {a : Option α} :
    a.map k = a.map l ↔ ∀ x, a = some x → k x = l x := by
  cases a <;> simp

theorem Part.map_congr {k l : α → β} {p : Part α} (agree : ∀ a ∈ p.nodes, k a = l a) :
    p.map k = p.map l := by
  cases p with
  | node a => simp [agree a (by simp)]
  | list items =>
    simp only [Part.map, Part.list.injEq, List.map_inj_left]
    intro i member
    cases i with
    | node a =>
      have child : a ∈ (Part.list items).nodes := by
        simp only [Part.nodes, List.mem_filterMap]
        exact ⟨.node a, member, rfl⟩
      simp [Item.map, agree a child]
    | datum d => rfl
  | _ => rfl

/-- Two maps that agree on the children of a layer change it in the same way. -/
theorem Form.map_congr {k l : α → β} {f : Form α} (agree : ∀ a ∈ f.children, k a = l a) :
    f.map k = f.map l := by
  cases f with
  | flow f => cases f <;> simp_all [Form.children, option_map_eq_map_iff]
  | ts f => cases f <;> simp_all [Form.children, option_map_eq_map_iff]
  | expr f => cases f <;> simp_all [Form.children, option_map_eq_map_iff]
  | stmt f => cases f <;> simp_all [Form.children, option_map_eq_map_iff]
  | foreign kind ps =>
    simp only [Form.map_foreign, Form.foreign.injEq, true_and, List.map_inj_left]
    intro p member
    apply Part.map_congr
    intro a child
    apply agree
    simp only [Form.children, Form.parts, List.mem_flatMap]
    exact ⟨p, member, child⟩

theorem Form.map_id (f : Form α) : (f.map fun a => a) = f := by
  have children_id := mapChildren_pure (fun a : α => a)
  have child_id := mapChild?_pure (fun a : α => a)
  cases f with
  | flow f => cases f <;> simp [children_id, child_id]
  | ts f => cases f <;> simp [children_id, child_id]
  | expr f => cases f <;> simp [children_id, child_id]
  | stmt f => cases f <;> simp [children_id, child_id]
  | foreign kind ps =>
    have item_id : (Item.map fun a : α => a) = id := funext fun i => by cases i <;> rfl
    have part_id : (Part.map fun a : α => a) = id := funext fun p => by
      cases p <;> simp [Part.map, item_id]
    simp [part_id]

end Layers

/-- A map that leaves the children of a layer as they are leaves the layer as it is. -/
theorem Form.map_eq_self {k : α → α} {f : Form α} (fixed : ∀ a ∈ f.children, k a = a) :
    f.map k = f := by
  rw [Form.map_congr (l := fun a => a) fixed, Form.map_id]

end Retype
