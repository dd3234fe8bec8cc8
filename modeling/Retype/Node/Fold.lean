import Retype.Node.Basic

/-!
# Laws of folds

A fold gives a layer the results of its children and leaves all else of the layer
as it is.  So the parts of the folded layer are the folded parts, and its children
are the results of the children, in order.

`Node.preorder_eq` follows: a tree is listed by its root and then by the lists of
its children.
-/

namespace Retype

variable {β : Type}

/-! ## Parts -/

theorem foldChildren_eq_map (g : Node → Form β → β) (ns : List Node) :
    foldChildren g ns = ns.map (·.fold g) := by
  induction ns with
  | nil => simp [foldChildren]
  | cons n ns ih => simp [foldChildren, ih]

theorem foldChild?_eq_map (g : Node → Form β → β) (n : Option Node) :
    foldChild? g n = n.map (·.fold g) := by
  cases n <;> simp [foldChild?]

theorem foldItems_eq_map (g : Node → Form β → β) (is : List (Item Node)) :
    foldItems g is = is.map (foldItem g) := by
  induction is with
  | nil => simp [foldItems]
  | cons i is ih => simp [foldItems, ih]

theorem foldParts_eq_map (g : Node → Form β → β) (ps : List (Part Node)) :
    foldParts g ps = ps.map (foldPart g) := by
  induction ps with
  | nil => simp [foldParts]
  | cons p ps ih => simp [foldParts, ih]

theorem foldPart_ofChildren (g : Node → Form β → β) (ns : List Node) :
    foldPart g (.ofChildren ns) = .ofChildren (ns.map (·.fold g)) := by
  simp [Part.ofChildren, foldPart, foldItems_eq_map, foldItem]

theorem foldPart_ofChild? (g : Node → Form β → β) (n : Option Node) :
    foldPart g (.ofChild? n) = .ofChild? (n.map (·.fold g)) := by
  cases n <;> simp [Part.ofChild?, foldPart]

theorem foldPart_ofText? (g : Node → Form β → β) (s : Option String) :
    foldPart g (.ofText? s) = .ofText? s := by
  cases s <;> simp [Part.ofText?, foldPart]

theorem foldPart_ofTexts (g : Node → Form β → β) (ss : List String) :
    foldPart g (.ofTexts ss) = .ofTexts ss := by
  simp [Part.ofTexts, foldPart, foldItems_eq_map, foldItem]

theorem nodes_foldPart (g : Node → Form β → β) (p : Part Node) :
    (foldPart g p).nodes = p.nodes.map (·.fold g) := by
  cases p with
  | list items =>
    simp only [foldPart, Part.nodes, foldItems_eq_map]
    induction items with
    | nil => rfl
    | cons i is ih => cases i <;> simp_all [foldItem, Item.child, List.filterMap_cons]
  | _ => simp [foldPart, Part.nodes]

/-! ## Layers -/

section Layers

attribute [local simp] FlowForm.parts TsForm.parts ExprForm.parts StmtForm.parts foldPart
  Part.ofVariance? Part.ofImportKind? foldChildren_eq_map foldChild?_eq_map foldPart_ofChildren
  foldPart_ofChild? foldPart_ofText? foldPart_ofTexts

theorem parts_foldFlowForm (g : Node → Form β → β) (f : FlowForm Node) :
    (foldFlowForm g f).parts = f.parts.map (foldPart g) := by
  cases f <;> simp [foldFlowForm]

theorem parts_foldTsForm (g : Node → Form β → β) (f : TsForm Node) :
    (foldTsForm g f).parts = f.parts.map (foldPart g) := by
  cases f <;> simp [foldTsForm]

theorem parts_foldExprForm (g : Node → Form β → β) (f : ExprForm Node) :
    (foldExprForm g f).parts = f.parts.map (foldPart g) := by
  cases f <;> simp [foldExprForm]

theorem parts_foldStmtForm (g : Node → Form β → β) (f : StmtForm Node) :
    (foldStmtForm g f).parts = f.parts.map (foldPart g) := by
  cases f <;> simp [foldStmtForm]

end Layers

theorem parts_foldForm (g : Node → Form β → β) (f : Form Node) :
    (foldForm g f).parts = f.parts.map (foldPart g) := by
  cases f <;> simp [foldForm, Form.parts, parts_foldFlowForm, parts_foldTsForm,
    parts_foldExprForm, parts_foldStmtForm, foldParts_eq_map]

/-- The children of a folded layer are the results of the children. -/
theorem children_foldForm (g : Node → Form β → β) (f : Form Node) :
    (foldForm g f).children = f.children.map (·.fold g) := by
  simp [Form.children, parts_foldForm, List.flatMap_map, List.map_flatMap, nodes_foldPart]

/-- A tree is listed by its root and then by the lists of its children. -/
theorem Node.preorder_eq (n : Node) : n.preorder = n :: n.children.flatMap Node.preorder := by
  cases n with
  | mk i f =>
    simp only [Node.preorder, Node.fold, children_foldForm, Node.children]
    rfl

end Retype
