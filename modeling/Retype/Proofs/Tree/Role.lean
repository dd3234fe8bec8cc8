import Retype.Convert.Declaration
import Retype.Proofs.Tree.Descent

/-!
# Roles

A node stands in the layer around it in some *role*: as a statement, as a type, as
the name of a reference and so on.  A layer says which roles it can play, whatever
its children are, and it asks a role of each of its children.  A tree is
*well-formed* if every child plays the role that is asked of it, and if the few
conditions hold that are not about roles.

Roles do not tell the dialects apart.  A type may be a Flow type or a TypeScript
type, so a tree that is half converted is well-formed too.
-/

namespace Retype

variable {α β : Type}

/-- What a child is to the layer around it. -/
inductive Role where
  | program | stmt | exported | value | importSpec | exportSpec | classMember | declarator
  | body | method | expr | arg | arrowBody | shorthand | objectProp | param | binding | patternProp
  | type | typeMember | fnType | fnParam | objectType | tparams | tparam | targs | annot
  | heritage | name | declared | declaredDefault
  deriving DecidableEq, Repr

/-! ## The roles that a layer can play -/

/-- The roles of every expression. -/
def Role.ofExpr : List Role := [.expr, .arg, .arrowBody, .value]

/-- The roles that a layer can play. -/
def FlowForm.roles : FlowForm α → List Role
  | .primitive .. | .stringLit .. | .numberLit .. | .booleanLit .. => [.type, .declaredDefault]
  | .nullable .. | .array .. | .tuple .. | .union .. | .intersection .. | .generic ..
  | .typeOf .. => [.type, .declaredDefault]
  | .object .. => [.type, .objectType, .declaredDefault]
  | .function .. => [.type, .fnType, .declaredDefault]
  | .prop .. | .indexer .. | .spread .. => [.typeMember]
  | .param .. => [.fnParam]
  | .tparams .. => [.tparams]
  | .tparam .. => [.tparam]
  | .targs .. => [.targs]
  | .annot .. => [.annot]
  | .ifaceExt .. => [.heritage]
  | .qualified .. => [.name]
  | .typecast .. => Role.ofExpr
  | .typeAlias .. | .opaqueType .. | .interface .. => [.stmt, .exported]
  | .declareVar .. => [.stmt, .declared]
  | .declareFunction .. | .declareClass .. => [.stmt, .declared, .declaredDefault]
  | .declareExport .. => [.stmt]

/-- The roles that a layer can play. -/
def TsForm.roles : TsForm α → List Role
  | .keyword .. | .literal .. | .array .. | .tuple .. | .union .. | .intersection ..
  | .typeLiteral .. | .mapped .. | .ref .. | .typeOf .. | .keyOf .. | .indexed .. => [.type]
  | .function .. => [.type, .fnType]
  | .propSig .. | .methodSig .. | .indexSig .. => [.typeMember]
  | .param .. => [.fnParam]
  | .tparams .. => [.tparams]
  | .tparam .. => [.tparam]
  | .targs .. => [.targs]
  | .annot .. => [.annot]
  | .heritage .. => [.heritage]
  | .qualified .. => [.name]
  | .cast .. => Role.ofExpr
  | .typeAlias .. | .interface .. | .declareVar .. | .declareFunction .. | .declareClass .. =>
    [.stmt, .exported]

/-- The roles that a layer can play. -/
def ExprForm.roles : ExprForm α → List Role
  | .ident .. => [.binding, .name, .shorthand] ++ Role.ofExpr
  | .spread .. => [.arg, .objectProp]
  | .prop .. | .computedProp .. | .method .. => [.objectProp]
  | .function .. => [.stmt, .exported, .method] ++ Role.ofExpr
  | .param .. => [.param]
  | .pattern .. => [.binding]
  | .patternProp .. => [.patternProp]
  | _ => Role.ofExpr

/-- The roles that a layer can play. -/
def StmtForm.roles : StmtForm α → List Role
  | .program .. => [.program]
  | .block .. => [.stmt, .body, .arrowBody]
  | .varDecl .. => [.stmt, .exported]
  | .classDecl .. => [.stmt, .exported, .value]
  | .declarator .. => [.declarator]
  | .classProp .. | .classMethod .. => [.classMember]
  | .importDefault .. | .importAll .. | .importSpec .. => [.importSpec]
  | .exportSpec .. => [.exportSpec]
  | _ => [.stmt]

/-- The roles that a layer can play.  A foreign layer plays none. -/
def Form.roles : Form α → List Role
  | .flow f => f.roles
  | .ts f => f.roles
  | .expr f => f.roles
  | .stmt f => f.roles
  | .foreign .. => []

/-! ## The roles that a layer asks for -/

/-- A role for the child that may be missing. -/
def Role.for? (r : Role) (a : Option α) : List (Role × α) := a.toList.map (r, ·)

/-- A role for every child of a list. -/
def Role.forAll (r : Role) (as : List α) : List (Role × α) := as.map (r, ·)

/-- The children of a layer from left to right, each with the role asked of it. -/
def FlowForm.slots : FlowForm α → List (Role × α)
  | .primitive .. | .stringLit .. | .numberLit .. | .booleanLit .. => []
  | .nullable a | .array a | .typeOf a | .spread a | .param _ a _ | .annot a => [(.type, a)]
  | .tuple as | .union as | .intersection as | .targs as => Role.type.forAll as
  | .object members _ => Role.typeMember.forAll members
  | .generic id args | .ifaceExt id args => (.name, id) :: Role.targs.for? args
  | .function tps params rest ret =>
    Role.tparams.for? tps ++ Role.fnParam.forAll params ++ Role.fnParam.for? rest
      ++ [(.type, ret)]
  | .prop _ value _ _ method => [(if method then .fnType else .type, value)]
  | .indexer _ key value _ => [(.type, key), (.type, value)]
  | .tparams params => Role.tparam.forAll params
  | .tparam _ bound default _ => Role.type.for? bound ++ Role.type.for? default
  | .qualified left _ => [(.name, left)]
  | .typecast e a => [(.expr, e), (.annot, a)]
  | .typeAlias _ tps type _ => Role.tparams.for? tps ++ [(.type, type)]
  | .opaqueType _ tps supertype type _ =>
    Role.tparams.for? tps ++ Role.type.for? supertype ++ Role.type.for? type
  | .interface _ tps parents body _ | .declareClass _ tps parents body =>
    Role.tparams.for? tps ++ Role.heritage.forAll parents ++ [(.objectType, body)]
  | .declareVar _ _ a | .declareFunction _ a => Role.annot.for? a
  | .declareExport decl isDefault => [(if isDefault then .declaredDefault else .declared, decl)]

/-- The children of a layer from left to right, each with the role asked of it. -/
def TsForm.slots : TsForm α → List (Role × α)
  | .keyword .. | .literal .. => []
  | .array a | .keyOf a | .annot a | .propSig _ a _ _ | .param _ a _ => [(.type, a)]
  | .tuple as | .union as | .intersection as | .targs as => Role.type.forAll as
  | .typeLiteral members => Role.typeMember.forAll members
  | .methodSig _ fn _ => [(.fnType, fn)]
  | .indexSig _ key value _ | .mapped _ key value _ | .indexed key value =>
    [(.type, key), (.type, value)]
  | .function tps params rest ret | .declareFunction _ tps params rest ret =>
    Role.tparams.for? tps ++ Role.fnParam.forAll params ++ Role.fnParam.for? rest
      ++ [(.type, ret)]
  | .ref id args | .heritage id args => (.name, id) :: Role.targs.for? args
  | .typeOf id | .qualified id _ => [(.name, id)]
  | .tparams params => Role.tparam.forAll params
  | .tparam _ bound default => Role.type.for? bound ++ Role.type.for? default
  | .cast e type => [(.expr, e), (.type, type)]
  | .typeAlias _ tps type _ => Role.tparams.for? tps ++ [(.type, type)]
  | .interface _ tps parents members _ =>
    Role.tparams.for? tps ++ Role.heritage.forAll parents ++ Role.typeMember.forAll members
  | .declareVar _ _ a => Role.annot.for? a
  | .declareClass _ tps parent args =>
    Role.tparams.for? tps ++ Role.expr.for? parent ++ Role.targs.for? args

/-- The children of a layer from left to right, each with the role asked of it. -/
def ExprForm.slots : ExprForm α → List (Role × α)
  | .ident .. | .this | .num .. | .str .. | .bool .. | .null => []
  | .template _ exprs => Role.expr.forAll exprs
  | .array elems => Role.arg.forAll elems
  | .spread e | .member e _ _ | .unary _ e | .update _ e _ | .paren e => [(.expr, e)]
  | .object props => Role.objectProp.forAll props
  | .prop _ value shorthand => [(if shorthand then .shorthand else .expr, value)]
  | .computedProp a b | .index a b _ | .binary _ a b | .assign _ a b => [(.expr, a), (.expr, b)]
  | .method _ fn => [(.method, fn)]
  | .function _ tps params ret body _ _ =>
    Role.tparams.for? tps ++ Role.param.forAll params ++ Role.annot.for? ret ++ [(.body, body)]
  | .arrow tps params ret body _ =>
    Role.tparams.for? tps ++ Role.param.forAll params ++ Role.annot.for? ret
      ++ [(.arrowBody, body)]
  | .param binding annot _ default _ =>
    (.binding, binding) :: (Role.annot.for? annot ++ Role.expr.for? default)
  | .pattern props => Role.patternProp.forAll props
  | .patternProp _ binding default _ => Role.binding.for? binding ++ Role.expr.for? default
  | .call callee args _ => (.expr, callee) :: Role.arg.forAll args
  | .construct callee types args =>
    (.expr, callee) :: (Role.targs.for? types ++ Role.arg.forAll args)
  | .constructBare callee types => (.expr, callee) :: Role.targs.for? types
  | .cond a b c => [(.expr, a), (.expr, b), (.expr, c)]

/-- The children of a layer from left to right, each with the role asked of it. -/
def StmtForm.slots : StmtForm α → List (Role × α)
  | .program ss | .block ss => Role.stmt.forAll ss
  | .exprStmt e | .throw e => [(.expr, e)]
  | .varDecl _ ds => Role.declarator.forAll ds
  | .declarator binding annot init =>
    (.binding, binding) :: (Role.annot.for? annot ++ Role.expr.for? init)
  | .ret e => Role.expr.for? e
  | .cond test cons alt => (.expr, test) :: (Role.stmt.for? cons ++ Role.stmt.for? alt)
  | .loop test body => (.expr, test) :: Role.stmt.for? body
  | .classDecl _ tps parent args parents members =>
    Role.tparams.for? tps ++ Role.expr.for? parent ++ Role.targs.for? args
      ++ Role.heritage.forAll parents ++ Role.classMember.forAll members
  | .classProp _ annot value _ _ _ => Role.annot.for? annot ++ Role.expr.for? value
  | .classMethod _ fn _ => [(.method, fn)]
  | .importDecl _ specs _ => Role.importSpec.forAll specs
  | .importDefault .. | .importAll .. | .importSpec .. | .exportSpec .. | .exportAll .. => []
  | .exportNamed decl specs _ _ => Role.exported.for? decl ++ Role.exportSpec.forAll specs
  | .exportDefault value => [(.value, value)]

/-- The children of a layer from left to right, each with the role asked of it.  A
foreign layer asks nothing. -/
def Form.slots : Form α → List (Role × α)
  | .flow f => f.slots
  | .ts f => f.slots
  | .expr f => f.slots
  | .stmt f => f.slots
  | .foreign .. => []

/-! ## Roles and maps -/

theorem Form.roles_map (k : α → β) (f : Form α) : (f.map k).roles = f.roles := by
  cases f with
  | flow f => cases f <;> rfl
  | ts f => cases f <;> rfl
  | expr f => cases f <;> rfl
  | stmt f => cases f <;> rfl
  | foreign kind ps => simp [Form.roles]

@[simp]
theorem Role.for?_map (r : Role) (k : α → β) (a : Option α) :
    r.for? (a.map k) = (r.for? a).map (Prod.map id k) := by
  cases a <;> rfl

@[simp]
theorem Role.forAll_map (r : Role) (k : α → β) (as : List α) :
    r.forAll (as.map k) = (r.forAll as).map (Prod.map id k) := by
  simp [Role.forAll, Function.comp_def]

section Slots

attribute [local simp] Form.slots FlowForm.slots TsForm.slots ExprForm.slots StmtForm.slots

/-- A changed layer asks the same roles, of the changed children. -/
theorem Form.slots_map (k : α → β) (f : Form α) :
    (f.map k).slots = f.slots.map (Prod.map id k) := by
  cases f with
  | flow f => cases f <;> simp [FlowForm.map, FlowForm.mapM]
  | ts f => cases f <;> simp [TsForm.map, TsForm.mapM]
  | expr f => cases f <;> simp [ExprForm.map, ExprForm.mapM]
  | stmt f => cases f <;> simp [StmtForm.map, StmtForm.mapM]
  | foreign kind ps => simp

@[simp]
theorem Role.for?_snd (r : Role) (a : Option α) : (r.for? a).map (·.2) = a.toList := by
  cases a <;> rfl

@[simp]
theorem Role.forAll_snd (r : Role) (as : List α) : (r.forAll as).map (·.2) = as := by
  simp [Role.forAll, Function.comp_def]

/-- A layer of a known kind asks a role of each of its children. -/
theorem Form.children_eq_slots {f : Form α} (known : ∀ kind ps, f ≠ .foreign kind ps) :
    f.children = f.slots.map (·.2) := by
  cases f with
  | flow f =>
    cases f <;> simp [Form.children, Form.parts, FlowForm.parts, Part.ofVariance?]
  | ts f => cases f <;> simp [Form.children, Form.parts, TsForm.parts]
  | expr f => cases f <;> simp [Form.children, Form.parts, ExprForm.parts]
  | stmt f =>
    cases f <;> simp [Form.children, Form.parts, StmtForm.parts, Part.ofVariance?,
      Part.ofImportKind?]
  | foreign kind ps => exact absurd rfl (known kind ps)

end Slots

/-! ## Conditions on slots -/

theorem Role.forall_mem_for? {r : Role} {a : Option α} {P : Role × α → Prop} :
    (∀ s ∈ r.for? a, P s) ↔ ∀ x, a = some x → P (r, x) := by
  cases a <;> simp [Role.for?]

theorem Role.forall_mem_forAll {r : Role} {as : List α} {P : Role × α → Prop} :
    (∀ s ∈ r.forAll as, P s) ↔ ∀ x ∈ as, P (r, x) := by
  simp only [Role.forAll, List.forall_mem_map]

section Roles

attribute [local simp] Form.roles FlowForm.roles TsForm.roles ExprForm.roles StmtForm.roles
  Role.ofExpr

/-- What plays the role of an expression plays every role of an expression. -/
theorem Form.roles_of_expr {f : Form α} (isExpr : .expr ∈ f.roles) :
    ∀ r ∈ Role.ofExpr, r ∈ f.roles := by
  cases f with
  | flow f => cases f <;> simp_all
  | ts f => cases f <;> simp_all
  | expr f => cases f <;> simp_all
  | stmt f => cases f <;> simp_all
  | foreign kind ps => simp at isExpr

/-- A type of the Flow dialect can be declared as the default. -/
theorem FlowForm.declaredDefault_of_type {f : FlowForm α} (isType : .type ∈ f.roles) :
    .declaredDefault ∈ f.roles := by
  cases f <;> simp_all

/-- Only the two dialects have types. -/
theorem Form.dialect_of_type {f : Form α} (isType : .type ∈ f.roles) :
    (∃ g, f = .flow g) ∨ ∃ g, f = .ts g := by
  cases f with
  | flow f => exact .inl ⟨f, rfl⟩
  | ts f => exact .inr ⟨f, rfl⟩
  | expr f => cases f <;> simp at isType
  | stmt f => cases f <;> simp at isType
  | foreign kind ps => simp at isType

end Roles

/-! ## Well-formed trees -/

/-- The conditions on a layer that are not about roles: a list of type arguments is
not empty, and a declared function has a function type. -/
def FlowForm.Sound : FlowForm Node → Prop
  | .targs types => types ≠ []
  | .declareFunction _ a => ∃ t, a.bind Convert.annotatedType? = some t ∧ Convert.isFunctionType t
  | _ => True

/-- The conditions on a layer that are not about roles: type arguments of a superclass
come with the superclass. -/
def TsForm.Sound : TsForm Node → Prop
  | .declareClass _ _ parent args => parent = none → args = none
  | _ => True

/-- The conditions on a layer that are not about roles: the texts of a template stand
around its substitutions, and the rest of a pattern is a bare name. -/
def ExprForm.Sound : ExprForm Node → Prop
  | .template quasis exprs => quasis.length = exprs.length + 1
  | .patternProp _ binding default rest => rest → binding = none ∧ default = none
  | _ => True

/-- The conditions on a layer that are not about roles: type arguments of a superclass
come with the superclass. -/
def StmtForm.Sound : StmtForm Node → Prop
  | .classDecl _ _ parent args _ _ => parent = none → args = none
  | _ => True

/-- The conditions on a layer that are not about roles.  No foreign layer meets them. -/
def Form.Sound : Form Node → Prop
  | .flow f => f.Sound
  | .ts f => f.Sound
  | .expr f => f.Sound
  | .stmt f => f.Sound
  | .foreign .. => False

section Soundness

attribute [local simp] Form.Sound FlowForm.Sound TsForm.Sound ExprForm.Sound StmtForm.Sound

/-- A changed layer is sound, if the types of declared functions stay function types. -/
theorem Form.Sound.map {f : Form Node} {k : Node → Node} (sound : f.Sound)
    (functions : ∀ name a, f = .flow (.declareFunction name (some a)) →
      (∃ t, Convert.annotatedType? a = some t ∧ Convert.isFunctionType t) →
      ∃ t, Convert.annotatedType? (k a) = some t ∧ Convert.isFunctionType t) : (f.map k).Sound := by
  cases f with
  | flow f =>
    cases f with
    | targs types => simpa [FlowForm.map, FlowForm.mapM] using sound
    | declareFunction name a =>
      cases a with
      | none => simp at sound
      | some a => exact functions name a rfl sound
    | _ => trivial
  | ts f =>
    cases f with
    | declareClass => simpa [TsForm.map, TsForm.mapM] using sound
    | _ => trivial
  | expr f =>
    cases f with
    | template => simpa [ExprForm.map, ExprForm.mapM] using sound
    | patternProp => simpa [ExprForm.map, ExprForm.mapM] using sound
    | _ => trivial
  | stmt f =>
    cases f with
    | classDecl => simpa [StmtForm.map, StmtForm.mapM] using sound
    | _ => trivial
  | foreign kind ps => exact absurd sound id

end Soundness

namespace Node

/-- The children of a node play the roles that the node asks of them. -/
structure Fits (n : Node) : Prop where
  /-- Every child plays its role. -/
  plays : ∀ s ∈ n.form.slots, s.1 ∈ s.2.form.roles
  /-- The other conditions hold. -/
  sound : n.form.Sound

/-- Every node of a tree fits, and meets one more condition. -/
def Formed (E : Node → Prop) (n : Node) : Prop := ∀ m ∈ n.preorder, m.Fits ∧ E m

/-- A tree all of whose nodes fit, and whose root plays a role. -/
def Plays (E : Node → Prop) (r : Role) (n : Node) : Prop := r ∈ n.form.roles ∧ n.Formed E

theorem Fits.known {n : Node} (fits : n.Fits) (kind : String) (ps : List (Part Node)) :
    n.form ≠ .foreign kind ps := by
  intro foreign
  have sound := fits.sound
  rw [foreign] at sound
  exact sound

variable {E : Node → Prop}

theorem Formed.fits {n : Node} (formed : n.Formed E) : n.Fits := (formed n n.self_mem_preorder).1

theorem Formed.extra {n : Node} (formed : n.Formed E) : E n := (formed n n.self_mem_preorder).2

theorem Formed.of_mem {m n : Node} (formed : n.Formed E) (member : m ∈ n.preorder) :
    m.Formed E := fun _ inner => formed _ (preorder_trans inner member)

theorem Formed.of_child {c n : Node} (formed : n.Formed E) (child : c ∈ n.children) :
    c.Formed E := formed.of_mem (descendants_subset_preorder (child_mem_descendants child))

/-- A child that is asked for a role is a child. -/
theorem mem_children_of_slot {n : Node} {s : Role × Node} (slot : s ∈ n.form.slots) :
    s.2 ∈ n.children := by
  have known : ∀ kind ps, n.form ≠ .foreign kind ps := by
    intro kind ps foreign
    rw [foreign] at slot
    exact absurd slot List.not_mem_nil
  rw [children, Form.children_eq_slots known]
  exact List.mem_map_of_mem slot

/-- A tree is formed if its root is sound and its children are formed and play their roles. -/
theorem formed_iff {n : Node} :
    n.Formed E ↔ E n ∧ n.form.Sound ∧ ∀ s ∈ n.form.slots, s.2.Plays E s.1 := by
  constructor
  · intro formed
    refine ⟨formed.extra, formed.fits.sound, ?_⟩
    intro s slot
    exact ⟨formed.fits.plays s slot, formed.of_child (mem_children_of_slot slot)⟩
  · rintro ⟨extra, sound, slots⟩
    have fits : n.Fits := ⟨fun s slot => (slots s slot).1, sound⟩
    refine forall_mem_preorder_iff.mpr ⟨⟨fits, extra⟩, ?_⟩
    intro c child
    rw [children, Form.children_eq_slots fits.known] at child
    obtain ⟨s, slot, rfl⟩ := List.mem_map.mp child
    exact (slots s slot).2

theorem Formed.mono {F : Node → Prop} {n : Node} (formed : n.Formed E)
    (weaker : ∀ m ∈ n.preorder, E m → F m) : n.Formed F :=
  fun m member => ⟨(formed m member).1, weaker m member (formed m member).2⟩

theorem Plays.mono {F : Node → Prop} {r : Role} {n : Node} (plays : n.Plays E r)
    (weaker : ∀ m ∈ n.preorder, E m → F m) : n.Plays F r :=
  ⟨plays.1, plays.2.mono weaker⟩

end Node

/-! ## Trees of the source -/

/-- The layers that a pass converts in their place, and that a conversion around them
makes anew. -/
def Form.isHolder : Form α → Bool
  | .flow (.tparams _) | .flow (.targs _) | .flow (.annot _) | .flow (.ifaceExt ..) => true
  | _ => false

theorem Form.isHolder_map (k : α → β) (f : Form α) : (f.map k).isHolder = f.isHolder := by
  cases f with
  | flow f => cases f <;> rfl
  | _ => rfl

/-- A node before all passes.  It is not of the TypeScript dialect, and no comment hangs on a
layer that may be made anew. -/
def Node.Parsed (n : Node) : Prop :=
  (∀ f, n.form ≠ .ts f) ∧ (n.form.isHolder → n.info = { pos := n.pos })

theorem Node.Parsed.map {n : Node} {k : Node → Node} (parsed : n.Parsed) :
    (n.withForm (n.form.map k)).Parsed := by
  refine ⟨fun f form => ?_, fun holder => parsed.2 (Form.isHolder_map k n.form ▸ holder)⟩
  rcases n with ⟨i, g⟩
  cases g with
  | ts g => exact parsed.1 g rfl
  | _ => cases form

/-- A tree of the source with other children in the same roles. -/
theorem Node.formed_map {n : Node} {k : Node → Node} (formed : n.Formed Parsed)
    (each : ∀ s ∈ n.form.slots, (k s.2).Plays Parsed s.1)
    (annots : ∀ a, a.Plays Parsed .annot → k a = a) : (n.withForm (n.form.map k)).Formed Parsed := by
  obtain ⟨parsed, sound, slots⟩ := formed_iff.mp formed
  refine formed_iff.mpr ⟨parsed.map, sound.map ?_, ?_⟩
  · intro name a form function
    rw [annots a (slots (.annot, a) (by rw [form]; simp [Form.slots, FlowForm.slots, Role.for?]))]
    exact function
  · rw [form_withForm, Form.slots_map, List.forall_mem_map]
    exact each

/-- The roles of types and of their parts, apart from names. -/
def Role.isTyping : Role → Bool
  | .type | .typeMember | .fnType | .fnParam | .objectType | .tparams | .tparam | .targs | .annot
  | .heritage => true
  | _ => false

/-- The roles in a type. -/
def Role.isInType (r : Role) : Bool := (r.isTyping && r != .heritage) || r == .name

theorem Role.isTyping_or_name {r : Role} (inType : r.isInType) : r.isTyping ∨ r = .name := by
  rw [Role.isInType, Bool.or_eq_true, Bool.and_eq_true, beq_iff_eq] at inType
  exact inType.imp And.left id

/-- The parts of a type are types, or parts of types, or names. -/
theorem FlowForm.isInType_of_slots {f : FlowForm α} {r : Role} (role : r ∈ f.roles)
    (inType : r.isInType) : ∀ s ∈ f.slots, s.1.isInType := by
  cases f with
  | prop key value optional variance method =>
    cases method <;> simp [FlowForm.slots, Role.isInType, Role.isTyping]
  | typecast | typeAlias | opaqueType | interface | declareVar | declareFunction | declareClass
    | declareExport =>
    simp only [FlowForm.roles, Role.ofExpr, List.mem_cons, List.not_mem_nil, or_false] at role
    rcases role with rfl | rfl | rfl | rfl <;> cases inType
  | _ =>
    simp only [FlowForm.slots, List.forall_mem_append, List.forall_mem_cons,
      Role.forall_mem_forAll, Role.forall_mem_for?]
    simp [Role.isInType, Role.isTyping]

/-- The layers of the Flow dialect that hold nothing but types. -/
def FlowForm.isTypes : FlowForm α → Bool
  | .typecast .. | .declareExport .. => false
  | _ => true

theorem FlowForm.expr_not_mem {f : FlowForm α} (types : f.isTypes) : .expr ∉ f.roles := by
  cases f with
  | typecast | declareExport => cases types
  | _ => simp [FlowForm.roles]

theorem FlowForm.isTyping_of_slots {f : FlowForm α} (types : f.isTypes) :
    ∀ s ∈ f.slots, s.1.isTyping ∨ s.1 = .name := by
  cases f with
  | prop key value optional variance method =>
    cases method <;> simp [FlowForm.slots, Role.isTyping]
  | typecast | declareExport => cases types
  | _ =>
    simp only [FlowForm.slots, List.forall_mem_append, List.forall_mem_cons,
      Role.forall_mem_forAll, Role.forall_mem_for?]
    simp [Role.isTyping]

theorem FlowForm.isTypes_of_role {f : FlowForm α} {r : Role} (role : r ∈ f.roles)
    (typing : r.isTyping ∨ r = .name) : f.isTypes := by
  cases f with
  | typecast | declareExport =>
    simp only [FlowForm.roles, Role.ofExpr, List.mem_cons, List.not_mem_nil, or_false] at role
    rcases role with rfl | rfl | rfl | rfl <;> simp [Role.isTyping] at typing
  | _ => rfl

/-- No type is an expression. -/
theorem TsForm.expr_not_mem {f : TsForm α} {r : Role} (role : r ∈ f.roles) (typing : r.isTyping) :
    .expr ∉ f.roles := by
  cases f with
  | cast e type =>
    simp only [TsForm.roles, Role.ofExpr, List.mem_cons, List.not_mem_nil, or_false] at role
    rcases role with rfl | rfl | rfl | rfl <;> cases typing
  | _ => simp [TsForm.roles]

theorem ExprForm.any_isTyping (f : ExprForm α) : f.roles.any Role.isTyping = false := by
  cases f <;> rfl

theorem StmtForm.any_isTyping (f : StmtForm α) : f.roles.any Role.isTyping = false := by
  cases f <;> rfl

/-- A type of the source, and a part of one, is of the Flow dialect. -/
theorem Node.flow_of_typing {r : Role} {n : Node} (plays : n.Plays Parsed r) (typing : r.isTyping) :
    ∃ i f, n = ⟨i, .flow f⟩ ∧ r ∈ f.roles ∧ f.Sound ∧ (∀ s ∈ f.slots, s.2.Plays Parsed s.1)
      ∧ ((Form.flow f).isHolder → i = { pos := i.pos }) := by
  obtain ⟨role, formed⟩ := plays
  obtain ⟨parsed, sound, slots⟩ := Node.formed_iff.mp formed
  rcases n with ⟨i, f⟩
  cases f with
  | flow f => exact ⟨i, f, rfl, role, sound, slots, parsed.2⟩
  | ts f => exact absurd rfl (parsed.1 f)
  | expr f =>
    have none := List.any_eq_false.mp f.any_isTyping r role
    exact absurd typing none
  | stmt f =>
    have none := List.any_eq_false.mp f.any_isTyping r role
    exact absurd typing none
  | foreign kind ps => simp [Form.roles] at role

end Retype
