import Retype.Parser
import Retype.Proofs.Tree.Role

/-!
# What the grammar builds

Every production builds well-formed trees from well-formed trees.  The values of a
nonterminal have a fixed shape: a tree that plays a role, a list of such trees, or
something without trees.  `Nonterminal.Good` says for each nonterminal which shape
it is.  A production is *sound* if good values on its right side give a good value on
its left side.  All productions are sound, so by induction the value of every
derivation is good.

A tree as the grammar builds it is *fresh*: it holds nothing of the TypeScript
dialect, and nothing but its offset is known about a node.
-/

namespace Retype

/-- A node as the grammar builds it. -/
def Node.Fresh (n : Node) : Prop := (∀ f, n.form ≠ .ts f) ∧ n.info = { pos := n.pos }

namespace Grammar

open Node (Fresh)

/-! ## Fresh nodes -/

theorem plays_flow_iff {pos : Int} {f : FlowForm Node} {r : Role} :
    (Node.flow pos f).Plays Fresh r
      ↔ r ∈ f.roles ∧ f.Sound ∧ ∀ s ∈ f.slots, s.2.Plays Fresh s.1 := by
  have fresh : (Node.flow pos f).Fresh := ⟨(fun _ equal => by cases equal), rfl⟩
  rw [Node.Plays, Node.formed_iff]
  exact and_congr_right fun _ => and_iff_right fresh

theorem plays_expr_iff {pos : Int} {f : ExprForm Node} {r : Role} :
    (Node.expr pos f).Plays Fresh r
      ↔ r ∈ f.roles ∧ f.Sound ∧ ∀ s ∈ f.slots, s.2.Plays Fresh s.1 := by
  have fresh : (Node.expr pos f).Fresh := ⟨(fun _ equal => by cases equal), rfl⟩
  rw [Node.Plays, Node.formed_iff]
  exact and_congr_right fun _ => and_iff_right fresh

theorem plays_stmt_iff {pos : Int} {f : StmtForm Node} {r : Role} :
    (Node.stmt pos f).Plays Fresh r
      ↔ r ∈ f.roles ∧ f.Sound ∧ ∀ s ∈ f.slots, s.2.Plays Fresh s.1 := by
  have fresh : (Node.stmt pos f).Fresh := ⟨(fun _ equal => by cases equal), rfl⟩
  rw [Node.Plays, Node.formed_iff]
  exact and_congr_right fun _ => and_iff_right fresh

theorem plays_ident_iff {pos : Int} {name : String} {r : Role} :
    (Node.ident pos name).Plays Fresh r ↔ r ∈ (ExprForm.ident name : ExprForm Node).roles := by
  rw [Node.ident, plays_expr_iff]
  simp [ExprForm.Sound, ExprForm.slots]

/-- A node plays its roles at any offset. -/
theorem plays_moveTo {n : Node} {pos : Int} {r : Role} (plays : n.Plays Fresh r) :
    (n.moveTo pos).Plays Fresh r := by
  obtain ⟨role, formed⟩ := plays
  obtain ⟨⟨notTs, info⟩, sound, slots⟩ := Node.formed_iff.mp formed
  refine ⟨role, Node.formed_iff.mpr ⟨⟨notTs, ?_⟩, sound, slots⟩⟩
  simp only [Node.moveTo, Node.pos]
  rw [info]

theorem plays_value_of_expr {n : Node} (isExpr : n.Plays Fresh .expr) : n.Plays Fresh .value :=
  ⟨Form.roles_of_expr isExpr.1 .value (by simp [Role.ofExpr]), isExpr.2⟩

theorem plays_arrowBody_of_expr {n : Node} (isExpr : n.Plays Fresh .expr) :
    n.Plays Fresh .arrowBody :=
  ⟨Form.roles_of_expr isExpr.1 .arrowBody (by simp [Role.ofExpr]), isExpr.2⟩

theorem plays_arg_of_expr {n : Node} (isExpr : n.Plays Fresh .expr) : n.Plays Fresh .arg :=
  ⟨Form.roles_of_expr isExpr.1 .arg (by simp [Role.ofExpr]), isExpr.2⟩

theorem plays_declaredDefault {n : Node} (isType : n.Plays Fresh .type) :
    n.Plays Fresh .declaredDefault := by
  obtain ⟨role, formed⟩ := isType
  refine ⟨?_, formed⟩
  rcases Form.dialect_of_type role with ⟨f, form⟩ | ⟨f, form⟩
  · rw [form] at role ⊢
    exact FlowForm.declaredDefault_of_type role
  · exact absurd form (formed.extra.1 f)

/-! ## The values of nonterminals -/

/-- Trees that play a role. -/
def All (r : Role) (ns : List Node) : Prop := ∀ n ∈ ns, n.Plays Fresh r

/-- A tree that plays a role, or none. -/
def Maybe (r : Role) (n : Option Node) : Prop := ∀ m, n = some m → m.Plays Fresh r

/-- The shape of the values of a nonterminal. -/
def Nonterminal.Good : (x : Nonterminal) → x.Value → Prop
  | .program, n => n.Plays Fresh .program
  | .stmtList, ns => All .stmt ns
  | .stmt, n => Maybe .stmt n
  | .simpleStmt, n | .importDecl, n | .exportDecl, n | .declareStmt, n | .ifStmt, n
  | .whileStmt, n | .returnStmt, n | .throwStmt, n | .exprStmt, n => n.Plays Fresh .stmt
  | .block, n => n.Plays Fresh .stmt ∧ n.Plays Fresh .arrowBody
  | .importClause, ns | .namedImports, ns | .importSpecs, ns => All .importSpec ns
  | .importSpec, n => n.Plays Fresh .importSpec
  | .declaration, n => n.Plays Fresh .exported
  | .namedExports, ns | .exportSpecs, ns => All .exportSpec ns
  | .exportSpec, n => n.Plays Fresh .exportSpec
  | .typeAlias, n | .opaqueType, n | .interfaceDecl, n | .varDecl, n =>
    n.Plays Fresh .stmt ∧ n.Plays Fresh .exported
  | .functionDecl, n | .classDecl, n =>
    n.Plays Fresh .stmt ∧ n.Plays Fresh .exported ∧ n.Plays Fresh .value
  | .declareFn, n | .declareClass, n =>
    n.Plays Fresh .stmt ∧ n.Plays Fresh .declared ∧ n.Plays Fresh .declaredDefault
  | .type, n | .unionType, n | .intersectionType, n | .prefixType, n | .postfixType, n
  | .primaryType, n => n.Plays Fresh .type
  | .supertypeOpt, n | .boundOpt, n | .typeDefaultOpt, n => Maybe .type n
  | .typeId, n => n.Plays Fresh .name
  | .typeList, ns => ns ≠ [] ∧ All .type ns
  | .objectType, n => n.Plays Fresh .type ∧ n.Plays Fresh .objectType
  | .objectTypeBody, ns | .objectTypeMembers, ns => All .typeMember ns
  | .objectTypeMember, n => Maybe .typeMember n
  | .fnTypeParams, ps => All .fnParam ps.params ∧ Maybe .fnParam ps.rest
  | .fnTypeParamList, ns => All .fnParam ns
  | .fnTypeParam, n | .fnTypeRest, n => n.Plays Fresh .fnParam
  | .ifaceExtendsOpt, ns | .ifaceRefList, ns | .implementsOpt, ns => All .heritage ns
  | .ifaceRef, n => n.Plays Fresh .heritage
  | .typeParamsOpt, n => Maybe .tparams n
  | .typeParams, n => n.Plays Fresh .tparams
  | .typeParamList, ns => All .tparam ns
  | .typeParam, n => n.Plays Fresh .tparam
  | .typeArgsOpt, n => Maybe .targs n
  | .typeArgs, n => n.Plays Fresh .targs
  | .annotOpt, n | .returnOpt, n | .arrowReturn, n => Maybe .annot n
  | .declarators, ns => All .declarator ns
  | .declarator, n => n.Plays Fresh .declarator
  | .binding, n => n.Plays Fresh .binding
  | .patternProps, ns => All .patternProp ns
  | .patternProp, n => n.Plays Fresh .patternProp
  | .fnRest, f =>
    Maybe .tparams f.tparams ∧ All .param f.params ∧ Maybe .annot f.ret ∧ f.body.Plays Fresh .body
  | .params, ns | .paramList, ns => All .param ns
  | .param, n | .restParam, n => n.Plays Fresh .param
  | .fnBody, n => n.Plays Fresh .body
  | .extendsOpt, p => Maybe .expr p.1 ∧ Maybe .targs p.2 ∧ (p.1 = none → p.2 = none)
  | .classBody, ns => All .classMember ns
  | .classMember, n => Maybe .classMember n
  | .memberDef, n => n.Plays Fresh .classMember
  | .propRest, p => Maybe .annot p.annot ∧ Maybe .expr p.init
  | .expr, n | .functionExpr, n | .arrow, n | .postfixExpr, n | .member, n | .call, n
  | .primary, n => n.Plays Fresh .expr
  | .initOpt, n => Maybe .expr n
  | .arrowBody, n => n.Plays Fresh .arrowBody
  | .args, ns | .argList, ns => All .arg ns
  | .arg, n => n.Plays Fresh .arg
  | .templateSpans, s => s.1.length = s.2.length ∧ All .expr s.2
  | .objectProps, ns => All .objectProp ns
  | .objectProp, n => n.Plays Fresh .objectProp
  | .empty, _ | .lbrace, _ | .memberSeparator, _ | .lparen, _ | .ident, _ | .propName, _
  | .specName, _ | .memberKey, _ | .fromOpt, _ | .variance, _ | .optionalMark, _
  | .varKind, _ => True

/-- The shape of the values of a symbol.  A token holds no tree. -/
def Symbol.Good : (s : Symbol) → s.Value → Prop
  | .t _, _ => True
  | .n x, v => x.Good v

/-- The shape of the values of symbols in a row. -/
def GoodAll : (ss : List Symbol) → Values ss → Prop
  | [], _ => True
  | s :: ss, (v, vs) => s.Good v.val ∧ GoodAll ss vs

/-- A production builds a good value from good values. -/
def Production.Sound (p : Production) : Prop :=
  ∀ vs : Values p.rhs, GoodAll p.rhs vs → p.lhs.Good (p.action.apply p.rhs vs)

/-! ## Trees that the actions build by cases -/

section Actions

variable {pos : Int} {a b : Node}

/-- A layer that is a type and asks for nothing but types. -/
theorem plays_row_iff {i : Info} {f : FlowForm Node} {ts : List Node} (role : .type ∈ f.roles)
    (sound : f.Sound) (slots : f.slots = Role.type.forAll ts) :
    (⟨i, .flow f⟩ : Node).Plays Fresh .type ↔ i = { pos := i.pos } ∧ All .type ts := by
  have isFlow : ∀ g, Form.flow f ≠ .ts g := fun _ equal => by cases equal
  have each : (∀ s ∈ f.slots, s.2.Plays Fresh s.1) ↔ All .type ts := by
    rw [slots, Role.forall_mem_forAll, All]
  rw [Node.Plays, Node.formed_iff]
  exact (and_iff_right role).trans
    (and_congr (and_iff_right isFlow) ((and_iff_right sound).trans each))

theorem plays_union_iff {i : Info} {ts : List Node} :
    (⟨i, .flow (.union ts)⟩ : Node).Plays Fresh .type ↔ i = { pos := i.pos } ∧ All .type ts :=
  plays_row_iff (by simp [FlowForm.roles]) trivial rfl

theorem plays_intersection_iff {i : Info} {ts : List Node} :
    (⟨i, .flow (.intersection ts)⟩ : Node).Plays Fresh .type ↔ i = { pos := i.pos } ∧ All .type ts :=
  plays_row_iff (by simp [FlowForm.roles]) trivial rfl

theorem unite_plays (left : a.Plays Fresh .type) (right : b.Plays Fresh .type) :
    (unite pos a b).Plays Fresh .type := by
  rw [unite]
  split
  next types form =>
    rcases a with ⟨i, f⟩
    obtain rfl := form
    obtain ⟨fresh, each⟩ := plays_union_iff.mp left
    exact plays_union_iff.mpr ⟨fresh, List.forall_mem_append.mpr ⟨each, by simp [right]⟩⟩
  next => exact plays_union_iff.mpr ⟨rfl, by simp [All, left, right]⟩

theorem intersect_plays (left : a.Plays Fresh .type) (right : b.Plays Fresh .type) :
    (intersect pos a b).Plays Fresh .type := by
  rw [intersect]
  split
  next types form =>
    rcases a with ⟨i, f⟩
    obtain rfl := form
    obtain ⟨fresh, each⟩ := plays_intersection_iff.mp left
    exact plays_intersection_iff.mpr ⟨fresh, List.forall_mem_append.mpr ⟨each, by simp [right]⟩⟩
  next => exact plays_intersection_iff.mpr ⟨rfl, by simp [All, left, right]⟩

theorem reference_plays {targs : Option Node} (name : a.Plays Fresh .name)
    (args : ∀ t, targs = some t → t.Plays Fresh .targs) : (reference pos a targs).Plays Fresh .type := by
  have generic : (Node.flow pos (.generic a targs)).Plays Fresh .type := by
    rw [plays_flow_iff]
    simp only [FlowForm.slots, List.forall_mem_cons, Role.forall_mem_for?]
    exact ⟨by simp [FlowForm.roles], trivial, name, args⟩
  unfold reference
  split
  · split
    · rw [plays_flow_iff]
      simp [FlowForm.roles, FlowForm.Sound, FlowForm.slots]
    · exact generic
  · exact generic

theorem group_plays (isExpr : a.Plays Fresh .expr) : (group pos a).Plays Fresh .expr := by
  rw [group]
  split
  · rw [plays_expr_iff]
    simp only [ExprForm.slots, List.forall_mem_cons]
    exact ⟨by simp [ExprForm.roles, Role.ofExpr], trivial, isExpr, by simp⟩
  · exact isExpr

theorem loneParam_plays {name : String} : (loneParam pos name).Plays Fresh .param := by
  rw [loneParam, plays_expr_iff]
  simp [ExprForm.roles, ExprForm.Sound, ExprForm.slots, Role.for?, plays_ident_iff]

theorem makeStatic_plays (member : a.Plays Fresh .classMember) :
    (makeStatic a).Plays Fresh .classMember := by
  rw [makeStatic]
  obtain ⟨role, fresh, -, slots⟩ := And.imp_right Node.formed_iff.mp member
  split
  next key annot value isStatic variance optional form =>
    rw [form] at slots
    refine ⟨by simp [Node.withForm, Form.roles, StmtForm.roles], Node.formed_iff.mpr ?_⟩
    exact ⟨⟨(fun _ equal => by cases equal), fresh.2⟩, trivial, slots⟩
  next key fn isStatic form =>
    rw [form] at slots
    refine ⟨by simp [Node.withForm, Form.roles, StmtForm.roles], Node.formed_iff.mpr ?_⟩
    exact ⟨⟨(fun _ equal => by cases equal), fresh.2⟩, trivial, slots⟩
  next => exact member

theorem annotatedType?_annot : Convert.annotatedType? (.flow pos (.annot a)) = some a := rfl

theorem isFunctionType_function {tparams rest : Option Node} {params : List Node} :
    Convert.isFunctionType (.flow pos (.function tparams params rest a)) = true := rfl

end Actions

/-! ## Every production is sound -/

section Productions

attribute [local simp] Production.Sound GoodAll Symbol.Good Nonterminal.Good Action.apply All Maybe
  plays_stmt_iff plays_expr_iff plays_flow_iff plays_ident_iff
  StmtForm.Sound StmtForm.roles StmtForm.slots ExprForm.Sound ExprForm.roles ExprForm.slots
  FlowForm.Sound FlowForm.roles FlowForm.slots Role.for? Role.forAll Role.ofExpr or_imp forall_and

set_option maxRecDepth 4000 in
theorem programs_sound : ∀ p ∈ programs, p.Sound := by
  simp only [programs, List.forall_mem_cons]
  repeat' apply And.intro
  all_goals simp +contextual [plays_value_of_expr]

set_option maxRecDepth 4000 in
theorem declarations_sound : ∀ p ∈ declarations, p.Sound := by
  simp only [declarations, List.forall_mem_cons]
  repeat' apply And.intro
  all_goals simp +contextual [plays_declaredDefault, plays_moveTo, annotatedType?_annot,
    isFunctionType_function]

set_option maxRecDepth 4000 in
theorem types_sound : ∀ p ∈ types, p.Sound := by
  simp only [types, List.forall_mem_cons]
  repeat' apply And.intro
  all_goals simp +contextual [unite_plays, intersect_plays, reference_plays]

set_option maxRecDepth 4000 in
theorem statements_sound : ∀ p ∈ statements, p.Sound := by
  simp only [statements, List.forall_mem_cons]
  repeat' apply And.intro
  all_goals simp +contextual [FnRest.node, plays_moveTo, makeStatic_plays]

set_option maxRecDepth 4000 in
theorem expressions_sound : ∀ p ∈ expressions, p.Sound := by
  simp only [expressions, List.forall_mem_cons]
  repeat' apply And.intro
  all_goals simp +contextual [plays_arrowBody_of_expr, plays_arg_of_expr, group_plays,
    loneParam_plays]

end Productions

theorem rules_sound (p : Fin rules.size) : rules[p].Sound := by
  have member : rules[p] ∈ programs ++ declarations ++ types ++ statements ++ expressions :=
    List.mem_toArray.mp (Array.getElem_mem p.isLt)
  simp only [List.mem_append, or_assoc] at member
  rcases member with inPrograms | inDeclarations | inTypes | inStatements | inExpressions
  · exact programs_sound _ inPrograms
  · exact declarations_sound _ inDeclarations
  · exact types_sound _ inTypes
  · exact statements_sound _ inStatements
  · exact expressions_sound _ inExpressions

/-! ## Every derivation has a good value -/

mutual

theorem eval_good {s : Symbol} : (d : Derivation rules s) → s.Good d.eval
  | .leaf _ => trivial
  | .node p parts => rules_sound p parts.values (values_good parts)

theorem values_good {ss : List Symbol} : (ds : Derivations rules ss) → GoodAll ss ds.values
  | .nil => trivial
  | .cons first rest => ⟨eval_good first, values_good rest⟩

end

/-- What the parser returns is a well-formed program, fresh throughout. -/
theorem parse_plays {ts : List Token} {tree : Node} (parsed : Parser.parse ts = .ok tree) :
    tree.Plays Fresh .program := by
  rw [Parser.parse] at parsed
  cases derived : Parser.derive ts with
  | error e =>
    rw [derived] at parsed
    cases parsed
  | ok d =>
    rw [derived] at parsed
    cases parsed
    exact eval_good d

end Grammar

end Retype
