import Mathlib.Data.List.ReduceOption
import Retype.Proofs.Parse.Grid
import Retype.Proofs.Pass.Settled

/-!
# Type erasure

`Node.erase` is what is left of a tree without types: an untyped program, or nothing if the tree
consists of types.  It is defined for both dialects and for trees in between.

The nine passes about types do not change it.  A rule converts types, which are erased before and
after, or it takes a mark away, or it replaces declarations, of which only the name of a default
export is left.
-/

namespace Retype

open Node (Converted Parsed)
open Passes (isDeclaration declaredName)

variable {α β : Type}

/-! ## Layers without types -/

/-- A layer without annotations, type parameters and type arguments. -/
def ExprForm.bare : ExprForm α → ExprForm α
  | .function name _ params _ body isAsync isExpr =>
    .function name none params none body isAsync isExpr
  | .arrow _ params _ body isAsync => .arrow none params none body isAsync
  | .param binding _ optional default rest => .param binding none optional default rest
  | .construct callee _ args => .construct callee none args
  | .constructBare callee _ => .constructBare callee none
  | f => f

/-- A layer without annotations, type parameters, type arguments, interfaces and marks. -/
def StmtForm.bare : StmtForm α → StmtForm α
  | .declarator binding _ init => .declarator binding none init
  | .classDecl name _ parent _ _ members => .classDecl name none parent none [] members
  | .classProp key _ value isStatic _ optional => .classProp key none value isStatic none optional
  | f => f.unmarked

theorem StmtForm.bare_unmarked (f : StmtForm α) : f.unmarked.bare = f.bare := by
  cases f <;> rfl

/-- What stands for a value where there is none.  No source has such a place. -/
def Node.gap : Node := .plain 0 (.foreign "" [])

/-- What is left of an expression, given what is left of its children. -/
def ExprForm.erase (f : ExprForm (Option Node)) : ExprForm Node := f.bare.map (·.getD .gap)

/-- What is left of a statement, given what is left of its children.  Statements of which nothing
is left go, and so does the export of one. -/
def StmtForm.erase : StmtForm (Option Node) → Option (StmtForm Node)
  | .program ss => some (.program ss.reduceOption)
  | .block ss => some (.block ss.reduceOption)
  | .cond test cons alt => some (.cond (test.getD .gap) cons.join alt.join)
  | .loop test body => some (.loop (test.getD .gap) body.join)
  | .exportNamed (some none) .. => none
  | f => some (f.bare.map (·.getD .gap))

theorem StmtForm.erase_unmarked (f : StmtForm (Option Node)) : f.unmarked.erase = f.erase := by
  cases f with
  | exportNamed decl specs source kind =>
    cases decl with
    | none => rfl
    | some decl => cases decl <;> rfl
  | _ => rfl

/-- The name that a declaration exports as the default. -/
def Node.defaultName? (n : Node) : Option String :=
  match n.form with
  | .flow (.declareExport decl true) => if isDeclaration decl then some decl.declared else none
  | _ => none

/-- What is left of a node, given what is left of its children. -/
def Node.eraseLayer (n : Node) : Form (Option Node) → Option Node
  | .flow (.typecast e _) | .ts (.cast e _) => e
  | .expr f => some (.expr n.pos f.erase)
  | .stmt f => f.erase.map (.stmt n.pos)
  | _ => n.defaultName?.map fun name => .stmt n.pos (.exportDefault (.ident n.pos name))

/-- The untyped program that a tree stands for, without comments.  Nothing is left of a type. -/
def Node.erase (n : Node) : Option Node := n.fold eraseLayer

theorem Node.erase_eq (n : Node) : n.erase = n.eraseLayer (n.form.map erase) := n.fold_eq _

/-! ## What rules leave -/

section Rules

variable {S : List Topic} {n : Node} {i : Info}

theorem erase_ts {f : TsForm Node} (type : .expr ∉ f.roles) : Node.erase ⟨i, .ts f⟩ = none := by
  rw [Node.erase_eq]
  cases f with
  | cast e type => simp [TsForm.roles, Role.ofExpr] at type
  | _ => rfl

theorem erase_of_isTyping {f : FlowForm Node} (types : Node.IsTyping ⟨i, .flow f⟩)
    (other : (Form.flow f).isDeclare = false) : Node.erase ⟨i, .flow f⟩ = none := by
  rw [Node.erase_eq]
  cases f with
  | typecast e a =>
    obtain ⟨⟨f, form, notExpr⟩ | converted, -⟩ := Node.isTyping_iff.mp types
    · cases form
      simp [FlowForm.roles, Role.ofExpr] at notExpr
    · rcases converted with ⟨f, form⟩ | ⟨name, form⟩ | ⟨object, name, form⟩ <;> cases form
  | declareExport => cases other
  | _ => rfl

theorem defaultName?_layer (formed : n.Formed Parsed) :
    (n.layer S).defaultName? = n.defaultName? := by
  obtain ⟨-, -, slots⟩ := Node.formed_iff.mp formed
  rcases n with ⟨i, f⟩
  cases f with
  | flow f =>
    cases f with
    | declareExport decl isDefault =>
      cases isDefault with
      | false => rfl
      | true =>
        simp only [Form.slots, FlowForm.slots, List.forall_mem_singleton] at slots
        have topic := topic?_of_declared slots.2.extra (.inr slots.1)
        have declared : (decl.layer S).declared = decl.declared := by
          rcases decl with ⟨j, g⟩
          cases g with
          | flow g => cases g <;> rfl
          | _ => rfl
        change Node.defaultName? ⟨i, .flow (.declareExport (decl.after S) true)⟩ = _
        rw [Node.after_of_topic_none topic, Node.defaultName?, Node.defaultName?]
        dsimp only
        rw [(isDeclaration_layer decl).1, declared]
    | _ => rfl
  | _ => rfl

theorem eraseLayer_layer (formed : n.Formed Parsed) (results : Form (Option Node)) :
    (n.layer S).eraseLayer results = n.eraseLayer results := by
  unfold Node.eraseLayer
  rw [defaultName?_layer formed]
  rfl

/-- Nothing is left of a converted type, at whatever stage its parts are. -/
theorem erase_layer_ts {f : TsForm Node} (type : .expr ∉ f.roles) :
    (Node.layer S ⟨i, .ts f⟩).erase = none := by
  change Node.erase ⟨i, .ts (f.map (Node.after S))⟩ = none
  refine erase_ts ?_
  have roles : (f.map (Node.after S)).roles = f.roles := Form.roles_map _ (.ts f)
  rwa [roles]

theorem erase_of_isDeclaration {d : Node} (declares : isDeclaration d) : d.erase = none := by
  rw [Node.erase_eq]
  rcases d with ⟨i, f⟩
  cases f with
  | flow f => cases f <;> first | rfl | cases declares
  | _ => cases declares

theorem erase_ident {pos : Int} {name : String} :
    (Node.ident pos name).erase = some (.ident pos name) := by
  rw [Node.erase_eq]
  rfl

/-- What is left of a statement is left of the statements in its place. -/
theorem erase_replaced {s : Node} {news : List Node} (replaces : Replaces s news)
    (same : (s.after S).erase = s.erase) :
    (news.map fun new => (new.after S).erase).reduceOption = s.erase.toList := by
  have nothing {d : Node} {h : TsForm Node} (declares : Declares d h) (i : Info) :
      (Node.after S ⟨i, .ts h⟩).erase = none := by
    rw [Node.after_of_topic_none rfl]
    refine erase_layer_ts ?_
    rw [declares.roles]
    decide
  cases replaces with
  | kept => cases found : s.erase <;> simp [same, found]
  | declaration declares =>
    simp [nothing declares, erase_of_isDeclaration declares.declares]
  | @named i decl h declares =>
    have exported : (Node.after S ⟨i, .stmt (.exportNamed (some (.ts decl.pos h)) [] none none)⟩).erase
        = none := by
      rw [spent_exportNamed.after, layer_exportNamed, Node.erase_eq]
      simp [StmtForm.map, StmtForm.mapM, Node.eraseLayer, StmtForm.erase,
        show (Node.after S (.ts decl.pos h)).erase = none from nothing declares _]
    have before : Node.erase ⟨i, .flow (.declareExport decl false)⟩ = none := by
      rw [Node.erase_eq]
      rfl
    simp [exported, before]
  | @default i decl h declares =>
    have exported (j : Info) (name : String) :
        (Node.after S ⟨j, .stmt (.exportDefault (.ident i.pos name))⟩).erase
          = some (.stmt j.pos (.exportDefault (.ident i.pos name))) := by
      have ident : Node.after S (.ident i.pos name) = .ident i.pos name := Node.after_of_topic_none rfl
      rw [Node.after_of_topic_none rfl, Node.erase_eq]
      change some (Node.stmt j.pos (.exportDefault ((Node.after S (.ident i.pos name)).erase.getD .gap)))
        = _
      rw [ident, erase_ident]
      rfl
    have before : Node.erase ⟨i, .flow (.declareExport decl true)⟩
        = some (.stmt i.pos (.exportDefault (.ident i.pos decl.declared))) := by
      rw [Node.erase_eq]
      change Option.map _ (Node.defaultName? _) = _
      rw [Node.defaultName?]
      dsimp only
      rw [if_pos declares.declares]
      rfl
    simp [exported, before, nothing declares, declares.name]

theorem erase_statements {ss : List Node} (each : ∀ s ∈ ss, Replaces s s.replaced)
    (same : ∀ s ∈ ss, (s.after S).erase = s.erase) :
    (((ss.flatMap Node.replaced).map (Node.after S)).map Node.erase).reduceOption
      = (ss.map Node.erase).reduceOption := by
  rw [List.map_map]
  induction ss with
  | nil => rfl
  | cons s ss ih =>
    obtain ⟨first, rest⟩ := List.forall_mem_cons.mp each
    obtain ⟨firstSame, restSame⟩ := List.forall_mem_cons.mp same
    rw [List.flatMap_cons, List.map_append, List.reduceOption_append, ih rest restSame]
    refine (congrArg (· ++ _) (erase_replaced first firstSame)).trans ?_
    cases found : s.erase <;> simp [found]

/-- The rules leave what is left of a tree. -/
theorem erase_after (formed : n.Formed Parsed) (good : n.Good S) : (n.after S).erase = n.erase := by
  induction n using Node.childInduction with
  | step n ih =>
    have each : ∀ c ∈ n.children, (c.after S).erase = c.erase := fun c child =>
      ih c child (formed.of_child child) (good.below (Node.child_mem_descendants child))
    have layer {f : Form Node} (same : f.children = n.children) :
        (f.map (Node.after S)).map Node.erase = f.map Node.erase := by
      rw [Form.map_map]
      exact Form.map_congr fun c child => each c (same ▸ child)
    have layered : (n.layer S).erase = n.erase := by
      rw [Node.erase_eq, eraseLayer_layer formed, n.erase_eq]
      exact congrArg _ (layer rfl)
    cases topic : n.form.topic? with
    | none => rw [Node.after_of_topic_none topic, layered]
    | some t =>
      by_cases settled : t ∈ S
      · obtain ⟨new, turns⟩ := good.turns formed topic settled
        rw [turns.after settled, turns.spent.after]
        cases turns.shape with
        | @typing i j f g types typed type =>
          have other : (Form.flow f).isDeclare = false := by
            cases f <;> first | rfl | cases topic
          rw [erase_layer_ts type, erase_of_isTyping types other]
        | @cast i e a u =>
          rw [layer_cast, Node.erase_eq, Node.erase_eq]
          exact each e (by simp [Node.children, Form.children, Form.parts, FlowForm.parts])
        | @unmarked i f =>
          rw [Node.erase_eq, Node.erase_eq]
          have same : (Form.stmt f.unmarked).children = (Form.stmt f).children :=
            children_of_slots (i := i) (j := i) f.slots_unmarked
          refine (congrArg _ (layer same)).trans ?_
          change Option.map _ (f.unmarked.map Node.erase).erase = Option.map _ (f.map Node.erase).erase
          rw [← StmtForm.unmarked_map, StmtForm.erase_unmarked]
          rfl
        | @program i ss replaces =>
          have rows := erase_statements replaces fun s member => each s (by
            simpa [Node.children, Form.children, Form.parts, StmtForm.parts] using member)
          rw [layer_program, Node.erase_eq, Node.erase_eq]
          simp only [Form.map_stmt, StmtForm.map, StmtForm.mapM, mapChildren_pure]
          exact congrArg (fun rows => some (Node.stmt i.pos (.program rows))) rows
        | @block i ss replaces =>
          have rows := erase_statements replaces fun s member => each s (by
            simpa [Node.children, Form.children, Form.parts, StmtForm.parts] using member)
          rw [layer_block, Node.erase_eq, Node.erase_eq]
          simp only [Form.map_stmt, StmtForm.map, StmtForm.mapM, mapChildren_pure]
          exact congrArg (fun rows => some (Node.stmt i.pos (.block rows))) rows
      · rw [after_of_unsettled topic settled, layered]

end Rules

/-! ## Untyped programs -/

/-- A node of an untyped program. -/
def Node.Untyped (n : Node) : Prop :=
  n.info = { pos := n.pos } ∧ ((∃ f, n.form = .expr f) ∨ ∃ f, n.form = .stmt f)

/-- The roles of values.  Something is left of whatever plays one. -/
def Role.isValue : Role → Bool
  | .stmt | .exported | .declared | .declaredDefault | .name => false
  | r => !r.isTyping

theorem ExprForm.bare_map (k : α → β) (f : ExprForm α) : (f.map k).bare = f.bare.map k := by
  cases f <;> rfl

theorem StmtForm.bare_map (k : α → β) (f : StmtForm α) : (f.map k).bare = f.bare.map k := by
  cases f <;> rfl

theorem ExprForm.slots_bare (f : ExprForm α) : ∀ s ∈ f.bare.slots, s ∈ f.slots ∧ s.1.isValue := by
  cases f with
  | prop key value shorthand => cases shorthand <;> simp [ExprForm.bare, ExprForm.slots] <;> rfl
  | _ =>
    simp only [ExprForm.bare, ExprForm.slots, List.forall_mem_append, List.forall_mem_cons,
      Role.forall_mem_forAll, Role.forall_mem_for?]
    simp +contextual [Role.for?, Role.forAll, Role.isValue, Role.isTyping]

/-- The statements all of whose children are values, apart from their types. -/
def StmtForm.isPlain : StmtForm α → Bool
  | .program .. | .block .. | .cond .. | .loop .. | .exportNamed .. => false
  | _ => true

theorem StmtForm.slots_bare {f : StmtForm α} (plain : f.isPlain) :
    ∀ s ∈ f.bare.slots, s ∈ f.slots ∧ s.1.isValue := by
  cases f with
  | program | block | cond | loop | exportNamed => cases plain
  | _ =>
    simp only [StmtForm.bare, StmtForm.unmarked, StmtForm.slots, List.forall_mem_append,
      List.forall_mem_cons, Role.forall_mem_forAll, Role.forall_mem_for?]
    simp +contextual [Role.for?, Role.forAll, Role.isValue, Role.isTyping]

section Untyped

variable {n : Node} {r : Role} {pos : Int}

/-- What is left of a child that is a value. -/
def Node.value (n : Node) : Node := n.erase.getD .gap

theorem ExprForm.erase_map (f : ExprForm Node) : (f.map Node.erase).erase = f.bare.map Node.value := by
  rw [ExprForm.erase, ExprForm.bare_map]
  exact Form.expr.inj (Form.map_map Node.erase (·.getD .gap) (.expr f.bare))

/-- What is left of a statement, if it is not only the export of a type. -/
theorem StmtForm.erase_map {f : StmtForm Node} (plain : f.isPlain ∨ ∃ decl specs source kind,
      f = .exportNamed decl specs source kind ∧ ∀ d, decl = some d → ∃ u, d.erase = some u) :
    (f.map Node.erase).erase = some (f.bare.map Node.value) := by
  have bare : (f.map Node.erase).erase = some ((f.map Node.erase).bare.map (·.getD .gap)) := by
    rcases plain with plain | ⟨decl, specs, source, kind, rfl, left⟩
    · cases f <;> first | rfl | cases plain
    · cases decl with
      | none => rfl
      | some d =>
        obtain ⟨u, found⟩ := left d rfl
        simp [StmtForm.map, StmtForm.mapM, found, StmtForm.erase]
  rw [bare, StmtForm.bare_map]
  exact congrArg some (Form.stmt.inj (Form.map_map Node.erase (·.getD .gap) (.stmt f.bare)))

theorem plays_expr {f : ExprForm Node} (role : r ∈ f.roles) (sound : f.Sound)
    (slots : ∀ s ∈ f.slots, s.2.Plays Node.Untyped s.1) : (Node.expr pos f).Plays Node.Untyped r :=
  ⟨role, Node.formed_iff.mpr ⟨⟨rfl, .inl ⟨f, rfl⟩⟩, sound, slots⟩⟩

theorem plays_stmt {f : StmtForm Node} (role : r ∈ f.roles) (sound : f.Sound)
    (slots : ∀ s ∈ f.slots, s.2.Plays Node.Untyped s.1) : (Node.stmt pos f).Plays Node.Untyped r :=
  ⟨role, Node.formed_iff.mpr ⟨⟨rfl, .inr ⟨f, rfl⟩⟩, sound, slots⟩⟩

/-- What is left of an expression is one, if values are left of its children. -/
theorem plays_erase_expr {f : ExprForm Node} (role : r ∈ f.roles) (sound : f.Sound)
    (values : ∀ s ∈ f.slots, s.1.isValue → s.2.value.Plays Node.Untyped s.1) :
    (Node.expr pos (f.map Node.erase).erase).Plays Node.Untyped r := by
  have roles : (f.bare.map Node.value).roles = f.roles := by cases f <;> rfl
  have bare : (Form.expr f.bare).Sound := by cases f <;> exact sound
  have slots : (f.bare.map Node.value).slots = f.bare.slots.map (Prod.map id Node.value) :=
    Form.slots_map Node.value (.expr f.bare)
  rw [ExprForm.erase_map]
  refine plays_expr (roles ▸ role) (bare.map (k := Node.value) (by simp)) ?_
  rw [slots, List.forall_mem_map]
  intro s slot
  obtain ⟨among, isValue⟩ := f.slots_bare s slot
  exact values s among isValue

/-- What is left of a statement is one, if values are left of its children. -/
theorem plays_bare_stmt {f : StmtForm Node} (role : r ∈ f.roles) (sound : f.Sound)
    (values : ∀ s ∈ f.bare.slots, s.2.value.Plays Node.Untyped s.1) :
    (Node.stmt pos (f.bare.map Node.value)).Plays Node.Untyped r := by
  have roles : (f.bare.map Node.value).roles = f.roles := by cases f <;> rfl
  have bare : (Form.stmt f.bare).Sound := by
    cases f <;> first | exact sound | exact fun _ => rfl
  have slots : (f.bare.map Node.value).slots = f.bare.slots.map (Prod.map id Node.value) :=
    Form.slots_map Node.value (.stmt f.bare)
  refine plays_stmt (roles ▸ role) (bare.map (k := Node.value) (by simp)) ?_
  rw [slots, List.forall_mem_map]
  exact values

/-- What is left of a statement is one. -/
theorem plays_erase_stmt {f : StmtForm Node} (pos : Int) (role : r ∈ f.roles) (sound : f.Sound)
    (each : ∀ s ∈ f.slots, ∀ u, s.2.erase = some u → u.Plays Node.Untyped s.1)
    (values : ∀ s ∈ f.slots, s.1.isValue → s.2.value.Plays Node.Untyped s.1) :
    (∃ u, (f.map Node.erase).erase = some u ∧ (Node.stmt pos u).Plays Node.Untyped r)
      ∨ (f.map Node.erase).erase = none ∧ r.isValue = false := by
  have rows {ss : List Node} (each : ∀ s ∈ ss, ∀ u, s.erase = some u → u.Plays Node.Untyped .stmt) :
      ∀ u ∈ (ss.map Node.erase).reduceOption, u.Plays Node.Untyped .stmt := by
    intro u member
    obtain ⟨s, among, found⟩ := List.mem_map.mp (List.reduceOption_mem_iff.mp member)
    exact each s among u found
  have branch {b : Option Node} (each : ∀ s, b = some s → ∀ u, s.erase = some u → u.Plays Node.Untyped .stmt) :
      ∀ u, (b.map Node.erase).join = some u → u.Plays Node.Untyped .stmt := by
    intro u found
    cases b with
    | none => cases found
    | some s => exact each s rfl u found
  cases f with
  | program ss =>
    simp only [StmtForm.slots, Role.forall_mem_forAll] at each
    simp only [StmtForm.map, StmtForm.mapM, mapChildren_pure]
    exact .inl ⟨_, rfl, plays_stmt role trivial (Role.forall_mem_forAll.mpr (rows each))⟩
  | block ss =>
    simp only [StmtForm.slots, Role.forall_mem_forAll] at each
    simp only [StmtForm.map, StmtForm.mapM, mapChildren_pure]
    exact .inl ⟨_, rfl, plays_stmt role trivial (Role.forall_mem_forAll.mpr (rows each))⟩
  | cond test cons alt =>
    have value := values (.expr, test) List.mem_cons_self rfl
    simp only [StmtForm.slots, List.forall_mem_cons, List.forall_mem_append, Role.forall_mem_for?] at each
    simp only [StmtForm.map, StmtForm.mapM, mapChild?_pure]
    refine .inl ⟨_, rfl, plays_stmt role trivial ?_⟩
    simp only [StmtForm.slots, List.forall_mem_cons, List.forall_mem_append, Role.forall_mem_for?]
    exact ⟨value, branch each.2.1, branch each.2.2⟩
  | loop test body =>
    have value := values (.expr, test) List.mem_cons_self rfl
    simp only [StmtForm.slots, List.forall_mem_cons, Role.forall_mem_for?] at each
    simp only [StmtForm.map, StmtForm.mapM, mapChild?_pure]
    refine .inl ⟨_, rfl, plays_stmt role trivial ?_⟩
    simp only [StmtForm.slots, List.forall_mem_cons, Role.forall_mem_for?]
    exact ⟨value, branch each.2⟩
  | exportNamed decl specs source kind =>
    obtain rfl := List.mem_singleton.mp role
    simp only [StmtForm.slots, List.forall_mem_append, Role.forall_mem_for?,
      Role.forall_mem_forAll] at each values
    by_cases left : ∀ d, decl = some d → ∃ u, d.erase = some u
    · refine .inl ⟨_, StmtForm.erase_map (.inr ⟨decl, specs, source, kind, rfl, left⟩),
        plays_bare_stmt role sound ?_⟩
      simp only [StmtForm.bare, StmtForm.unmarked, StmtForm.slots, List.forall_mem_append,
        Role.forall_mem_for?, Role.forall_mem_forAll]
      refine ⟨fun d exported => ?_, fun s member => values.2 s member rfl⟩
      obtain ⟨u, found⟩ := left d exported
      rw [Node.value, found]
      exact each.1 d exported u found
    · simp only [not_forall, not_exists, ← Option.eq_none_iff_forall_ne_some] at left
      obtain ⟨d, rfl, none⟩ := left
      refine .inr ⟨?_, rfl⟩
      simp [StmtForm.map, StmtForm.mapM, none, StmtForm.erase]
  | _ =>
    refine .inl ⟨_, StmtForm.erase_map (.inl rfl), plays_bare_stmt role sound fun s slot => ?_⟩
    obtain ⟨among, isValue⟩ := StmtForm.slots_bare rfl s slot
    exact values s among isValue

/-- Of the Flow dialect only casts are values. -/
theorem FlowForm.isValue_of_role (f : FlowForm α) (notExpr : .expr ∉ f.roles) (role : r ∈ f.roles) :
    r.isValue = false := by
  revert r
  cases f with
  | typecast => simp [FlowForm.roles, Role.ofExpr] at notExpr
  | _ => simp [FlowForm.roles, Role.isValue, Role.isTyping]

/-- What is left of a tree of the source is untyped and plays the same role.  Nothing is left only
of types. -/
theorem erase_plays (plays : n.Plays Parsed r) :
    (∃ u, n.erase = some u ∧ u.Plays Node.Untyped r) ∨ n.erase = none ∧ r.isValue = false := by
  induction n using Node.childInduction generalizing r with
  | step n ih =>
    obtain ⟨role, formed⟩ := plays
    obtain ⟨parsed, sound, slots⟩ := Node.formed_iff.mp formed
    have each : ∀ s ∈ n.form.slots, ∀ u, s.2.erase = some u → u.Plays Node.Untyped s.1 := by
      intro s slot u found
      rcases ih s.2 (Node.mem_children_of_slot slot) (slots s slot) with ⟨v, same, plays⟩ | ⟨none, -⟩
      · rw [found] at same
        exact Option.some.inj same ▸ plays
      · rw [found] at none
        cases none
    have value : ∀ s ∈ n.form.slots, s.1.isValue → ∃ u, s.2.erase = some u := by
      intro s slot isValue
      rcases ih s.2 (Node.mem_children_of_slot slot) (slots s slot) with ⟨u, found, -⟩ | ⟨-, notValue⟩
      · exact ⟨u, found⟩
      · rw [isValue] at notValue
        cases notValue
    have values : ∀ s ∈ n.form.slots, s.1.isValue → s.2.value.Plays Node.Untyped s.1 := by
      intro s slot isValue
      obtain ⟨u, found⟩ := value s slot isValue
      rw [Node.value, found]
      exact each s slot u found
    rw [Node.erase_eq]
    rcases n with ⟨i, f⟩
    cases f with
    | flow f =>
      have notValue : .expr ∉ f.roles → r.isValue = false := (f.isValue_of_role · role)
      cases f with
      | typecast e a =>
        obtain ⟨u, found⟩ := value (.expr, e) List.mem_cons_self rfl
        obtain ⟨isExpr, inner⟩ := each (.expr, e) List.mem_cons_self u found
        exact .inl ⟨u, found, Form.roles_of_expr isExpr r role, inner⟩
      | declareExport decl isDefault =>
        obtain rfl := List.mem_singleton.mp role
        cases isDefault with
        | false => exact .inr ⟨rfl, rfl⟩
        | true =>
          change (∃ u, Option.map _ (ite _ _ _) = _ ∧ _) ∨ Option.map _ (ite _ _ _) = _ ∧ _
          split
          · refine .inl ⟨_, rfl, plays_stmt (by simp [StmtForm.roles]) trivial ?_⟩
            simp only [StmtForm.slots, List.forall_mem_singleton]
            exact plays_expr (by simp [ExprForm.roles, Role.ofExpr]) trivial (by simp [ExprForm.slots])
          · exact .inr ⟨rfl, rfl⟩
      | _ => exact .inr ⟨rfl, notValue (by simp [FlowForm.roles])⟩
    | ts f => exact absurd rfl (parsed.1 f)
    | expr f => exact .inl ⟨_, rfl, plays_erase_expr role sound values⟩
    | stmt f =>
      rcases plays_erase_stmt i.pos role sound each values with ⟨u, left, plays⟩ | ⟨none, notValue⟩
      · exact .inl ⟨_, congrArg (Option.map _) left, plays⟩
      · exact .inr ⟨congrArg (Option.map _) none, notValue⟩
    | foreign kind ps => simp [Form.roles] at role

end Untyped

/-! ## The passes about types -/

/-- The passes about types. -/
def Pass.typeLevel : List Pass :=
  [.imports, .exports, .declarations, .interfaces, .typeAliases, .typeCasts, .annotations,
    .typeParameters, .typeArguments]

/-- The passes about types do not change the untyped program that a tree stands for. -/
theorem erase_runList_typeLevel {src : Source} {tree t : Node} (parsed : src.parse = .ok tree)
    (runs : (Pass.runList Pass.typeLevel tree).result = .ok t) :
    ∃ program, tree.erase = some program ∧ t.erase = some program
      ∧ program.Plays Node.Untyped .program := by
  have stage := src.parse_stage parsed
  rw [← tree.after_nil] at runs
  obtain ⟨last, rfl⟩ := stage.of_runList Pass.typeLevel runs
  change Stage tree _ at last
  rcases erase_plays stage.program with ⟨program, left, plays⟩ | ⟨-, notValue⟩
  · refine ⟨program, left, ?_, plays⟩
    exact (erase_after last.program.2 last.good).trans left
  · cases notValue

/-- A default export that is replaced, a type that goes, and a cast. -/
theorem erase_runList_typeLevel_export : ∃ tree t program : Node,
    Source.parse { text := "declare export default class A {}\ntype B = A;\n(x: B);" } = .ok tree
      ∧ (Pass.runList Pass.typeLevel tree).result = .ok t ∧ tree.erase = some program
      ∧ t.erase = some program := by
  obtain ⟨tree, parsed, t, runs⟩ := Source.exists_runList
    { text := "declare export default class A {}\ntype B = A;\n(x: B);" } Pass.typeLevel
    (by rw [Source.parse_eq_parseByGrids]; decide +kernel)
  obtain ⟨program, before, later, -⟩ := erase_runList_typeLevel parsed runs
  exact ⟨tree, t, program, parsed, runs, before, later⟩

end Retype
