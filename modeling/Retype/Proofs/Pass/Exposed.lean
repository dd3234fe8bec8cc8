import Retype.Proofs.Pass.Order

/-!
# What is left of the source

A declaration that is the branch of a condition or the body of a loop is a *stray*: it stands in no
program or block, so no rule replaces it.  A node is *exposed* if it is not inside a stray.

Once all topics are settled, no exposed node is of the Flow dialect.  Types of the source stand
only below layers that some topic is about, and declarations are strays or are replaced.
-/

namespace Retype

open Node (Converted Parsed)
open Retype.Convert

variable {α : Type}

/-! ## Strays -/

namespace Node

/-- The statements that a node runs on a condition. -/
def branches (n : Node) : List Node :=
  match n.form with
  | .stmt (.cond _ cons alt) => cons.toList ++ alt.toList
  | .stmt (.loop _ body) => body.toList
  | _ => []

/-- The declarations among these statements. -/
def strays (n : Node) : List Node := n.branches.filter (·.form.isDeclare)

/-- All strays of a tree. -/
def allStrays (n : Node) : List Node := n.preorder.flatMap strays

theorem allStrays_eq (n : Node) : n.allStrays = n.strays ++ n.children.flatMap allStrays := by
  rw [allStrays, preorder_eq_cons_descendants, List.flatMap_cons, descendants, List.flatMap_assoc]
  rfl

end Node

/-- A node of a tree that is not inside a stray. -/
inductive Exposed : Node → Node → Prop where
  | root (n : Node) : Exposed n n
  | descend {n c m : Node} (child : c ∈ n.children) (other : c ∉ n.strays) (inner : Exposed c m) :
    Exposed n m

theorem Exposed.mem_preorder {n m : Node} (exposed : Exposed n m) : m ∈ n.preorder := by
  induction exposed with
  | root n => exact n.self_mem_preorder
  | descend child _ _ ih =>
    exact Node.preorder_trans ih (Node.descendants_subset_preorder (Node.child_mem_descendants child))

section Strays

variable {S : List Topic} {n c : Node}

theorem branches_map (k : Node → Node) : (n.withForm (n.form.map k)).branches = n.branches.map k := by
  rcases n with ⟨i, f⟩
  cases f with
  | stmt f =>
    cases f <;> simp [Node.withForm, Node.branches, StmtForm.map, StmtForm.mapM, Option.toList_map]
  | _ => rfl

theorem topic?_of_isDeclare (declares : n.form.isDeclare) : n.form.topic? = none := by
  rcases n with ⟨i, f⟩
  cases f with
  | flow f => cases f <;> first | rfl | cases declares
  | _ => cases declares

theorem isDeclare_of_stray (stray : c ∈ n.strays) : c.form.isDeclare := (List.mem_filter.mp stray).2

/-- A stray stays a stray. -/
theorem strays_layer (stray : c ∈ n.strays) : c.after S ∈ (n.layer S).strays := by
  obtain ⟨branch, declares⟩ := List.mem_filter.mp stray
  refine List.mem_filter.mpr ⟨?_, ?_⟩
  · rw [Node.layer, branches_map]
    exact List.mem_map_of_mem branch
  · rw [Node.after_of_topic_none (topic?_of_isDeclare declares), isDeclare_layer]
    exact declares

/-- The nodes that are exposed in a layer are the layer itself, and those exposed in its parts. -/
theorem exposed_layer {m : Node} (known : ∀ kind ps, n.form ≠ .foreign kind ps) (exposed : Exposed (n.layer S) m) :
    m = n.layer S ∨ ∃ s ∈ n.form.slots, s.2 ∉ n.strays ∧ Exposed (s.2.after S) m := by
  cases exposed with
  | root => exact .inl rfl
  | descend child other inner =>
    rw [Node.children_layer, Node.children, Form.children_eq_slots known] at child
    obtain ⟨c, member, rfl⟩ := List.mem_map.mp child
    obtain ⟨s, slot, rfl⟩ := List.mem_map.mp member
    exact .inr ⟨s, slot, fun stray => other (strays_layer stray), inner⟩

theorem strays_unmarked (i : Info) (f : StmtForm Node) :
    Node.strays ⟨i, .stmt f.unmarked⟩ = Node.strays ⟨i, .stmt f⟩ := by
  cases f <;> rfl

end Strays

/-! ## Roles outside types -/

/-- The roles of statements and expressions, and of their parts. -/
def Role.isOuter : Role → Bool
  | .program | .stmt | .exported | .value | .importSpec | .exportSpec | .classMember | .declarator
  | .body | .method | .expr | .arg | .arrowBody | .shorthand | .objectProp | .param | .binding
  | .patternProp => true
  | _ => false

/-- The roles of the layers that hold types. -/
def Role.isHolder : Role → Bool
  | .tparams | .targs | .annot | .heritage => true
  | _ => false

/-- The parts of an expression are parts of expressions, or they hold types. -/
theorem ExprForm.slots_outer (f : ExprForm α) :
    ∀ s ∈ f.slots, (s.1.isOuter ∧ s.1 ≠ .stmt) ∨ s.1.isHolder := by
  cases f with
  | prop key value shorthand => cases shorthand <;> simp [ExprForm.slots, Role.isOuter]
  | _ =>
    simp only [ExprForm.slots, List.forall_mem_append, List.forall_mem_cons,
      Role.forall_mem_forAll, Role.forall_mem_for?]
    simp [Role.isOuter, Role.isHolder]

/-- The parts of a statement are statements, branches, parts of expressions, or they hold types. -/
theorem StmtForm.slots_outer (i : Info) (f : StmtForm Node) : ∀ s ∈ f.slots,
    s.1.isOuter ∧ (s.1 = .stmt → (∃ ss, f = .program ss ∨ f = .block ss)
      ∨ s.2 ∈ Node.branches ⟨i, .stmt f⟩) ∨ s.1.isHolder := by
  cases f with
  | cond test cons alt =>
    simp only [StmtForm.slots, List.forall_mem_append, List.forall_mem_cons, Role.forall_mem_for?]
    simp +contextual [Role.isOuter, Role.isHolder, Node.branches]
  | _ =>
    simp only [StmtForm.slots, List.forall_mem_append, List.forall_mem_cons,
      Role.forall_mem_forAll, Role.forall_mem_for?]
    simp [Role.isOuter, Role.isHolder, Node.branches]

/-- Outside types, a declaration is a statement. -/
theorem stmt_of_isDeclare {f : Form α} {r : Role} (declares : f.isDeclare) (role : r ∈ f.roles)
    (outside : r.isOuter ∨ r.isHolder) : r = .stmt := by
  cases f with
  | flow f =>
    cases f with
    | declareVar | declareFunction | declareClass | declareExport =>
      simp only [Form.roles, FlowForm.roles, List.mem_cons, List.not_mem_nil, or_false] at role
      rcases role with rfl | rfl | rfl <;> first | rfl | simp [Role.isOuter, Role.isHolder] at outside
    | _ => cases declares
  | _ => cases declares

/-! ## The last stage -/

section Last

variable {S : List Topic} {n : Node}

theorem Node.Converted.not_flow (converted : n.Converted) : ∀ f, n.form ≠ .flow f := by
  intro f form
  rcases converted with ⟨g, same⟩ | ⟨name, same⟩ | ⟨o, name, same⟩
  all_goals rw [form] at same; cases same

/-- Types are converted at the last stage. -/
theorem converted_of_turns {t : Topic} {new : Node} {f : FlowForm Node} (turns : Turns t n new)
    (form : n.form = .flow f) (type : .expr ∉ f.roles) (settled : t ∈ S) (arguments : .arguments ∈ S) :
    ∀ m ∈ (n.after S).preorder, m.Converted := by
  rw [turns.after settled]
  cases turns.shape with
  | typing _ typed => exact typed.converted S arguments
  | cast =>
    cases form
    exact absurd List.mem_cons_self type
  | unmarked | program | block => cases form

/-- Some topic is about each layer that holds types. -/
theorem FlowForm.topic_of_holder (f : FlowForm α) :
    (!f.roles.any Role.isHolder || (Form.flow f).topic?.isSome) = true := by
  cases f <;> rfl

theorem Role.isTyping_of_isHolder {r : Role} (holder : r.isHolder) : r.isTyping := by
  cases r <;> first | rfl | cases holder

/-- What holds types is converted at the last stage. -/
theorem converted_of_holder {r : Role} (plays : n.Plays Parsed r) (holder : r.isHolder)
    (every : ∀ t, t ∈ S) : ∀ m ∈ (n.after S).preorder, m.Converted := by
  have typing := Role.isTyping_of_isHolder holder
  obtain ⟨i, f, rfl, role, -⟩ := Node.flow_of_typing plays typing
  have isSome : (Form.flow f).topic?.isSome := by
    have holds : f.roles.any Role.isHolder = true := List.any_eq_true.mpr ⟨r, role, holder⟩
    simpa [holds] using f.topic_of_holder
  obtain ⟨t, topic⟩ := Option.isSome_iff_exists.mp isSome
  have types := f.isTypes_of_role role (.inl typing)
  obtain ⟨new, turns⟩ := turns_of_topic plays.2 topic rfl
  exact converted_of_turns turns rfl (f.expr_not_mem types) (every t) (every _)

/-- The layers outside types that no topic is about are declarations. -/
theorem FlowForm.topic_of_outer (f : FlowForm α) :
    (!f.roles.any Role.isOuter || (Form.flow f).isDeclare || (Form.flow f).topic?.isSome) = true := by
  cases f <;> rfl

theorem isDeclare_of_slot {s : Role × Node} (plays : s.2.Plays Parsed s.1) (outer : s.1.isOuter)
    (other : s.1 ≠ .stmt) : s.2.form.isDeclare = false := by
  cases declares : s.2.form.isDeclare with
  | false => rfl
  | true => exact absurd (stmt_of_isDeclare declares plays.1 (.inl outer)) other

/-- What replaces statements exposes what the kept ones do. -/
theorem exposed_replaced {ss : List Node} (each : ∀ s ∈ ss, Replaces s s.replaced)
    (every : ∀ t, t ∈ S) {r m : Node} (member : r ∈ ss.flatMap Node.replaced)
    (exposed : Exposed (r.after S) m)
    (kept : r ∈ ss → r.form.isDeclare = false → ∀ f, m.form ≠ .flow f) : ∀ f, m.form ≠ .flow f := by
  obtain ⟨s, among, new⟩ := List.mem_flatMap.mp member
  have shape := each s among
  generalize s.replaced = news at shape new
  have converted {i : Info} {h : TsForm Node} {d : Node} (declares : Declares d h)
      (exposed : Exposed (Node.after S ⟨i, .ts h⟩) m) : ∀ f, m.form ≠ .flow f :=
    ((declares.typed i).converted S (every _) m exposed.mem_preorder).not_flow
  cases shape with
  | kept other =>
    rw [List.mem_singleton] at new
    exact kept (new ▸ among) (new ▸ other)
  | declaration declares =>
    rw [List.mem_singleton] at new
    rw [new] at exposed
    exact converted declares exposed
  | named declares =>
    rw [List.mem_singleton] at new
    rw [new, spent_exportNamed.after] at exposed
    rcases exposed_layer (by simp) exposed with rfl | ⟨s, slot, -, inner⟩
    · simp [Node.layer]
    · obtain rfl : s = (.exported, .ts _ _) := by
        simpa [Form.slots, StmtForm.slots, Role.for?, Role.forAll] using slot
      exact converted declares inner
  | default declares =>
    rw [List.mem_cons, List.mem_singleton] at new
    rcases new with rfl | rfl
    · exact converted declares exposed
    · rw [Node.after_of_topic_none rfl] at exposed
      rcases exposed_layer (by simp) exposed with rfl | ⟨s, slot, -, inner⟩
      · simp [Node.layer]
      · have ident : ∀ pos name, (Node.ident pos name).Formed Converted := fun pos name =>
          (plays_ident (r := .expr) (by simp [ExprForm.roles, Role.ofExpr])).2
        obtain rfl : s = (.value, .ident _ _) := by simpa [Form.slots, StmtForm.slots] using slot
        rw [Node.after_of_converted (ident _ _)] at inner
        exact (ident _ _ m inner.mem_preorder).2.not_flow

/-- No exposed node is of the Flow dialect at the last stage. -/
theorem not_flow_of_exposed {r : Role} (formed : n.Formed Parsed) (good : n.Good S)
    (every : ∀ t, t ∈ S) (role : r ∈ n.form.roles) (outer : r.isOuter)
    (other : n.form.isDeclare = false) : ∀ m, Exposed (n.after S) m → ∀ f, m.form ≠ .flow f := by
  induction n using Node.childInduction generalizing r with
  | step n ih =>
    have converted {c m : Node} (all : ∀ k ∈ c.preorder, k.Converted) (exposed : Exposed c m) :
        ∀ f, m.form ≠ .flow f := (all m exposed.mem_preorder).not_flow
    obtain ⟨parsed, sound, slots⟩ := Node.formed_iff.mp formed
    -- A part of a statement or of an expression, that is no stray.
    have part {s : Role × Node} (slot : s ∈ n.form.slots)
        (outside : (s.1.isOuter ∧ s.2.form.isDeclare = false) ∨ s.1.isHolder) {m : Node}
        (exposed : Exposed (s.2.after S) m) : ∀ f, m.form ≠ .flow f := by
      rcases outside with ⟨outer, other⟩ | holder
      · have child := Node.mem_children_of_slot slot
        exact ih s.2 child (slots s slot).2 (good.below (Node.child_mem_descendants child))
          (slots s slot).1 outer other m exposed
      · exact converted (converted_of_holder (slots s slot) holder every) exposed
    rcases n with ⟨i, f⟩
    cases f with
    | flow f =>
      have isSome : (Form.flow f).topic?.isSome := by
        have outside : f.roles.any Role.isOuter = true := List.any_eq_true.mpr ⟨r, role, outer⟩
        have found := f.topic_of_outer
        rw [other, outside] at found
        exact found
      obtain ⟨t, topic⟩ := Option.isSome_iff_exists.mp isSome
      obtain ⟨new, turns⟩ := good.turns formed topic (every t)
      rw [turns.after (every t)]
      cases turns.shape with
      | typing _ typed => exact fun m exposed => converted (typed.converted S (every _)) exposed
      | @cast i e a u types isType =>
        intro m exposed
        rw [turns.spent.after] at exposed
        rcases exposed_layer turns.fits.known exposed with rfl | ⟨s, slot, -, inner⟩
        · simp [Node.layer]
        · simp only [Form.slots, TsForm.slots, List.mem_cons, List.not_mem_nil, or_false] at slot
          rcases slot with rfl | rfl
          · have isExpr : (Role.expr, e) ∈ (FlowForm.typecast e a).slots := List.mem_cons_self
            exact part isExpr (.inl ⟨rfl, isDeclare_of_slot (slots _ isExpr) rfl (by simp)⟩) inner
          · rw [Node.after_of_converted isType] at inner
            exact converted (fun k member => (isType k member).2) inner
    | ts f => exact absurd rfl (parsed.1 f)
    | expr f =>
      intro m exposed
      rw [Node.after_of_topic_none rfl] at exposed
      rcases exposed_layer formed.fits.known exposed with rfl | ⟨s, slot, -, inner⟩
      · simp [Node.layer]
      · refine part slot ((f.slots_outer s slot).imp_left fun outside => ?_) inner
        exact ⟨outside.1, isDeclare_of_slot (slots s slot) outside.1 outside.2⟩
    | stmt f =>
      by_cases topic : (Form.stmt f).topic? = some .declarations
      · have fine := good (every _) _ (Node.self_mem_preorder _)
        obtain ⟨ss, form | form⟩ := block_of_topic topic
        all_goals
          cases form
          simp only [Form.slots, StmtForm.slots, Role.forall_mem_forAll] at slots
          intro m exposed
          have statement : ∀ r ∈ Role.stmt.forAll (ss.flatMap Node.replaced),
              Exposed (r.2.after S) m → ∀ f, m.form ≠ .flow f := by
            intro r slot inner
            obtain ⟨r, member, rfl⟩ := List.mem_map.mp slot
            refine exposed_replaced (fun s among => (statements_turn slots fine s among).shape) every
              member inner fun among other => ?_
            exact part (s := (.stmt, r)) (List.mem_map_of_mem among) (.inl ⟨rfl, other⟩) inner
        · have turns := turns_program (i := i) slots fine
          rw [turns.after (every _), turns.spent.after] at exposed
          rcases exposed_layer turns.fits.known exposed with rfl | ⟨r, slot, -, inner⟩
          · simp [Node.layer]
          · exact statement r slot inner
        · have turns := turns_block (i := i) slots fine
          rw [turns.after (every _), turns.spent.after] at exposed
          rcases exposed_layer turns.fits.known exposed with rfl | ⟨r, slot, -, inner⟩
          · simp [Node.layer]
          · exact statement r slot inner
      · -- The layer stays, up to a mark.
        obtain ⟨g, same, fits, slots_eq, strays_eq⟩ : ∃ g : StmtForm Node,
            Node.after S ⟨i, .stmt f⟩ = Node.layer S ⟨i, .stmt g⟩ ∧ Node.Fits ⟨i, .stmt g⟩
              ∧ g.slots = f.slots ∧ Node.strays ⟨i, .stmt g⟩ = Node.strays ⟨i, .stmt f⟩ := by
          cases found : (Form.stmt f).topic? with
          | none => exact ⟨f, Node.after_of_topic_none found, formed.fits, rfl, rfl⟩
          | some t =>
            have turns := turns_unmarked formed.fits found fun same => topic (same ▸ found)
            exact ⟨f.unmarked, (turns.after (every t)).trans turns.spent.after, turns.fits,
              f.slots_unmarked, strays_unmarked i f⟩
        intro m exposed
        rw [same] at exposed
        rcases exposed_layer fits.known exposed with rfl | ⟨s, slot, bare, inner⟩
        · simp [Node.layer]
        · rw [Form.slots, slots_eq] at slot
          rw [strays_eq] at bare
          refine part slot ((f.slots_outer i s slot).imp_left fun outside => ⟨outside.1, ?_⟩) inner
          cases declares : s.2.form.isDeclare with
          | false => rfl
          | true =>
            rcases outside.2 (stmt_of_isDeclare declares (slots s slot).1 (.inl outside.1)) with
              ⟨ss, rfl | rfl⟩ | branch
            · exact absurd rfl topic
            · exact absurd rfl topic
            · exact absurd (List.mem_filter.mpr ⟨branch, declares⟩) bare
    | foreign kind ps => simp [Form.roles] at role

end Last

end Retype
