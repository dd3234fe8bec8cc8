import Retype.Proofs.Pass.Declared

/-!
# Rules at every stage

A tree of the source after some topics is a *stage*.  Running a rule on a stage gives the
stage with one topic more.  If the topic was settled before, nothing changes and nothing
is reported.

Only one rule can fail, the one about declarations.  It fails with the first statement of a
program or block that cannot be converted, and this statement is the same at every stage.
-/

namespace Retype

open Node (Converted Parsed)
open Retype.Convert
open Passes (isDeclaration isVariable replacement replacements)
open Outcome (fail warn warnIf ofExcept)

/-! ## Every topic turns its nodes -/

/-- Declarations are looked for in programs and in blocks. -/
theorem block_of_topic {f : Form Node} (topic : f.topic? = some .declarations) :
    ∃ ss, f = .stmt (.program ss) ∨ f = .stmt (.block ss) := by
  cases f with
  | flow f => cases f <;> cases topic
  | stmt f =>
    cases f with
    | program ss => exact ⟨ss, .inl rfl⟩
    | block ss => exact ⟨ss, .inr rfl⟩
    | classProp key annot value isStatic variance optional =>
      rw [Form.topic?] at topic
      split at topic <;> cases topic
    | _ => cases topic
  | _ => cases topic

theorem badStatement?_of_topic {n : Node} (other : n.form.topic? ≠ some .declarations) :
    n.badStatement? = none := by
  rcases n with ⟨i, f⟩
  cases f with
  | stmt f => cases f <;> first | rfl | exact absurd rfl other
  | _ => rfl

/-- A node of the source that a topic is about is turned by its rule. -/
theorem turns_of_topic {t : Topic} {n : Node} (formed : n.Formed Parsed)
    (topic : n.form.topic? = some t) (good : n.badStatement? = none) : ∃ new, Turns t n new := by
  obtain ⟨parsed, sound, slots⟩ := Node.formed_iff.mp formed
  have fits := formed.fits
  rcases n with ⟨i, f⟩
  cases f with
  | flow f =>
    cases f with
    | typecast e a =>
      cases topic
      simp only [Form.slots, FlowForm.slots, List.forall_mem_cons] at slots
      obtain ⟨u, -, turns⟩ := turns_typecast slots.2.1
      exact ⟨_, turns i e slots.1.1⟩
    | typeAlias name tparams type declare =>
      cases topic
      exact (turns_typeAlias slots).elim fun _ turns => ⟨_, turns⟩
    | opaqueType name tparams supertype type declare =>
      cases topic
      exact (turns_opaqueType slots).elim fun _ turns => ⟨_, turns⟩
    | interface name tparams parents body declare =>
      cases topic
      exact (turns_interface slots).elim fun _ turns => ⟨_, turns⟩
    | ifaceExt id targs =>
      cases topic
      obtain ⟨_, _, entity, member, spec⟩ := supertype_spec ⟨List.mem_singleton_self _, formed⟩
      exact ⟨_, spec.turns⟩
    | tparams params =>
      exact (turns_inType ⟨List.mem_singleton_self _, formed⟩ rfl topic).imp fun _ => And.right
    | targs types =>
      exact (turns_inType ⟨List.mem_singleton_self _, formed⟩ rfl topic).imp fun _ => And.right
    | annot type =>
      exact (turns_inType ⟨List.mem_singleton_self _, formed⟩ rfl topic).imp fun _ => And.right
    | _ => cases topic
  | ts f => cases topic
  | expr f => cases topic
  | stmt f =>
    by_cases same : t = .declarations
    · subst same
      obtain ⟨ss, form | form⟩ := block_of_topic topic
      all_goals
        cases form
        simp only [Form.slots, StmtForm.slots, Role.forall_mem_forAll] at slots
      · exact ⟨_, turns_program slots good⟩
      · exact ⟨_, turns_block slots good⟩
    · exact ⟨_, turns_unmarked fits topic same⟩
  | foreign kind ps => cases topic

/-- A rule applies to the nodes of its topic. -/
theorem Topic.rule_of_topic {t : Topic} {n : Node} (topic : n.form.topic? = some t) :
    ∃ change, t.rule n = some change := by
  rcases n with ⟨i, f⟩
  cases f with
  | flow f => cases f <;> cases topic <;> exact ⟨_, rfl⟩
  | stmt f =>
    cases f with
    | classProp key annot value isStatic variance optional =>
      rw [Form.topic?] at topic
      split at topic
      next marked =>
        cases topic
        exact ⟨_, if_pos marked⟩
      next => cases topic
    | _ => cases topic <;> exact ⟨_, rfl⟩
  | _ => cases topic

theorem Topic.settle_of_topic {t : Topic} {n : Node} (topic : n.form.topic? = some t) (depth : Nat) :
    t.rule.settle (depth + 1) n = (t.apply (t.rule.settle depth) n).toOption.getD n := by
  obtain ⟨change, found⟩ := Topic.rule_of_topic topic
  rw [Rule.settle, Topic.apply, found]

theorem Topic.reportAt_of_topic {t : Topic} {n : Node} (topic : n.form.topic? = some t) :
    t.rule.reportAt n = (do let _ ← t.apply id n; return ()) := by
  obtain ⟨change, found⟩ := Topic.rule_of_topic topic
  rw [Rule.reportAt, Topic.apply, found]

/-! ## Stages -/

/-- If declarations are among the topics, no statement of a tree stands in their way. -/
def Node.Good (S : List Topic) (n : Node) : Prop :=
  .declarations ∈ S → ∀ m ∈ n.preorder, m.badStatement? = none

theorem Node.Good.of_mem {S : List Topic} {m n : Node} (good : n.Good S) (member : m ∈ n.preorder) :
    m.Good S := fun settled _ inner => good settled _ (Node.preorder_trans inner member)

theorem Node.Good.below {S : List Topic} {m n : Node} (good : n.Good S) (lower : m ∈ n.descendants) :
    m.Good S := good.of_mem (Node.descendants_subset_preorder lower)

section Stages

variable {q : Topic} {S U : List Topic} {n : Node}

theorem Node.Good.turns {t : Topic} (good : n.Good S) (formed : n.Formed Parsed)
    (topic : n.form.topic? = some t) (settled : t ∈ S) : ∃ new, Turns t n new := by
  refine turns_of_topic formed topic ?_
  by_cases same : t = .declarations
  · exact good (same ▸ settled) n n.self_mem_preorder
  · refine badStatement?_of_topic fun declares => same ?_
    exact Option.some.inj (topic.symm.trans declares)

theorem after_of_unsettled {t : Topic} (topic : n.form.topic? = some t) (unsettled : t ∉ S) :
    n.after S = n.layer S := by
  refine Node.after_of_topic fun u inS same => unsettled ?_
  exact Option.some.inj (topic.symm.trans same) ▸ inS

theorem known_layer (fits : n.Fits) (kind : String) (ps : List (Part Node)) :
    (n.layer S).form ≠ .foreign kind ps := by
  intro foreign
  rcases n with ⟨i, f⟩
  cases f with
  | foreign kind ps => exact fits.known kind ps rfl
  | _ => cases foreign

/-- A rule that a layer is not about leaves the layer alone at every stage. -/
theorem rule_layer (fits : n.Fits) (other : n.form.topic? ≠ some q) : q.rule (n.layer S) = none :=
  Topic.rule_eq_none (known_layer fits) (by rwa [Node.topic?_layer])

theorem Mix.settlesTo {D : Node → Prop} {w : Node} (mix : Mix D w)
    (each : ∀ c, D c → SettlesTo q (c.after S) (c.after U)) :
    SettlesTo q (w.after S) (w.after U) := by
  induction mix with
  | converted formed =>
    intro depth _
    rw [Node.after_of_converted formed, Node.after_of_converted formed]
    exact Node.settle_of_converted formed
  | source member => exact each _ member
  | made spent _ _ _ ih => exact spent.settlesTo ih

/-- A rule takes a stage to the stage with its topic. -/
theorem settlesTo_after (formed : n.Formed Parsed) (good : n.Good (q :: S)) :
    SettlesTo q (n.after S) (n.after (q :: S)) := by
  induction n using Node.descend with
  | step n ih =>
    have below : ∀ c ∈ n.descendants, SettlesTo q (c.after S) (c.after (q :: S)) := fun c lower =>
      ih c lower (formed.of_mem (Node.descendants_subset_preorder lower)) (good.below lower)
    have each := fun c child => below c (Node.child_mem_descendants child)
    cases topic : n.form.topic? with
    | none =>
      rw [Node.after_of_topic_none topic, Node.after_of_topic_none topic]
      exact settlesTo_of_rule_none (rule_layer formed.fits (by simp [topic])) each
    | some t =>
      by_cases settled : t ∈ S
      · obtain ⟨new, turns⟩ := good.turns formed topic (List.mem_cons_of_mem q settled)
        rw [turns.after settled, turns.after (List.mem_cons_of_mem q settled)]
        exact turns.spent.settlesTo fun c child =>
          (turns.parts c child).settlesTo fun d held => below d held.below
      rw [after_of_unsettled topic settled]
      by_cases same : t = q
      · subst same
        obtain ⟨new, turns⟩ := good.turns formed topic List.mem_cons_self
        rw [turns.after List.mem_cons_self, turns.spent.after]
        intro depth enough
        have positive := (n.layer S).count_pos
        obtain ⟨depth, rfl⟩ : ∃ d, depth = d + 1 := ⟨depth - 1, by omega⟩
        have carries : Carries (t.rule.settle depth) S (t :: S) n := by
          refine ⟨fixes_settle t depth, fun c held => below c held.below depth ?_⟩
          have smaller := Node.count_lt_of_descendants (held.stays S)
          omega
        rw [Topic.settle_of_topic ((Node.topic?_layer S n).trans topic), Outcome.toOption,
          turns.apply _ _ _ carries]
        rfl
      · have unsettled : t ∉ q :: S := by
          rw [List.mem_cons, not_or]
          exact ⟨same, settled⟩
        rw [after_of_unsettled topic unsettled]
        refine settlesTo_of_rule_none (rule_layer formed.fits fun other => same ?_) each
        exact Option.some.inj (topic.symm.trans other)

/-! ## What holds of all nodes of a stage -/

theorem roles_layer {r : Role} (role : r ∈ n.form.roles) : r ∈ (n.layer S).form.roles := by
  rw [Node.layer, Node.form_withForm, Form.roles_map]
  exact role

/-- A node plays its roles at every stage. -/
theorem roles_after (formed : n.Formed Parsed) (good : n.Good S) :
    ∀ r ∈ n.form.roles, r ∈ (n.after S).form.roles := by
  intro r role
  cases topic : n.form.topic? with
  | none =>
    rw [Node.after_of_topic_none topic]
    exact roles_layer role
  | some t =>
    by_cases settled : t ∈ S
    · obtain ⟨new, turns⟩ := good.turns formed topic settled
      rw [turns.after settled, turns.spent.after]
      exact roles_layer (turns.roles r role)
    · rw [after_of_unsettled topic settled]
      exact roles_layer role

theorem Mix.roles_after {D : Node → Prop} {w : Node} (mix : Mix D w)
    (source : ∀ c, D c → ∀ r ∈ c.form.roles, r ∈ (c.after S).form.roles) :
    ∀ r ∈ w.form.roles, r ∈ (w.after S).form.roles := by
  intro r role
  cases mix with
  | converted formed =>
    rw [Node.after_of_converted formed]
    exact role
  | source member => exact source w member r role
  | made spent =>
    rw [spent.after]
    exact roles_layer role

/-- The children of a node play their roles at a stage. -/
def Node.KeepsRoles (S : List Topic) (n : Node) : Prop :=
  ∀ c ∈ n.children, ∀ r ∈ c.form.roles, r ∈ (c.after S).form.roles

theorem Mix.forall_mem_after {D : Node → Prop} {P : Node → Prop} {w : Node} (mix : Mix D w)
    (converted : ∀ m : Node, m.Fits → m.Converted → P m)
    (spent : ∀ m : Node, m.Spent → m.Fits → m.KeepsRoles S → P (m.after S))
    (roles : ∀ c, D c → ∀ r ∈ c.form.roles, r ∈ (c.after S).form.roles)
    (source : ∀ c, D c → ∀ m ∈ (c.after S).preorder, P m) : ∀ m ∈ (w.after S).preorder, P m := by
  induction mix with
  | converted formed =>
    intro m member
    rw [Node.after_of_converted formed] at member
    obtain ⟨fits, extra⟩ := formed m member
    exact converted m fits extra
  | source member => exact source _ member
  | @made w isSpent fits _ parts ih =>
    refine Node.forall_mem_preorder_iff.mpr
      ⟨spent w isSpent fits fun c child => (parts c child).roles_after roles, ?_⟩
    rw [isSpent.after, Node.children_layer, List.forall_mem_map]
    exact ih

/-- A node of a stage is converted, or it has a spent layer, or it has a layer of the source that
no topic so far is about. -/
theorem forall_mem_after {P : Node → Prop} (formed : n.Formed Parsed) (good : n.Good S)
    (converted : ∀ m : Node, m.Fits → m.Converted → P m)
    (spent : ∀ m : Node, m.Spent → m.Fits → m.KeepsRoles S → P (m.after S))
    (source : ∀ m ∈ n.preorder, (∀ t ∈ S, m.form.topic? ≠ some t) → P (m.layer S)) :
    ∀ m ∈ (n.after S).preorder, P m := by
  induction n using Node.descend with
  | step n ih =>
    have below : ∀ c ∈ n.descendants, ∀ m ∈ (c.after S).preorder, P m := by
      intro c lower
      have member := Node.descendants_subset_preorder lower
      exact ih c lower (formed.of_mem member) (good.below lower) fun m inner =>
        source m (Node.preorder_trans inner member)
    have layered (others : ∀ t ∈ S, n.form.topic? ≠ some t) :
        ∀ m ∈ (n.layer S).preorder, P m := by
      refine Node.forall_mem_preorder_iff.mpr ⟨source n n.self_mem_preorder others, ?_⟩
      rw [Node.children_layer, List.forall_mem_map]
      exact fun c child => below c (Node.child_mem_descendants child)
    cases topic : n.form.topic? with
    | none =>
      rw [Node.after_of_topic_none topic]
      exact layered (by simp [topic])
    | some t =>
      by_cases settled : t ∈ S
      · obtain ⟨new, turns⟩ := good.turns formed topic settled
        have roles : ∀ c, n.Holds c → ∀ r ∈ c.form.roles, r ∈ (c.after S).form.roles :=
          fun c held => roles_after (formed.of_mem (Node.descendants_subset_preorder held.below))
            (good.below held.below)
        rw [turns.after settled]
        refine Node.forall_mem_preorder_iff.mpr ⟨spent new turns.spent turns.fits
          fun c child => (turns.parts c child).roles_after roles, ?_⟩
        rw [turns.spent.after, Node.children_layer, List.forall_mem_map]
        exact fun c child => (turns.parts c child).forall_mem_after converted spent roles
          fun d held => below d held.below
      · rw [after_of_unsettled topic settled]
        refine layered fun u inS same => settled ?_
        exact Option.some.inj (topic.symm.trans same) ▸ inS

/-- A layer outside the Flow dialect fits, if its children keep their roles. -/
theorem fits_layer (fits : n.Fits) (other : ∀ f, n.form ≠ .flow f) (roles : n.KeepsRoles S) :
    (n.layer S).Fits := by
  constructor
  · rw [Node.layer, Node.form_withForm, Form.slots_map, List.forall_mem_map]
    exact fun s slot => roles s.2 (Node.mem_children_of_slot slot) s.1 (fits.plays s slot)
  · exact fits.sound.map fun name a form => absurd form (other _)

/-- The nodes of a stage that are not of the Flow dialect fit. -/
theorem fits_after (formed : n.Formed Parsed) (good : n.Good S) :
    ∀ m ∈ (n.after S).preorder, (∀ f, m.form ≠ .flow f) → m.Fits := by
  have layer {m : Node} (fits : m.Fits) (roles : m.KeepsRoles S)
      (other : ∀ f, (m.layer S).form ≠ .flow f) : (m.layer S).Fits := by
    refine fits_layer fits (fun f form => ?_) roles
    rcases m with ⟨i, g⟩
    cases form
    exact other _ rfl
  refine forall_mem_after formed good (fun m fits _ _ => fits) (fun m spent fits roles other => ?_)
    fun m member _ other => ?_
  · rw [spent.after] at other ⊢
    exact layer fits roles other
  · refine layer (formed m member).1 (fun c child => ?_) other
    have inner := formed.of_mem member
    exact roles_after (inner.of_child child) ((good.of_mem member).below (Node.child_mem_descendants child))

/-! ## Reports -/

theorem reportAt_of_rule_none {m : Node} (none : q.rule m = none) : q.rule.reportAt m = pure () := by
  rw [Rule.reportAt, none]

theorem reportAt_of_converted {m : Node} (fits : m.Fits) (converted : m.Converted) :
    q.rule.reportAt m = pure () :=
  reportAt_of_rule_none (Topic.rule_eq_none fits.known (by simp [converted.topic?]))

/-- A topic that is settled is silent. -/
theorem reportAt_of_settled (formed : n.Formed Parsed) (good : n.Good S) (settled : q ∈ S) :
    ∀ m ∈ (n.after S).preorder, q.rule.reportAt m = pure () := by
  refine forall_mem_after formed good (fun m => reportAt_of_converted)
    (fun m spent _ _ => spent.reportAt) fun m member others => ?_
  exact reportAt_of_rule_none (rule_layer (formed m member).1 (others q settled))

end Stages

/-! ## Failures -/

namespace Outcome

variable {α β : Type}

theorem pure_bind (a : α) (f : α → Outcome β) : pure a >>= f = f a := rfl

/-- What an outcome failed with. -/
def failure? (x : Outcome α) : Option Failure :=
  match x.result with
  | .error e => some e
  | .ok _ => none

theorem failure?_of_ok {x : Outcome α} {a : α} (result : x.result = .ok a) : x.failure? = none := by
  rw [failure?, result]

theorem result_of_failure? {x : Outcome α} {e : Failure} (fails : x.failure? = some e) :
    x.result = .error e := by
  rw [failure?] at fails
  split at fails
  next result => exact result.trans (congrArg _ (Option.some.inj fails))
  next => cases fails

theorem result_of_failure?_none {x : Outcome α} (fine : x.failure? = none) :
    ∃ a, x.result = .ok a := by
  rw [failure?] at fine
  split at fine
  next => cases fine
  next a result => exact ⟨a, result⟩

/-- If the second part fails in one way, whatever it is given, the first part fails first. -/
theorem failure?_bind {x : Outcome α} {f : α → Outcome β} {e : Option Failure}
    (same : ∀ a, (f a).failure? = e) : (x >>= f).failure? = x.failure?.or e := by
  cases result : x.result with
  | ok a =>
    rw [bind_of_ok result, failure?_of_ok result, Option.none_or, ← same a]
    rfl
  | error e' =>
    rw [bind_of_error result, failure?, failure?, result]
    rfl

theorem failure?_bind_pure {x : Outcome α} {k : α → β} :
    (x >>= fun a => pure (k a)).failure? = x.failure? := by
  have same : ∀ a, (pure (k a) : Outcome β).failure? = none := fun _ => rfl
  rw [failure?_bind same, Option.or_none]

theorem failure?_forM (f : α → Outcome Unit) (as : List α) :
    (as.forM f).failure? = (as.filterMap fun a => (f a).failure?).head? := by
  rw [List.head?_filterMap]
  induction as with
  | nil => rfl
  | cons a as ih =>
    change (f a >>= fun _ => as.forM f).failure? = _
    rw [failure?_bind fun _ => ih, List.findSome?_cons]
    cases (f a).failure? <;> rfl

theorem failure?_mapChildren (f : α → Outcome β) (as : List α) :
    (mapChildren f as).failure? = as.findSome? fun a => (f a).failure? := by
  induction as with
  | nil => rfl
  | cons a as ih =>
    rw [mapChildren, failure?_bind fun _ => failure?_bind_pure.trans ih, List.findSome?_cons]
    cases (f a).failure? <;> rfl

end Outcome

/-- All statements of a tree that cannot be converted. -/
def Node.badStatements (n : Node) : List Failure := n.preorder.filterMap badStatement?

/-- All failures of the rule about declarations in a tree. -/
def Node.refusals (n : Node) : List Failure :=
  n.preorder.filterMap fun m => (Topic.declarations.rule.reportAt m).failure?

section Failures

variable {q : Topic} {S : List Topic} {n : Node}

theorem topic?_of_declared {decl : Node} (parsed : decl.Parsed)
    (role : .declared ∈ decl.form.roles ∨ .declaredDefault ∈ decl.form.roles) :
    decl.form.topic? = none := by
  rcases decl with ⟨i, f⟩
  cases f with
  | flow f => cases f <;> first | rfl | simp [Form.roles, FlowForm.roles, Role.ofExpr] at role
  | ts f => exact absurd rfl (parsed.1 f)
  | expr f => rfl
  | stmt f => cases f <;> simp [Form.roles, StmtForm.roles] at role
  | foreign kind ps => rfl

/-- Declarations, and exports of them, consist of types. -/
theorem isTyping_of_isDeclare (formed : n.Formed Parsed) (declares : n.form.isDeclare) :
    n.IsTyping := by
  obtain ⟨-, -, slots⟩ := Node.formed_iff.mp formed
  rcases n with ⟨i, f⟩
  cases f with
  | flow f =>
    cases f with
    | declareExport decl isDefault =>
      simp only [Form.slots, FlowForm.slots, List.forall_mem_singleton] at slots
      obtain ⟨role, inner⟩ := slots
      obtain ⟨parsed, -, slots⟩ := Node.formed_iff.mp inner
      have types : decl.IsTyping := by
        rcases decl with ⟨j, g⟩
        cases g with
        | flow g =>
          refine Node.isTyping_flow ?_ slots
          cases g <;> first | rfl | cases isDefault <;> simp [Form.roles, FlowForm.roles, Role.ofExpr] at role
        | ts g => exact absurd rfl (parsed.1 g)
        | expr g => cases g <;> cases isDefault <;> simp [Form.roles, ExprForm.roles, Role.ofExpr] at role
        | stmt g => cases g <;> cases isDefault <;> simp [Form.roles, StmtForm.roles] at role
        | foreign kind ps => simp [Form.roles] at role
      refine Node.isTyping_iff.mpr ⟨.inl ⟨_, rfl, by simp [FlowForm.roles]⟩, ?_⟩
      simpa [Node.children, Form.children, Form.parts, FlowForm.parts] using types
    | declareVar | declareFunction | declareClass => exact Node.isTyping_flow rfl slots
    | _ => cases declares
  | _ => cases declares

theorem badExport?_of_isDeclare (other : n.form.isDeclare = false) : n.badExport? = none := by
  rcases n with ⟨i, f⟩
  cases f with
  | flow f => cases f <;> first | rfl | cases other
  | _ => rfl

theorem isDeclaration_layer (n : Node) : isDeclaration (n.layer S) = isDeclaration n
    ∧ isVariable (n.layer S) = isVariable n := by
  rcases n with ⟨i, f⟩
  cases f with
  | flow f => cases f <;> exact ⟨rfl, rfl⟩
  | _ => exact ⟨rfl, rfl⟩

/-- A statement is refused at every stage, for the same reason, or at none. -/
theorem failure?_replacement {s : Node} (plays : s.Plays Parsed .stmt) :
    (replacement id (s.after S)).failure? = s.badExport? := by
  cases bad : s.badExport? with
  | none =>
    have turns := statement_turns plays.2 plays.1 bad
    exact Outcome.failure?_of_ok (turns.replace id S S fixes_id fun _ _ => rfl)
  | some e =>
    rw [Node.badExport?] at bad
    split at bad
    next decl isDefault form =>
      split at bad
      next refused =>
        cases bad
        rcases s with ⟨i, f⟩
        cases form
        obtain ⟨-, -, slots⟩ := Node.formed_iff.mp plays.2
        simp only [Form.slots, FlowForm.slots, List.forall_mem_singleton] at slots
        have topic : decl.form.topic? = none := by
          refine topic?_of_declared slots.2.extra ?_
          cases isDefault with
          | true => exact .inr slots.1
          | false => exact .inl slots.1
        obtain ⟨sameDeclaration, sameVariable⟩ := isDeclaration_layer (S := S) decl
        rw [layer_declareExport, Node.after_of_topic_none topic, replacement,
          if_neg (by simp [isDeclaration])]
        dsimp only
        rw [sameDeclaration, sameVariable, if_pos refused,
          show (decl.layer S).kind = decl.kind from Form.kind_map _ _]
        rfl
      next => cases bad
    next => cases bad

/-- The rule about declarations fails at the statements that cannot be converted. -/
theorem failure?_declarations (formed : n.Formed Parsed) :
    (Topic.declarations.rule.reportAt (n.layer S)).failure? = n.badStatement? := by
  obtain ⟨-, -, slots⟩ := Node.formed_iff.mp formed
  have rows {ss : List Node} (fits : ∀ s ∈ ss, s.Plays Parsed .stmt) :
      (replacements id (ss.map (Node.after S))).failure? = ss.findSome? Node.badExport? := by
    rw [replacements, Outcome.failure?_bind_pure, Outcome.failure?_mapChildren, List.findSome?_map,
      ← List.head?_filterMap, ← List.head?_filterMap]
    exact congrArg _ (List.filterMap_congr fun s member => failure?_replacement (fits s member))
  by_cases topic : n.form.topic? = some .declarations
  · rcases n with ⟨i, f⟩
    obtain ⟨ss, rfl | rfl⟩ := block_of_topic topic
    all_goals
      simp only [Form.slots, StmtForm.slots, Role.forall_mem_forAll] at slots
      first | rw [layer_program] | rw [layer_block]
      change ((replacements id _ >>= fun ss => pure _) >>= fun _ => pure ()).failure? = _
      rw [Outcome.failure?_bind_pure, Outcome.failure?_bind_pure, rows slots]
      rfl
  · rw [badStatement?_of_topic topic, reportAt_of_rule_none (rule_layer formed.fits topic)]
    rfl

theorem Node.IsTyping.badStatements (types : n.IsTyping) : n.badStatements = [] := by
  refine List.filterMap_eq_nil_iff.mpr fun m member => ?_
  rcases m with ⟨i, f⟩
  rcases types _ member with ⟨g, rfl, -⟩ | ⟨g, rfl⟩ | ⟨name, rfl⟩ | ⟨object, name, rfl⟩ <;> rfl

theorem Node.IsTyping.refusals (types : n.IsTyping) : n.refusals = [] := by
  refine List.filterMap_eq_nil_iff.mpr fun m member => ?_
  rcases m with ⟨i, f⟩
  rcases types _ member with ⟨g, rfl, -⟩ | ⟨g, rfl⟩ | ⟨name, rfl⟩ | ⟨object, name, rfl⟩ <;> rfl

/-- The rule about declarations fails at the same statements at every stage. -/
theorem refusals_after (formed : n.Formed Parsed) (unsettled : .declarations ∉ S) :
    (n.after S).refusals = n.badStatements := by
  induction n using Node.childInduction with
  | step n ih =>
    have each : n.children.flatMap (fun c => (c.after S).refusals)
        = n.children.flatMap Node.badStatements :=
      List.flatMap_congr fun c child => ih c child (formed.of_child child)
    have layered : (n.layer S).refusals = n.badStatements := by
      rw [Node.refusals, Node.badStatements, Node.filterMap_preorder, Node.filterMap_preorder,
        failure?_declarations formed, Node.children_layer, List.flatMap_map]
      exact congrArg _ each
    cases topic : n.form.topic? with
    | none => rw [Node.after_of_topic_none topic, layered]
    | some t =>
      by_cases settled : t ∈ S
      · obtain ⟨new, turns⟩ := Node.Good.turns (fun declares => absurd declares unsettled) formed
          topic settled
        have other : n.badStatement? = none := by
          refine badStatement?_of_topic fun declares => unsettled ?_
          exact Option.some.inj (topic.symm.trans declares) ▸ settled
        have before : n.badStatements = n.children.flatMap Node.badStatements := by
          rw [Node.badStatements, Node.filterMap_preorder, other]
          rfl
        have later : (new.after S).refusals = new.children.flatMap fun c => (c.after S).refusals := by
          rw [Node.refusals, Node.filterMap_preorder, turns.spent.reportAt, turns.spent.after,
            Node.children_layer, List.flatMap_map]
          rfl
        have unmarked (same : new.children = n.children) : (new.after S).refusals = n.badStatements := by
          rw [later, before, same, each]
        rw [turns.after settled]
        cases turns.shape with
        | typing types typed => rw [types.badStatements, (typed.isTyping S).refusals]
        | @cast i e a u types converted =>
          have value := ih e (by simp [Node.children, Form.children, Form.parts, FlowForm.parts])
            (formed.of_child (by simp [Node.children, Form.children, Form.parts, FlowForm.parts]))
          have type : (u.after S).refusals = [] := by
            rw [Node.after_of_converted converted]
            exact (Node.isTyping_of_converted converted).refusals
          rw [later, before]
          simp [Node.children, Form.children, Form.parts, FlowForm.parts, TsForm.parts, value, type,
            types.badStatements]
        | unmarked => exact unmarked (children_of_slots (StmtForm.slots_unmarked _))
        | program => cases topic; exact absurd settled unsettled
        | block => cases topic; exact absurd settled unsettled
      · rw [after_of_unsettled topic settled, layered]

/-- What the rule of a topic fails with, on a tree of the source. -/
def Node.failure? (q : Topic) (n : Node) : Option Failure :=
  if q = .declarations then n.badStatements.head? else none

theorem Node.Good.badStatements (good : n.Good S) (settled : .declarations ∈ S) :
    n.badStatements = [] :=
  List.filterMap_eq_nil_iff.mpr (good settled)

/-- No rule fails at a node, unless it is about declarations. -/
theorem failure?_reportAt (formed : n.Formed Parsed) (good : n.Good S) (other : q ≠ .declarations) :
    ∀ m ∈ (n.after S).preorder, (q.rule.reportAt m).failure? = none := by
  refine forall_mem_after formed good (fun m fits converted => ?_) (fun m spent _ _ => ?_)
    fun m member _ => ?_
  · rw [reportAt_of_converted fits converted]
    rfl
  · rw [spent.reportAt]
    rfl
  · by_cases topic : m.form.topic? = some q
    · obtain ⟨new, turns⟩ := turns_of_topic (formed.of_mem member) topic
        (badStatement?_of_topic (by simpa [topic] using other))
      rw [Topic.reportAt_of_topic ((Node.topic?_layer S m).trans topic),
        Outcome.bind_of_ok (turns.apply id S S (carries_id S m))]
      rfl
    · rw [reportAt_of_rule_none (rule_layer (formed m member).1 topic)]
      rfl

theorem failure?_report (formed : n.Formed Parsed) (good : n.Good S) :
    (q.rule.report (n.after S)).failure? = n.failure? q := by
  rw [Rule.report, Outcome.failure?_forM, Node.failure?]
  split
  next declares =>
    subst declares
    by_cases settled : .declarations ∈ S
    · rw [good.badStatements settled, List.filterMap_eq_nil_iff.mpr fun m member => by
        rw [reportAt_of_settled formed good settled m member]
        rfl]
    · exact congrArg List.head? (refusals_after formed settled)
  next other => rw [List.filterMap_eq_nil_iff.mpr (failure?_reportAt formed good other)]; rfl

theorem Node.Good.cons (good : n.Good S) (fine : n.failure? q = none) : n.Good (q :: S) := by
  intro settled
  rcases List.mem_cons.mp settled with rfl | before
  · rw [Node.failure?, if_pos rfl, List.head?_eq_none_iff] at fine
    exact List.filterMap_eq_nil_iff.mp fine
  · exact good before

theorem Node.Good.failure? (good : n.Good S) (settled : q ∈ S) : n.failure? q = none := by
  rw [Node.failure?]
  split
  next declares => rw [good.badStatements (declares ▸ settled)]; rfl
  next => rfl

/-- A rule that fails, fails at every stage and in the same way. -/
theorem run_after_of_failure {e : Failure} (formed : n.Formed Parsed) (good : n.Good S)
    (fails : n.failure? q = some e) : (q.rule.run (n.after S)).result = .error e := by
  have report := Outcome.result_of_failure? ((failure?_report formed good).trans fails)
  rw [Rule.run, Outcome.bind_of_error report]

/-- Running a rule on a stage gives the stage with its topic. -/
theorem run_after (formed : n.Formed Parsed) (good : n.Good S) (fine : n.failure? q = none) :
    (q.rule.run (n.after S)).result = .ok (n.after (q :: S)) := by
  obtain ⟨_, report⟩ := Outcome.result_of_failure?_none ((failure?_report formed good).trans fine)
  rw [Rule.run, Outcome.bind_of_ok report, (settlesTo_after formed (good.cons fine)).run]
  rfl

/-- Running a rule again changes nothing and reports nothing. -/
theorem run_of_settled (formed : n.Formed Parsed) (good : n.Good S) (settled : q ∈ S) :
    q.rule.run (n.after S) = pure (n.after S) := by
  have quiet : q.rule.report (n.after S) = pure () := by
    have each := reportAt_of_settled formed good settled
    rw [Rule.report]
    generalize (n.after S).preorder = ms at each
    induction ms with
    | nil => rfl
    | cons m ms ih =>
      obtain ⟨first, rest⟩ := List.forall_mem_cons.mp each
      change (q.rule.reportAt m >>= fun _ => ms.forM q.rule.reportAt) = _
      rw [first, ih rest]
      rfl
  have same : n.after (q :: S) = n.after S := by
    rw [Node.after_congr fun t => ⟨fun member => ?_, List.mem_cons_of_mem q⟩]
    rcases List.mem_cons.mp member with rfl | before
    · exact settled
    · exact before
  have settles := settlesTo_after formed (good.cons (good.failure? settled))
  rw [Rule.run, quiet, settles.run, same]
  rfl

end Failures

end Retype
