import Retype.Pass.Basic
import Retype.Proofs.Tree.Role

/-!
# A tree after some rules

Nine passes follow rules.  A rule is about layers of a few kinds, its *topic*, and no
layer is about two topics.  So the rules of several topics can be followed together.

`Node.after` does so from the leaves up: the children of a node first, and then the
node, with its children kept as they are by then.  The passes work the other way round.
They change a node first and go on in what it keeps.  Later modules show that the two
ways meet: whatever passes a source tree has gone through, in whatever order, it is the
tree after the topics of these passes.

A node is *converted* if it is TypeScript or part of a name.  In a tree of such nodes
there is nothing left to do.
-/

namespace Retype

open Passes

variable {α β : Type}

/-- What a rule is about. -/
inductive Topic where
  | imports | exports | declarations | interfaces | aliases | casts | annotations | parameters
  | heritage | arguments
  deriving DecidableEq, Repr

/-- The rule about a topic. -/
def Topic.rule : Topic → Rule
  | .imports => importRule
  | .exports => exportRule
  | .declarations => declarationRule
  | .interfaces => interfaceRule
  | .aliases => aliasRule
  | .casts => castRule
  | .annotations => annotationRule
  | .parameters => parameterRule
  | .heritage => heritageRule
  | .arguments => argumentRule

/-- The topic of a layer. -/
def Form.topic? : Form α → Option Topic
  | .stmt (.importDecl ..) | .stmt (.importSpec ..) => some .imports
  | .stmt (.exportNamed ..) => some .exports
  | .stmt (.program _) | .stmt (.block _) => some .declarations
  | .stmt (.classProp _ _ _ _ variance _) =>
    if Convert.isContravariant variance then some .annotations else none
  | .flow (.interface ..) => some .interfaces
  | .flow (.typeAlias ..) | .flow (.opaqueType ..) => some .aliases
  | .flow (.typecast ..) => some .casts
  | .flow (.annot _) => some .annotations
  | .flow (.tparams _) => some .parameters
  | .flow (.ifaceExt ..) => some .heritage
  | .flow (.targs _) => some .arguments
  | _ => none

theorem Form.topic?_map (k : α → β) (f : Form α) : (f.map k).topic? = f.topic? := by
  cases f with
  | flow f => cases f <;> rfl
  | ts f => rfl
  | expr f => rfl
  | stmt f => cases f <;> rfl
  | foreign kind ps => rfl

/-- A rule leaves alone what it is not about. -/
theorem Topic.rule_eq_none {t : Topic} {n : Node} (known : ∀ kind ps, n.form ≠ .foreign kind ps)
    (other : n.form.topic? ≠ some t) : t.rule n = none := by
  rcases n with ⟨i, f⟩
  cases f with
  | flow f => cases f <;> cases t <;> first | rfl | exact absurd rfl other
  | ts f => cases t <;> rfl
  | expr f => cases t <;> rfl
  | stmt f =>
    cases f with
    | classProp key annot value isStatic variance optional =>
      cases t with
      | annotations =>
        simp only [Form.topic?] at other
        simp only [Topic.rule, annotationRule]
        split at other
        · exact absurd rfl other
        next plain => exact if_neg plain
      | _ => rfl
    | _ => cases t <;> first | rfl | exact absurd rfl other
  | foreign kind ps => exact absurd rfl (known kind ps)

/-- What a rule makes of a node, given what becomes of the nodes that stay. -/
def Topic.apply (t : Topic) (keep : Node → Node) (n : Node) : Outcome Node :=
  match t.rule n with
  | some change => change keep
  | none => pure n

/-- A node after the rules of some topics, with its children as they are. -/
def Node.settleAt (S : List Topic) (n : Node) : Node :=
  match n.form.topic? with
  | some t => if t ∈ S then (t.apply id n).toOption.getD n else n
  | none => n

/-- A tree after the rules of some topics, from the leaves up. -/
def Node.after (S : List Topic) (n : Node) : Node :=
  n.fold fun n results => (n.withForm results).settleAt S

/-- A node with its children after some topics. -/
def Node.layer (S : List Topic) (n : Node) : Node := n.withForm (n.form.map (after S))

namespace Node

theorem after_eq (S : List Topic) (n : Node) : n.after S = (n.layer S).settleAt S := n.fold_eq _

theorem topic?_layer (S : List Topic) (n : Node) : (n.layer S).form.topic? = n.form.topic? :=
  Form.topic?_map _ n.form

/-- A node that no topic of these is about keeps its layer. -/
theorem after_of_topic {S : List Topic} {n : Node} (other : ∀ t ∈ S, n.form.topic? ≠ some t) :
    n.after S = n.layer S := by
  rw [after_eq, settleAt]
  split
  next t topic =>
    rw [topic?_layer] at topic
    exact if_neg fun member => other t member topic
  next => rfl

theorem after_of_topic_none {S : List Topic} {n : Node} (none : n.form.topic? = none) :
    n.after S = n.layer S :=
  after_of_topic fun t _ => by simp [none]

/-- A node that a topic of these is about follows its rule. -/
theorem after_of_apply {S : List Topic} {n new : Node} {t : Topic}
    (topic : n.form.topic? = some t) (member : t ∈ S)
    (result : (t.apply id (n.layer S)).result = .ok new) : n.after S = new := by
  rw [after_eq, settleAt, topic?_layer, topic]
  dsimp only
  rw [if_pos member, Outcome.toOption, result]
  rfl

/-- Only the topics themselves count, and not their order. -/
theorem after_congr {S U : List Topic} (same : ∀ t, t ∈ S ↔ t ∈ U) : after S = after U := by
  have step : settleAt S = settleAt U := by
    funext n
    rw [settleAt, settleAt]
    cases n.form.topic? with
    | none => rfl
    | some t => simp only [same t]
  funext n
  rw [after, after, step]

/-- Without topics, nothing changes. -/
theorem after_nil (n : Node) : n.after [] = n := by
  induction n using childInduction with
  | step n ih =>
    rw [after_of_topic (by simp), layer, Form.map_eq_self ih, withForm_self]

/-! ## Converted trees -/

/-- A node of the TypeScript dialect, or a part of a name. -/
def Converted (n : Node) : Prop :=
  (∃ f, n.form = .ts f) ∨ (∃ name, n.form = .expr (.ident name))
    ∨ ∃ object name, n.form = .expr (.member object name false)

theorem Converted.topic? {n : Node} (converted : n.Converted) : n.form.topic? = none := by
  rcases converted with ⟨f, form⟩ | ⟨name, form⟩ | ⟨object, name, form⟩ <;> rw [form] <;> rfl

/-- A converted tree stays as it is. -/
theorem after_of_converted {S : List Topic} {n : Node} (formed : n.Formed Converted) :
    n.after S = n := by
  induction n using childInduction with
  | step n ih =>
    rw [after_of_topic_none formed.extra.topic?, layer,
      Form.map_eq_self fun c child => ih c child (formed.of_child child), withForm_self]

/-- A converted tree stays as it is. -/
theorem settle_of_converted {t : Topic} {depth : Nat} {n : Node} (formed : n.Formed Converted) :
    t.rule.settle depth n = n := by
  induction depth generalizing n with
  | zero => rfl
  | succ depth ih =>
    have other : t.rule n = none :=
      Topic.rule_eq_none formed.fits.known (by simp [formed.extra.topic?])
    rw [Rule.settle, other]
    dsimp only
    rw [Form.map_eq_self fun c child => ih (formed.of_child child), withForm_self]

/-! ## Types in a tree -/

/-- A node of a type, or of a declaration that holds nothing but types. -/
def TypeLevel (n : Node) : Prop :=
  (∃ f, n.form = .flow f ∧ .expr ∉ f.roles) ∨ n.Converted

theorem TypeLevel.layer {n : Node} (types : n.TypeLevel) (S : List Topic) :
    (n.layer S).TypeLevel := by
  rcases n with ⟨i, f⟩
  rcases types with ⟨g, rfl, notExpr⟩ | ⟨g, rfl⟩ | ⟨name, rfl⟩ | ⟨object, name, rfl⟩
  · refine .inl ⟨g.map (after S), rfl, ?_⟩
    have same : (g.map (after S)).roles = g.roles := Form.roles_map (after S) (.flow g)
    rwa [same]
  · exact .inr (.inl ⟨_, rfl⟩)
  · exact .inr (.inr (.inl ⟨name, rfl⟩))
  · exact .inr (.inr (.inr ⟨_, name, rfl⟩))

/-- A tree of such nodes. -/
def IsTyping (n : Node) : Prop := ∀ m ∈ n.preorder, m.TypeLevel

theorem isTyping_of_converted {n : Node} (formed : n.Formed Converted) : n.IsTyping :=
  fun _ member => .inr (formed.of_mem member).extra

theorem isTyping_iff {n : Node} : n.IsTyping ↔ n.TypeLevel ∧ ∀ c ∈ n.children, c.IsTyping :=
  forall_mem_preorder_iff

theorem isTyping_ts {i : Info} {f : TsForm Node} :
    IsTyping ⟨i, .ts f⟩ ↔ ∀ c ∈ children ⟨i, .ts f⟩, c.IsTyping :=
  isTyping_iff.trans (and_iff_right (.inr (.inl ⟨f, rfl⟩)))

/-- A layer that holds nothing but types. -/
theorem isTyping_of_slots {i : Info} {f : FlowForm Node} (types : f.isTypes)
    (slots : ∀ s ∈ f.slots, s.2.IsTyping) : IsTyping ⟨i, .flow f⟩ := by
  refine isTyping_iff.mpr ⟨.inl ⟨f, rfl, f.expr_not_mem types⟩, fun c child => ?_⟩
  rw [children, Form.children_eq_slots (by simp)] at child
  obtain ⟨s, slot, rfl⟩ := List.mem_map.mp child
  exact slots s slot

/-- Types of the source consist of types. -/
theorem isTyping_of_plays {n : Node} {r : Role} (plays : n.Plays Parsed r)
    (typing : r.isTyping ∨ r = .name) : n.IsTyping := by
  induction n using childInduction generalizing r with
  | step n ih =>
    obtain ⟨role, formed⟩ := plays
    obtain ⟨parsed, -, slots⟩ := formed_iff.mp formed
    rcases n with ⟨i, f⟩
    cases f with
    | flow f =>
      have types := f.isTypes_of_role role typing
      exact isTyping_of_slots types fun s slot =>
        ih s.2 (mem_children_of_slot slot) (slots s slot) (f.isTyping_of_slots types s slot)
    | ts f => exact absurd rfl (parsed.1 f)
    | expr f =>
      rcases typing with typing | rfl
      · exact absurd typing (List.any_eq_false.mp f.any_isTyping r role)
      · cases f with
        | ident name =>
          refine isTyping_iff.mpr ⟨.inr (.inr (.inl ⟨name, rfl⟩)), ?_⟩
          simp [children, Form.children, Form.parts, ExprForm.parts]
        | _ => simp [Form.roles, ExprForm.roles, Role.ofExpr] at role
    | stmt f =>
      rcases typing with typing | rfl
      · exact absurd typing (List.any_eq_false.mp f.any_isTyping r role)
      · cases f <;> simp [Form.roles, StmtForm.roles] at role
    | foreign kind ps => simp [Form.roles] at role

/-- A declaration of the source consists of types. -/
theorem isTyping_flow {i : Info} {f : FlowForm Node} (types : f.isTypes)
    (slots : ∀ s ∈ f.slots, s.2.Plays Parsed s.1) : IsTyping ⟨i, .flow f⟩ :=
  isTyping_of_slots types fun s slot =>
    isTyping_of_plays (slots s slot) (f.isTyping_of_slots types s slot)

end Node

end Retype
