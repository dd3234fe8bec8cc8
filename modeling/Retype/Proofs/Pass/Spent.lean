import Retype.Proofs.Convert.Type

/-!
# Spent layers

A rule takes a node apart and builds a new one.  Parts of the new node are converted
already, and parts are nodes of the source that are kept.  The layers between them are
*spent*: no rule has anything to change in them, at whatever stage their children are.
`Mix` is the form of such a tree, and `Turns` says that a rule turns a node into one.

Spent layers are where the two ways through a tree meet.  Whether a layer comes first or
its children do, nothing happens to the layer.
-/

namespace Retype

open Node (Converted Parsed)
open Retype.Convert
open Passes (isDeclaration isVariable declaredName replacement)
open Outcome (fail warn warnIf ofExcept)

variable {α β : Type}

/-! ## Spent layers -/

/-- No rule changes anything but the children of a node, or warns. -/
def Node.Spent (w : Node) : Prop :=
  ∀ (q : Topic) (S : List Topic), q.rule (w.layer S) = none
    ∨ ∃ change, q.rule (w.layer S) = some change ∧ ∀ keep,
      change keep = pure ((w.layer S).withForm ((w.layer S).form.map keep))

namespace Node.Spent

variable {w : Node} {q : Topic} {S U : List Topic}

theorem apply (spent : w.Spent) : q.apply id (w.layer S) = pure (w.layer S) := by
  rw [Topic.apply]
  rcases spent q S with none | ⟨change, found, result⟩
  · rw [none]
  · rw [found]
    dsimp only
    rw [result, Form.map_eq_self (k := id) fun _ _ => rfl, Node.withForm_self]

/-- A spent layer stays, and its children go on. -/
theorem after (spent : w.Spent) : w.after S = w.layer S := by
  rw [Node.after_eq, Node.settleAt]
  split
  · split
    · rw [spent.apply]
      rfl
    · rfl
  · rfl

/-- A spent layer reports nothing. -/
theorem reportAt (spent : w.Spent) : q.rule.reportAt (w.after S) = pure () := by
  rw [spent.after, Rule.reportAt]
  rcases spent q S with none | ⟨change, found, result⟩
  · rw [none]
  · rw [found]
    dsimp only
    rw [result]
    rfl

end Node.Spent

/-- With enough depth, a rule settles a tree to another. -/
def SettlesTo (q : Topic) (m new : Node) : Prop := ∀ depth, m.count ≤ depth → q.rule.settle depth m = new

theorem SettlesTo.run {q : Topic} {m new : Node} (settles : SettlesTo q m new) :
    q.rule.settle m.count m = new := settles _ (Nat.le_refl _)

theorem Node.children_layer (S : List Topic) (w : Node) :
    (w.layer S).children = w.children.map (Node.after S) := Form.children_map _ w.form

/-- A layer that a rule leaves alone settles with its children. -/
theorem settlesTo_layer {w : Node} {q : Topic} {S U : List Topic}
    (step : ∀ depth, q.rule.settle (depth + 1) (w.layer S)
      = (w.layer S).withForm ((w.layer S).form.map (q.rule.settle depth)))
    (each : ∀ c ∈ w.children, SettlesTo q (c.after S) (c.after U)) :
    SettlesTo q (w.layer S) (w.layer U) := by
  intro depth enough
  have positive := (w.layer S).count_pos
  obtain ⟨depth, rfl⟩ : ∃ d, depth = d + 1 := ⟨depth - 1, by omega⟩
  have children : ∀ c ∈ w.form.children, q.rule.settle depth (c.after S) = c.after U := by
    intro c child
    refine each c child depth ?_
    have smaller : (c.after S).count < (w.layer S).count := by
      refine Node.count_lt_of_child ?_
      rw [Node.children_layer]
      exact List.mem_map_of_mem child
    omega
  calc q.rule.settle (depth + 1) (w.layer S)
      = ⟨w.info, (w.form.map (Node.after S)).map (q.rule.settle depth)⟩ := step depth
    _ = ⟨w.info, w.form.map fun c => q.rule.settle depth (c.after S)⟩ := by rw [Form.map_map]
    _ = w.layer U := congrArg (Node.mk w.info) (Form.map_congr children)

theorem settlesTo_of_rule_none {w : Node} {q : Topic} {S U : List Topic}
    (none : q.rule (w.layer S) = none)
    (each : ∀ c ∈ w.children, SettlesTo q (c.after S) (c.after U)) :
    SettlesTo q (w.layer S) (w.layer U) :=
  settlesTo_layer (fun depth => by rw [Rule.settle, none]) each

/-- If the children of a spent layer settle to a later stage, so does the layer. -/
theorem Node.Spent.settlesTo {w : Node} {q : Topic} {S U : List Topic} (spent : w.Spent)
    (each : ∀ c ∈ w.children, SettlesTo q (c.after S) (c.after U)) :
    SettlesTo q (w.after S) (w.after U) := by
  rw [spent.after, spent.after]
  rcases spent q S with none | ⟨change, found, result⟩
  · exact settlesTo_of_rule_none none each
  · refine settlesTo_layer (fun depth => ?_) each
    rw [Rule.settle, found]
    dsimp only
    rw [result]
    rfl

/-! ## Layers -/

section Layers

variable {i : Info} {S : List Topic}

theorem layer_importDecl {kind : Option ImportKind} {specs : List Node} {source : String} :
    Node.layer S ⟨i, .stmt (.importDecl kind specs source)⟩
      = ⟨i, .stmt (.importDecl kind (specs.map (Node.after S)) source)⟩ := by
  simp [Node.layer, Node.withForm, StmtForm.map, StmtForm.mapM]

theorem layer_exportNamed {decl : Option Node} {specs : List Node} {source : Option String}
    {kind : Option ImportKind} :
    Node.layer S ⟨i, .stmt (.exportNamed decl specs source kind)⟩
      = ⟨i, .stmt (.exportNamed (decl.map (Node.after S)) (specs.map (Node.after S)) source kind)⟩ := by
  simp [Node.layer, Node.withForm, StmtForm.map, StmtForm.mapM]

theorem layer_classProp {key : String} {annot value : Option Node} {isStatic : Bool}
    {variance : Option Variance} {optional : Bool} :
    Node.layer S ⟨i, .stmt (.classProp key annot value isStatic variance optional)⟩
      = ⟨i, .stmt (.classProp key (annot.map (Node.after S)) (value.map (Node.after S)) isStatic
        variance optional)⟩ := by
  simp [Node.layer, Node.withForm, StmtForm.map, StmtForm.mapM]

theorem layer_program {ss : List Node} : Node.layer S ⟨i, .stmt (.program ss)⟩
    = ⟨i, .stmt (.program (ss.map (Node.after S)))⟩ := by
  simp [Node.layer, Node.withForm, StmtForm.map, StmtForm.mapM]

theorem layer_block {ss : List Node} : Node.layer S ⟨i, .stmt (.block ss)⟩
    = ⟨i, .stmt (.block (ss.map (Node.after S)))⟩ := by
  simp [Node.layer, Node.withForm, StmtForm.map, StmtForm.mapM]

theorem children_program {ss : List Node} : Node.children ⟨i, .stmt (.program ss)⟩ = ss := by
  simp [Node.children, Form.children, Form.parts, StmtForm.parts]

theorem children_block {ss : List Node} : Node.children ⟨i, .stmt (.block ss)⟩ = ss := by
  simp [Node.children, Form.children, Form.parts, StmtForm.parts]

theorem layer_typecast {e a : Node} : Node.layer S ⟨i, .flow (.typecast e a)⟩
    = ⟨i, .flow (.typecast (e.after S) (a.after S))⟩ := rfl

theorem layer_cast {e t : Node} : Node.layer S ⟨i, .ts (.cast e t)⟩
    = ⟨i, .ts (.cast (e.after S) (t.after S))⟩ := rfl

theorem layer_ifaceExt {id : Node} {targs : Option Node} :
    Node.layer S ⟨i, .flow (.ifaceExt id targs)⟩
      = ⟨i, .flow (.ifaceExt (id.after S) (targs.map (Node.after S)))⟩ := by
  simp [Node.layer, Node.withForm, FlowForm.map, FlowForm.mapM]

theorem layer_heritage {id : Node} {targs : Option Node} :
    Node.layer S ⟨i, .ts (.heritage id targs)⟩
      = ⟨i, .ts (.heritage (id.after S) (targs.map (Node.after S)))⟩ := by
  simp [Node.layer, Node.withForm, TsForm.map, TsForm.mapM]

end Layers

/-! ## Which layers are spent -/

section Spent

variable {i : Info}

theorem spent_of_topic_none {w : Node} (known : ∀ kind ps, w.form ≠ .foreign kind ps)
    (none : w.form.topic? = none) : w.Spent := by
  intro q S
  refine .inl (Topic.rule_eq_none ?_ ?_)
  · intro kind ps foreign
    cases form : w.form with
    | foreign kind ps => exact known kind ps form
    | _ => rw [Node.layer, Node.form_withForm, form] at foreign; cases foreign
  · rw [Node.topic?_layer, none]
    simp

theorem spent_ts {f : TsForm Node} : (⟨i, .ts f⟩ : Node).Spent :=
  spent_of_topic_none (by simp) rfl

theorem spent_importDecl {specs : List Node} {source : String} :
    (⟨i, .stmt (.importDecl none specs source)⟩ : Node).Spent := by
  intro q S
  rw [layer_importDecl]
  cases q with
  | imports =>
    refine .inr ⟨_, rfl, fun keep => ?_⟩
    simp only [Node.withForm, Form.map_stmt, StmtForm.map, StmtForm.mapM, mapChildren_pure,
      pure_bind]
    rfl
  | _ => exact .inl rfl

theorem spent_importSpec {imported name : String} :
    (⟨i, .stmt (.importSpec imported name none)⟩ : Node).Spent := by
  intro q S
  cases q with
  | imports => exact .inr ⟨_, rfl, fun keep => rfl⟩
  | _ => exact .inl rfl

theorem spent_exportNamed {decl : Option Node} {specs : List Node} {source : Option String} :
    (⟨i, .stmt (.exportNamed decl specs source none)⟩ : Node).Spent := by
  intro q S
  rw [layer_exportNamed]
  cases q with
  | exports =>
    refine .inr ⟨_, rfl, fun keep => ?_⟩
    simp only [Node.withForm, Form.map_stmt, StmtForm.map, StmtForm.mapM, mapChildren_pure,
      mapChild?_pure, pure_bind]
    rfl
  | _ => exact .inl rfl

/-- A statement that a block keeps as it is. -/
def Node.Kept (s : Node) : Prop := ∀ keep, Passes.replacement keep s = pure [keep s]

theorem replacements_of_kept {ss : List Node} (kept : ∀ s ∈ ss, s.Kept) (keep : Node → Node) :
    Passes.replacements keep ss = pure (ss.map keep) := by
  rw [Passes.replacements]
  have rows : mapChildren (Passes.replacement keep) ss = pure (ss.map fun s => [keep s]) := by
    induction ss with
    | nil => rfl
    | cons s ss ih =>
      obtain ⟨first, rest⟩ := List.forall_mem_cons.mp kept
      rw [mapChildren, first keep, ih rest]
      rfl
  rw [rows]
  change pure (List.flatten _) = _
  rw [List.flatten_eq_flatMap, List.flatMap_map, List.map_eq_flatMap]
  rfl

theorem spent_program {ss : List Node} (kept : ∀ s ∈ ss, ∀ S, (s.after S).Kept) :
    (⟨i, .stmt (.program ss)⟩ : Node).Spent := by
  intro q S
  rw [layer_program]
  cases q with
  | declarations =>
    refine .inr ⟨_, rfl, fun keep => ?_⟩
    rw [replacements_of_kept (List.forall_mem_map.mpr fun s member => kept s member S)]
    simp only [Node.withForm, Form.map_stmt, StmtForm.map, StmtForm.mapM, mapChildren_pure]
    rfl
  | _ => exact .inl rfl

theorem spent_block {ss : List Node} (kept : ∀ s ∈ ss, ∀ S, (s.after S).Kept) :
    (⟨i, .stmt (.block ss)⟩ : Node).Spent := by
  intro q S
  rw [layer_block]
  cases q with
  | declarations =>
    refine .inr ⟨_, rfl, fun keep => ?_⟩
    rw [replacements_of_kept (List.forall_mem_map.mpr fun s member => kept s member S)]
    simp only [Node.withForm, Form.map_stmt, StmtForm.map, StmtForm.mapM, mapChildren_pure]
    rfl
  | _ => exact .inl rfl

end Spent

/-! ## Turned nodes -/

/-- A tree of spent layers, down to converted trees and to trees of the source. -/
inductive Mix (D : Node → Prop) : Node → Prop where
  | converted {w : Node} (formed : w.Formed Converted) : Mix D w
  | source {w : Node} (member : D w) : Mix D w
  | made {w : Node} (spent : w.Spent) (fits : w.Fits)
      (shared : (∃ f, w.form = .ts f) ∨ ∃ f, w.form = .stmt f)
      (parts : ∀ c ∈ w.children, Mix D c) : Mix D w

/-- A node below another that is there at every stage, unless a rule is applied to the other
first. -/
structure Node.Holds (n c : Node) : Prop where
  below : c ∈ n.descendants
  stays : ∀ S, c.after S ∈ (n.layer S).descendants

theorem Node.holds_of_child {c n : Node} (child : c ∈ n.children) : n.Holds c := by
  refine ⟨Node.child_mem_descendants child, fun S => Node.child_mem_descendants ?_⟩
  rw [Node.children_layer]
  exact List.mem_map_of_mem child

/-- What a child holds is held by its parent, if no topic is about the child. -/
theorem Node.holds_trans {c d n : Node} (child : d ∈ n.children) (other : d.form.topic? = none)
    (holds : d.Holds c) : n.Holds c := by
  refine ⟨Node.descendants_trans (Node.descendants_subset_preorder holds.below)
    (Node.child_mem_descendants child), fun S => ?_⟩
  have inside := holds.stays S
  rw [← Node.after_of_topic_none other] at inside
  exact Node.descendants_trans (Node.descendants_subset_preorder inside)
    ((Node.holds_of_child child).stays S)

/-- What a node holds goes from one stage to another. -/
structure Carries (keep : Node → Node) (S U : List Topic) (n : Node) : Prop where
  fixes : Fixes keep
  held : ∀ c, n.Holds c → keep (c.after S) = c.after U

theorem carries_id (S : List Topic) (n : Node) : Carries id S S n := ⟨fixes_id, fun _ _ => rfl⟩

theorem Carries.child {keep : Node → Node} {S U : List Topic} {n c : Node}
    (carries : Carries keep S U n) (child : c ∈ n.children) : keep (c.after S) = c.after U :=
  carries.held c (Node.holds_of_child child)

/-! ## What can be made of a node -/

/-- The layers of declarations. -/
def Form.isDeclare : Form α → Bool
  | .flow (.declareVar ..) | .flow (.declareFunction ..) | .flow (.declareClass ..)
  | .flow (.declareExport ..) => true
  | _ => false

/-- The name in a declaration of the source. -/
def Node.declared (n : Node) : String :=
  match n.form with
  | .flow (.declareVar _ name _) | .flow (.declareFunction name _)
  | .flow (.declareClass name ..) => name
  | _ => ""

/-- A node that consists of types at every stage, and of converted ones once type arguments are
settled. -/
structure Node.Typed (n : Node) : Prop where
  isTyping : ∀ S, (n.after S).IsTyping
  converted : ∀ S, .arguments ∈ S → ∀ m ∈ (n.after S).preorder, m.Converted

theorem Node.typed_of_converted {n : Node} (formed : n.Formed Converted) : n.Typed := by
  refine ⟨fun S => ?_, fun S _ => ?_⟩
  all_goals rw [Node.after_of_converted formed]
  · exact Node.isTyping_of_converted formed
  · exact fun m member => (formed m member).2

/-- A declaration and the layer that it converts to. -/
structure Declares (d : Node) (h : TsForm Node) : Prop where
  declares : isDeclaration d
  before : d.IsTyping
  typed : ∀ i, Node.Typed ⟨i, .ts h⟩
  roles : h.roles = [.stmt, .exported]
  name : declaredName (.ts d.pos h) = d.declared

/-- What takes the place of a statement, with kept nodes as they are. -/
def Node.replaced (s : Node) : List Node := (replacement id s).toOption.getD [s]

/-- The statements that a statement can be replaced by. -/
inductive Replaces : Node → List Node → Prop where
  | kept {s : Node} (other : s.form.isDeclare = false) : Replaces s [s]
  | declaration {s : Node} {h : TsForm Node} (declares : Declares s h) :
    Replaces s [⟨s.info, .ts h⟩]
  | named {i : Info} {decl : Node} {h : TsForm Node} (declares : Declares decl h) :
    Replaces ⟨i, .flow (.declareExport decl false)⟩
      [⟨i, .stmt (.exportNamed (some (.ts decl.pos h)) [] none none)⟩]
  | default {i : Info} {decl : Node} {h : TsForm Node} (declares : Declares decl h) :
    Replaces ⟨i, .flow (.declareExport decl true)⟩
      [⟨{ pos := decl.pos, comments := i.comments, blankBefore := i.blankBefore }, .ts h⟩,
        ⟨{ pos := i.pos, trailing := i.trailing },
          .stmt (.exportDefault (.ident i.pos (declaredName (.ts decl.pos h))))⟩]

/-- A statement without the marks of the Flow dialect. -/
def StmtForm.unmarked : StmtForm α → StmtForm α
  | .importDecl _ specs source => .importDecl none specs source
  | .importSpec imported name _ => .importSpec imported name none
  | .exportNamed decl specs source _ => .exportNamed decl specs source none
  | .classProp key annot value isStatic _ optional =>
    .classProp key annot value isStatic none optional
  | f => f

theorem StmtForm.unmarked_map (k : α → β) (f : StmtForm α) :
    (f.map k).unmarked = f.unmarked.map k := by
  cases f <;> rfl

theorem StmtForm.slots_unmarked (f : StmtForm α) : f.unmarked.slots = f.slots := by
  cases f <;> rfl

/-- The nodes that a rule can make of a node. -/
inductive Shape : Node → Node → Prop where
  | typing {i j : Info} {f : FlowForm Node} {g : TsForm Node} (before : Node.IsTyping ⟨i, .flow f⟩)
    (typed : Node.Typed ⟨j, .ts g⟩) (type : .expr ∉ g.roles) :
    Shape ⟨i, .flow f⟩ ⟨j, .ts g⟩
  | cast {i : Info} {e a u : Node} (before : a.IsTyping) (later : u.Formed Converted) :
    Shape ⟨i, .flow (.typecast e a)⟩ ⟨i, .ts (.cast e u)⟩
  | unmarked {i : Info} {f : StmtForm Node} : Shape ⟨i, .stmt f⟩ ⟨i, .stmt f.unmarked⟩
  | program {i : Info} {ss : List Node} (each : ∀ s ∈ ss, Replaces s s.replaced) :
    Shape ⟨i, .stmt (.program ss)⟩ ⟨i, .stmt (.program (ss.flatMap Node.replaced))⟩
  | block {i : Info} {ss : List Node} (each : ∀ s ∈ ss, Replaces s s.replaced) :
    Shape ⟨i, .stmt (.block ss)⟩ ⟨i, .stmt (.block (ss.flatMap Node.replaced))⟩

/-- A rule turns a node into a tree of spent layers. -/
structure Turns (t : Topic) (n new : Node) : Prop where
  topic : n.form.topic? = some t
  spent : new.Spent
  fits : new.Fits
  shared : (∃ f, new.form = .ts f) ∨ ∃ f, new.form = .stmt f
  parts : ∀ c ∈ new.children, Mix n.Holds c
  roles : ∀ r ∈ n.form.roles, r ∈ new.form.roles
  shape : Shape n new
  apply : ∀ keep S U, Carries keep S U n → (t.apply keep (n.layer S)).result = .ok (new.layer U)

theorem Turns.after {t : Topic} {n new : Node} (turns : Turns t n new) {S : List Topic}
    (member : t ∈ S) : n.after S = new.after S := by
  rw [turns.spent.after]
  exact Node.after_of_apply turns.topic member (turns.apply id S S (carries_id S n))

theorem layer_of_converted {w : Node} (formed : w.Formed Converted) (S : List Topic) :
    w.layer S = w := by
  rw [← Node.after_of_topic_none formed.extra.topic?, Node.after_of_converted formed]

/-- A rule that turns types into a converted tree. -/
theorem turns_of_converted {t : Topic} {i j : Info} {f : FlowForm Node} {g : TsForm Node}
    (topic : (Form.flow f).topic? = some t) (before : Node.IsTyping ⟨i, .flow f⟩)
    (formed : (⟨j, .ts g⟩ : Node).Formed Converted) (type : .expr ∉ g.roles)
    (roles : ∀ r ∈ f.roles, r ∈ g.roles)
    (apply : ∀ keep S, Fixes keep →
      (t.apply keep (Node.layer S ⟨i, .flow f⟩)).result = .ok ⟨j, .ts g⟩) :
    Turns t ⟨i, .flow f⟩ ⟨j, .ts g⟩ where
  topic := topic
  spent := spent_ts
  fits := formed.fits
  shared := .inl ⟨g, rfl⟩
  parts := fun c child => .converted (formed.of_child child)
  roles := roles
  shape := .typing before (Node.typed_of_converted formed) type
  apply := by
    intro keep S U carries
    rw [layer_of_converted formed]
    exact apply keep S carries.fixes

/-- A node without comments gives another nothing but its layer. -/
theorem become_plain (n : Node) (pos : Int) (f : Form Node) :
    n.become (.plain pos f) = n.withForm f := by
  rcases n with ⟨⟨pos, comments, trailing, blank⟩, form⟩
  simp [Node.become, Node.withForm, Node.plain, Node.comments, Node.trailing]

end Retype
