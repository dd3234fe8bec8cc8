import Retype.Proofs.Pass.Exposed

/-!
# Strays stay

No pass takes a stray away, and none makes one.  So a tree has strays at some stage if and only if
its source has, and rewriting expressions of the source does not change that.
-/

namespace Retype

open Node (Converted Parsed)

section Strays

variable {S : List Topic} {n : Node}

theorem strays_map {k : Node → Node}
    (same : ∀ c ∈ n.branches, (k c).form.isDeclare = c.form.isDeclare) :
    (n.withForm (n.form.map k)).strays = n.strays.map k := by
  rw [Node.strays, Node.strays, branches_map, List.filter_map]
  exact congrArg _ (List.filter_congr same)

theorem mem_children_of_branch {c : Node} (branch : c ∈ n.branches) : c ∈ n.children := by
  rcases n with ⟨i, f⟩
  cases f with
  | stmt f =>
    cases f with
    | cond | loop =>
      simp only [Node.children, Form.children, Form.parts, StmtForm.parts, List.flatMap_cons,
        List.flatMap_nil, Part.nodes_node, Part.nodes_ofChild?, List.append_nil]
      exact List.mem_append_right _ branch
    | _ => exact absurd branch List.not_mem_nil
  | _ => exact absurd branch List.not_mem_nil

theorem allStrays_eq_nil_iff :
    n.allStrays = [] ↔ n.strays = [] ∧ ∀ c ∈ n.children, c.allStrays = [] := by
  rw [Node.allStrays_eq, List.append_eq_nil_iff, List.flatMap_eq_nil_iff]

/-- Types hold no strays. -/
theorem Node.IsTyping.allStrays (types : n.IsTyping) : n.allStrays = [] := by
  refine List.flatMap_eq_nil_iff.mpr fun m member => ?_
  rcases m with ⟨i, f⟩
  rcases types _ member with ⟨g, rfl, -⟩ | ⟨g, rfl⟩ | ⟨name, rfl⟩ | ⟨object, name, rfl⟩ <;> rfl

/-- A node is a declaration of the source at every stage, or at none. -/
theorem isDeclare_after (formed : n.Formed Parsed) (good : n.Good S) :
    (n.after S).form.isDeclare = n.form.isDeclare := by
  cases topic : n.form.topic? with
  | none => rw [Node.after_of_topic_none topic, isDeclare_layer]
  | some t =>
    by_cases settled : t ∈ S
    · obtain ⟨new, turns⟩ := good.turns formed topic settled
      have other : n.form.isDeclare = false := by
        cases declares : n.form.isDeclare with
        | false => rfl
        | true =>
          rw [topic?_of_isDeclare declares] at topic
          cases topic
      rw [turns.after settled, turns.spent.after, isDeclare_layer, other]
      rcases turns.shared with ⟨f, form⟩ | ⟨f, form⟩ <;> rw [form] <;> rfl
    · rw [after_of_unsettled topic settled, isDeclare_layer]

theorem allStrays_layer
    (declares : ∀ c ∈ n.children, (c.after S).form.isDeclare = c.form.isDeclare)
    (each : ∀ c ∈ n.children, (c.after S).allStrays = [] ↔ c.allStrays = []) :
    (n.layer S).allStrays = [] ↔ n.allStrays = [] := by
  have same : (n.layer S).strays = n.strays.map (Node.after S) :=
    strays_map fun c branch => declares c (mem_children_of_branch branch)
  rw [allStrays_eq_nil_iff, allStrays_eq_nil_iff, same, List.map_eq_nil_iff, Node.children_layer,
    List.forall_mem_map]
  exact and_congr_right fun _ => forall₂_congr each

/-- What takes the place of a statement has strays if and only if the statement has. -/
theorem allStrays_replaced {s : Node} {news : List Node} (replaces : Replaces s news)
    (same : (s.after S).allStrays = [] ↔ s.allStrays = []) :
    (∀ new ∈ news, (new.after S).allStrays = []) ↔ s.allStrays = [] := by
  have typed {d : Node} {h : TsForm Node} (declares : Declares d h) (i : Info) :
      (Node.after S ⟨i, .ts h⟩).allStrays = [] := ((declares.typed i).isTyping S).allStrays
  have exported {i : Info} {d : Node} {h : TsForm Node} (declares : Declares d h) (isDefault : Bool) :
      Node.allStrays ⟨i, .flow (.declareExport d isDefault)⟩ = [] :=
    allStrays_eq_nil_iff.mpr ⟨rfl, List.forall_mem_singleton.mpr declares.before.allStrays⟩
  cases replaces with
  | kept => rw [List.forall_mem_singleton, same]
  | declaration declares =>
    rw [List.forall_mem_singleton]
    exact iff_of_true (typed declares _) declares.before.allStrays
  | named declares =>
    rw [List.forall_mem_singleton]
    refine iff_of_true ?_ (exported declares false)
    rw [spent_exportNamed.after, layer_exportNamed]
    exact allStrays_eq_nil_iff.mpr ⟨rfl, List.forall_mem_singleton.mpr (typed declares _)⟩
  | default declares =>
    rw [List.forall_mem_cons, List.forall_mem_singleton]
    refine iff_of_true ⟨typed declares _, ?_⟩ (exported declares true)
    rw [Node.after_of_topic_none rfl]
    have ident (pos : Int) (name : String) : Node.after S (.ident pos name) = .ident pos name :=
      Node.after_of_topic_none rfl
    refine allStrays_eq_nil_iff.mpr ⟨rfl, List.forall_mem_singleton.mpr ?_⟩
    change (Node.after S (.ident _ _)).allStrays = []
    rw [ident]
    exact allStrays_eq_nil_iff.mpr ⟨rfl, fun c child => absurd child List.not_mem_nil⟩

theorem allStrays_statements {ss : List Node} (replaces : ∀ s ∈ ss, Replaces s s.replaced)
    (same : ∀ s ∈ ss, (s.after S).allStrays = [] ↔ s.allStrays = []) :
    (∀ new ∈ ss.flatMap Node.replaced, (new.after S).allStrays = []) ↔ ∀ s ∈ ss, s.allStrays = [] := by
  rw [List.forall_mem_flatMap]
  exact forall₂_congr fun s member => allStrays_replaced (replaces s member) (same s member)

/-- A tree has strays at some stage if and only if its source has. -/
theorem allStrays_after (formed : n.Formed Parsed) (good : n.Good S) :
    (n.after S).allStrays = [] ↔ n.allStrays = [] := by
  induction n using Node.childInduction with
  | step n ih =>
    have each : ∀ c ∈ n.children, (c.after S).allStrays = [] ↔ c.allStrays = [] := fun c child =>
      ih c child (formed.of_child child) (good.below (Node.child_mem_descendants child))
    have declares : ∀ c ∈ n.children, (c.after S).form.isDeclare = c.form.isDeclare := fun c child =>
      isDeclare_after (formed.of_child child) (good.below (Node.child_mem_descendants child))
    have layered := allStrays_layer declares each
    cases topic : n.form.topic? with
    | none => rw [Node.after_of_topic_none topic, layered]
    | some t =>
      by_cases settled : t ∈ S
      · obtain ⟨new, turns⟩ := good.turns formed topic settled
        rw [turns.after settled, turns.spent.after]
        cases turns.shape with
        | @typing i j f g types typed type =>
          have later := (typed.isTyping S).allStrays
          rw [turns.spent.after] at later
          exact iff_of_true later types.allStrays
        | @cast i e a u types later =>
          have value := each e (by simp [Node.children, Form.children, Form.parts, FlowForm.parts])
          have type : (u.after S).allStrays = [] := by
            rw [Node.after_of_converted later]
            exact (Node.isTyping_of_converted later).allStrays
          rw [layer_cast, allStrays_eq_nil_iff, allStrays_eq_nil_iff]
          refine and_congr (iff_of_true rfl rfl) ?_
          simp [Node.children, Form.children, Form.parts, FlowForm.parts, TsForm.parts, value, type,
            types.allStrays]
        | @unmarked i f =>
          have same : Node.children ⟨i, .stmt f.unmarked⟩ = Node.children ⟨i, .stmt f⟩ :=
            children_of_slots f.slots_unmarked
          rw [allStrays_layer (same ▸ declares) (same ▸ each), allStrays_eq_nil_iff,
            allStrays_eq_nil_iff, strays_unmarked, same]
        | @program i ss replaces =>
          rw [children_program] at each
          rw [layer_program, allStrays_eq_nil_iff, allStrays_eq_nil_iff, children_program, children_program,
            List.forall_mem_map]
          exact and_congr (iff_of_true rfl rfl) (allStrays_statements replaces each)
        | @block i ss replaces =>
          rw [children_block] at each
          rw [layer_block, allStrays_eq_nil_iff, allStrays_eq_nil_iff, children_block, children_block,
            List.forall_mem_map]
          exact and_congr (iff_of_true rfl rfl) (allStrays_statements replaces each)
      · rw [after_of_unsettled topic settled, layered]

/-- Rewriting expressions neither makes strays nor takes them away. -/
theorem Rewriting.allStrays_value {special : Node → Option Node} {value : Bool → Node → Node} {b : Bool}
    (w : Rewriting special value) : (value b n).allStrays = [] ↔ n.allStrays = [] := by
  have nil_iff (m : Node) :
      m.allStrays = [] ↔ m.first (fun k => k.strays.head?.map fun _ => ()) = none := by
    rw [Node.first_eq_none_iff, Node.allStrays, List.flatMap_eq_nil_iff]
    exact forall₂_congr fun k _ => by rw [Option.map_eq_none_iff, List.head?_eq_none_iff]
  rw [nil_iff, nil_iff, w.first_value (fun _ _ => rfl) fun m _ b => ?_]
  rw [strays_map fun c _ => w.isDeclare_value b c, List.head?_map, Option.map_map]

end Strays

end Retype
