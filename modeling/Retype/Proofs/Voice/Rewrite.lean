import Retype.Proofs.Transform
import Retype.Proofs.Voice.Pass

/-!
# Comments and removed operators

The passes that remove `??` and `?.` rebuild expressions.  What they build shows all that the parts
of the expression become, so the comments that are kept below the operators stay kept.
-/

namespace Retype

open Node (Parsed)
open Passes (isInside marked coalesce shortCircuit nullTest undefinedAt)

variable {c : String} {n : Node}

/-! ## Expressions -/

section Expressions

variable {i : Info} {f : ExprForm Node} {m : Node}

/-- An expression shows its parts, unless it is a property. -/
theorem shown_expr (other : ∀ key value shorthand, f ≠ .prop key value shorthand) :
    m ∈ Node.shown ⟨i, .expr f⟩ ↔ m ∈ f.slots.map (·.2) := by
  have same : Node.shown ⟨i, .expr f⟩ = Node.children ⟨i, .expr f⟩ := by
    cases f with
    | prop key value shorthand => exact absurd rfl (other key value shorthand)
    | _ => rfl
  rw [same, Node.children, Form.children_eq_slots (by simp)]
  rfl

theorem voiced_expr (other : ∀ key value shorthand, f ≠ .prop key value shorthand)
    (part : m ∈ f.slots.map (·.2)) (voiced : Voiced c m) : Voiced c ⟨i, .expr f⟩ :=
  .within ((shown_expr other).mpr part) voiced

/-- The statements and members of a tree are no operators. -/
theorem roles_of_row (formed : n.Formed Parsed) (code : n.form.isCode)
    (row : m ∈ n.rows ∨ m ∈ n.branches) : m.form.roles ≠ Role.ofExpr := by
  obtain ⟨-, -, slots⟩ := Node.formed_iff.mp formed
  have apart (r : Role) (plays : m.Plays Parsed r) (away : r ∉ Role.ofExpr) :
      m.form.roles ≠ Role.ofExpr := fun same => away (same ▸ plays.1)
  rcases n with ⟨j, f⟩
  cases f with
  | flow f => cases f <;> simp [Node.rows, Node.branches, Form.isCode] at row code
  | ts f => cases code
  | expr f =>
    cases f with
    | object props =>
      have among : m ∈ props := by simpa [Node.rows, Node.branches] using row
      exact apart .objectProp (slots (.objectProp, m) (List.mem_map_of_mem among)) (by decide)
    | _ => simp [Node.rows, Node.branches] at row
  | stmt f =>
    simp only [Form.slots] at slots
    cases f with
    | program ss | block ss =>
      have among : m ∈ ss := by simpa [Node.rows, Node.branches] using row
      exact apart .stmt (slots (.stmt, m) (List.mem_map_of_mem among)) (by decide)
    | classDecl name tps super superArgs parents members =>
      have among : m ∈ members := by simpa [Node.rows, Node.branches] using row
      refine apart .classMember (slots (.classMember, m) ?_) (by decide)
      simp only [StmtForm.slots, List.mem_append]
      exact .inr (List.mem_map_of_mem among)
    | cond test cons alt =>
      simp only [StmtForm.slots, List.forall_mem_append, List.forall_mem_cons, Role.forall_mem_for?]
        at slots
      simp only [Node.rows, Node.branches, List.not_mem_nil, false_or, List.mem_append,
        Option.mem_toList] at row
      exact apart .stmt (row.elim (slots.2.1 m) (slots.2.2 m)) (by decide)
    | loop head body =>
      simp only [StmtForm.slots, List.forall_mem_cons, Role.forall_mem_for?] at slots
      simp only [Node.rows, Node.branches, List.not_mem_nil, false_or, Option.mem_toList] at row
      exact apart .stmt (slots.2 m row) (by decide)
    | _ => simp [Node.rows, Node.branches] at row
  | foreign kind ps => cases code

end Expressions

/-! ## Replacements -/

namespace Rewriting

variable {special : Node → Option Node} {value : Bool → Node → Node} (w : Rewriting special value)
  {b : Bool}

include w

theorem info_value {m : Node} (other : m.form.roles ≠ Role.ofExpr) : (value b m).info = m.info := by
  cases found : special m with
  | none => rw [w.value_of_none found]; rfl
  | some new => exact absurd (w.isExpr m new found).1.2 other

/-- A pass keeps comments if its replacements do. -/
theorem voiced_value
    (built : ∀ n m, special n = some m →
      (∀ d ∈ n.descendants, ∀ b, Voiced c d → Voiced c (value b d)) → Voiced c n → Voiced c m)
    (formed : n.Formed Parsed) (voiced : Voiced c n) : Voiced c (value b n) := by
  induction n using Node.descend generalizing b with
  | step n ih =>
    have formedBelow {d : Node} (lower : d ∈ n.descendants) : d.Formed Parsed :=
      formed.of_mem (Node.descendants_subset_preorder lower)
    have below (d : Node) (lower : d ∈ n.descendants) (b : Bool) (said : Voiced c d) :
        Voiced c (value b d) := ih d lower (formedBelow lower) said
    have layer (code : n.form.isCode) :
        Voiced c (n.withForm (n.form.map (value (isInside n b)))) :=
      voiced_map code (fun m row => w.info_value (roles_of_row formed code row))
        (fun m inside => below m (Node.child_mem_descendants (shown_subset code m inside)) _) voiced
    cases found : special n with
    | some m =>
      rw [w.value_of_special found]
      exact (built n m found below voiced).of_form form_marked
    | none =>
      obtain ⟨parsed, -, slots⟩ := Node.formed_iff.mp formed
      have typing (types : n.IsTyping) : Voiced c (value b n) := by
        rwa [w.value_typing types]
      rw [w.value_of_none found] at typing ⊢
      rcases n with ⟨i, f⟩
      cases f with
      | flow f =>
        cases f with
        | typecast => exact layer rfl
        | declareVar | declareFunction | declareClass | declareExport =>
          exact typing (isTyping_of_isDeclare formed rfl)
        | _ => exact typing (Node.isTyping_flow rfl slots)
      | ts f => exact absurd rfl (parsed.1 f)
      | expr f => exact layer rfl
      | stmt f => exact layer rfl
      | foreign kind ps => exact absurd rfl (formed.fits.known kind ps)

end Rewriting

/-! ## Operators -/

section Operators

/-- Removing `??` keeps the comments of both operands. -/
theorem voiced_coalescence {m : Node} (found : n.coalescence? = some m)
    (below : ∀ d ∈ n.descendants, ∀ b, Voiced c d → Voiced c (d.coalesced b)) (voiced : Voiced c n) :
    Voiced c m := by
  obtain ⟨i, l, r, rfl, rfl⟩ := coalescence_cases found
  obtain ⟨d, inside, said⟩ := voiced.exists_shown rfl rfl
  have lower : d ∈ Node.descendants ⟨i, .expr (.binary .nullish l r)⟩ :=
    Node.child_mem_descendants (shown_subset rfl d inside)
  have either : d = l ∨ d = r := by
    simpa [ExprForm.slots] using (shown_expr (by simp)).mp inside
  refine voiced_expr (by simp) (m := d.coalesced true) ?_ (below d lower true said)
  rcases either with rfl | rfl <;> simp [ExprForm.slots]

/-- A link shows its object and its parts. -/
theorem shown_on {i : Info} {link : Link Node} {object d : Node} {optional : Bool} :
    d ∈ Node.shown ⟨i, .expr (link.on object optional)⟩ ↔ d = object ∨ ∃ s ∈ link.slots, s.2 = d := by
  rw [shown_expr (by cases link <;> simp [Link.on]), Link.slots_on, List.map_cons, List.mem_cons,
    List.mem_map]

theorem voiced_part {i : Info} {link : Link Node} {base : Node} {k : Node → Node} {s : Role × Node}
    (slot : s ∈ link.slots) (voiced : Voiced c (k s.2)) :
    Voiced c ⟨i, .expr ((link.map k).on base false)⟩ := by
  refine .within (shown_on.mpr (.inr ⟨(s.1, k s.2), ?_, rfl⟩)) voiced
  rw [Link.slots_map]
  exact List.mem_map_of_mem (f := Prod.map id k) slot

/-- The rebuilt chain keeps the comments of the chain. -/
theorem voiced_chain {o m : Node} (found : n.chain? = some (o, m)) :
    (∀ d ∈ n.descendants, ∀ b, Voiced c d → Voiced c (d.unchained b)) → Voiced c n → Voiced c m := by
  have bare {i : Info} {link : Link Node} {object : Node} {optional : Bool} :
      Node.rows ⟨i, .expr (link.on object optional)⟩ = []
        ∧ Node.branches ⟨i, .expr (link.on object optional)⟩ = [] := by
    cases link <;> exact ⟨rfl, rfl⟩
  refine chain_induction (P := fun n _ m =>
    (∀ d ∈ n.descendants, ∀ b, Voiced c d → Voiced c (d.unchained b)) → Voiced c n → Voiced c m)
    ?_ ?_ found
  · intro i link object below voiced
    obtain ⟨d, inside, said⟩ := voiced.exists_shown bare.1 bare.2
    rcases shown_on.mp inside with rfl | ⟨s, slot, rfl⟩
    · exact .within (shown_on.mpr (.inl rfl)) (below d object_mem true said)
    · exact voiced_part slot (below s.2 (part_mem slot) true said)
  · intro i link object o m ih below voiced
    obtain ⟨d, inside, said⟩ := voiced.exists_shown bare.1 bare.2
    rcases shown_on.mp inside with rfl | ⟨s, slot, rfl⟩
    · exact .within (shown_on.mpr (.inl rfl)) (ih (fun d lower => below d (below_object lower)) said)
    · exact voiced_part slot (below s.2 (part_mem slot) true said)

/-- Removing `?.` keeps the comments of a chain. -/
theorem voiced_shortCircuit {m : Node} (found : n.shortCircuit? = some m)
    (below : ∀ d ∈ n.descendants, ∀ b, Voiced c d → Voiced c (d.unchained b)) (voiced : Voiced c n) :
    Voiced c m := by
  obtain ⟨⟨o, chain⟩, rebuilt, rfl⟩ := Option.map_eq_some_iff.mp found
  exact voiced_expr (by simp) (by simp [ExprForm.slots]) (voiced_chain rebuilt below voiced)

end Operators

/-! ## All passes -/

theorem voiced_rewrite (p : Pass) (formed : n.Formed Parsed) (voiced : Voiced c n) :
    Voiced c (p.rewrite n) := by
  cases p with
  | nullishCoalescing => exact coalesced_rewriting.voiced_value (fun _ _ => voiced_coalescence) formed voiced
  | optionalChaining => exact unchained_rewriting.voiced_value (fun _ _ => voiced_shortCircuit) formed voiced
  | _ => exact voiced

theorem formed_rewrite (p : Pass) (formed : n.Formed Parsed) : (p.rewrite n).Formed Parsed := by
  cases p with
  | nullishCoalescing => exact coalesced_rewriting.formed_value formed
  | optionalChaining => exact unchained_rewriting.formed_value formed
  | _ => exact formed

theorem info_rewrite (p : Pass) (role : .program ∈ n.form.roles) :
    (p.rewrite n).info = n.info ∧ .program ∈ (p.rewrite n).form.roles := by
  have other : n.form.roles ≠ Role.ofExpr := fun same => absurd (same ▸ role) (by decide)
  cases p with
  | nullishCoalescing =>
    exact ⟨coalesced_rewriting.info_value other, coalesced_rewriting.roles_value role⟩
  | optionalChaining =>
    exact ⟨unchained_rewriting.info_value other, unchained_rewriting.roles_value role⟩
  | _ => exact ⟨rfl, role⟩

theorem voiced_rewriteAll (ps : List Pass) (formed : n.Formed Parsed) (voiced : Voiced c n) :
    Voiced c (Pass.rewriteAll ps n) := by
  induction ps generalizing n with
  | nil => exact voiced
  | cons p ps ih => exact ih (formed_rewrite p formed) (voiced_rewrite p formed voiced)

theorem info_rewriteAll (ps : List Pass) (role : .program ∈ n.form.roles) :
    (Pass.rewriteAll ps n).info = n.info := by
  induction ps generalizing n with
  | nil => rfl
  | cons p ps ih => exact (ih (info_rewrite p role).2).trans (info_rewrite p role).1

/-- The comments kept in a tree of the source are kept at its last stage, if there are no strays. -/
theorem Stage.voiced {d : Node} {S : List Topic} (stage : Stage d S) (every : ∀ t, t ∈ S)
    (tame : d.allStrays = []) (voiced : Voiced c d) : Voiced c (d.after S) := by
  obtain ⟨ss, form⟩ := Stage.program_form stage.program
  have other : d.form.isDeclare = false := by rw [form]; rfl
  exact voiced_after stage.program (.inl rfl) stage.good every other tame voiced

end Retype
