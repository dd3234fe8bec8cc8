import Retype.Proofs.Voice.Conversion
import Retype.Proofs.Voice.Hung

/-!
# Comments that are lost

A comment that hangs on a node of a tree of the source is kept, or it is *lost*: it stands in front of
a branch, on the declaration that an export holds, on the indexer of a type that becomes a mapped one,
or anywhere in a part that is dropped.
-/

namespace Retype

open Node (Parsed)
open Comments (isTarget isStatement)
open Retype.Convert

variable {c : String} {n m : Node}

namespace Node

/-- What an export holds. -/
def exported (n : Node) : List Node :=
  match n.form with
  | .stmt (.exportNamed decl ..) => decl.toList
  | .stmt (.exportDefault value) => [value]
  | .flow (.declareExport decl _) => [decl]
  | _ => []

/-- The nodes from below a node that it may show.  An interface has its members in the place of its
body, and a type operation has its operands. -/
def pieces (n : Node) : List Node :=
  match n.form with
  | .flow (.interface _ tps parents body _) => tps.toList ++ parents ++ membersOf body
  | .flow (.generic id targs) =>
    match utilityOf? id targs with
    | some _ => id :: argumentsOf targs
    | none => id :: targs.toList
  | _ => n.children

/-- A function, whether it is a statement or not. -/
def isFunction (n : Node) : Bool :=
  match n.form with
  | .expr (.function ..) => true
  | _ => false

end Node

/-- A comment of a tree that is not kept. -/
inductive Lost (c : String) : Node → Prop where
  /-- In front of a branch. -/
  | ahead {n m : Node} (branch : m ∈ n.branches) (own : c ∈ m.comments) : Lost c n
  /-- On what an export holds. -/
  | exported {n m : Node} (held : m ∈ n.exported) (own : m.Carries c) : Lost c n
  /-- On the indexer of a mapped type. -/
  | mapped {i : Info} {members : List Node} {exact : Bool} {m : Node} (mapped : isMapped members)
    (member : m ∈ members) (own : m.Carries c) : Lost c ⟨i, .flow (.object members exact)⟩
  /-- On a function inside an expression. -/
  | inline {n m : Node} (shown : m ∈ n.shown) (function : m.isFunction) (own : m.Carries c) : Lost c n
  /-- In a part that is dropped. -/
  | dropped {n m k : Node} (piece : m ∈ n.pieces) (hidden : m ∉ n.shown) (inside : k ∈ m.preorder)
    (own : k.Carries c) : Lost c n
  /-- Further down. -/
  | within {n m : Node} (shown : m ∈ n.shown) (inner : Lost c m) : Lost c n

/-! ## Roles -/

/-- The roles of nodes that take comments. -/
def Role.takesComments : Role → Bool
  | .stmt | .exported | .value | .classMember | .objectProp | .typeMember | .declared
  | .declaredDefault => true
  | _ => false

/-- A node that takes comments plays no other role, unless it is a function. -/
theorem roles_of_target (i : Info) (f : Form Node) :
    (!isTarget ⟨i, f⟩ || Node.isFunction ⟨i, f⟩ || f.roles.all Role.takesComments) = true := by
  cases f with
  | flow f => cases f <;> rfl
  | ts f => rfl
  | expr f => cases f <;> simp [Node.isFunction, isTarget, isStatement, Form.roles, ExprForm.roles,
      Role.takesComments]
  | stmt f => cases f <;> rfl
  | foreign kind ps => rfl

theorem takesComments_of_isTarget {r : Role} (role : r ∈ m.form.roles) (takes : isTarget m)
    (other : m.isFunction = false) : r.takesComments := by
  rcases m with ⟨i, f⟩
  have all := roles_of_target i f
  simp only [takes, other, Bool.not_true, Bool.or_self, Bool.false_or] at all
  exact List.all_eq_true.mp all r role

/-- Where a node that takes comments can stand. -/
theorem place_of_slot (formed : n.Formed Parsed) : ∀ s ∈ n.form.slots, s.1.takesComments →
    s.2 ∈ n.rows ∨ s.2 ∈ n.branches ∨ s.2 ∈ n.exported
      ∨ ∃ members exact, n.form = .flow (.object members exact) ∧ s.2 ∈ members := by
  rcases n with ⟨i, f⟩
  cases f with
  | flow f =>
    cases f with
    | prop key value optional variance method =>
      cases method <;> simp [Form.slots, FlowForm.slots, Role.takesComments]
    | _ =>
      simp only [Form.slots, FlowForm.slots, List.forall_mem_append, List.forall_mem_cons,
        Role.forall_mem_forAll, Role.forall_mem_for?]
      simp +contextual [Role.takesComments, Node.exported]
  | ts f => exact absurd rfl ((Node.formed_iff.mp formed).1.1 f)
  | expr f =>
    cases f with
    | prop key value shorthand =>
      cases shorthand <;> simp [Form.slots, ExprForm.slots, Role.takesComments]
    | _ =>
      simp only [Form.slots, ExprForm.slots, List.forall_mem_append, List.forall_mem_cons,
        Role.forall_mem_forAll, Role.forall_mem_for?]
      simp +contextual [Role.takesComments, Node.rows]
  | stmt f =>
    cases f with
    | cond =>
      simp only [Form.slots, StmtForm.slots, List.forall_mem_append, List.forall_mem_cons,
        Role.forall_mem_for?]
      simp +contextual [Role.takesComments, Node.branches]
    | _ =>
      simp only [Form.slots, StmtForm.slots, List.forall_mem_append, List.forall_mem_cons,
        Role.forall_mem_forAll, Role.forall_mem_for?]
      simp [Role.takesComments, Node.rows, Node.branches, Node.exported]
  | foreign kind ps => simp [Form.slots]

/-! ## Kept or lost -/

/-- A comment on a node that is shown is kept, or it is lost there. -/
theorem voiced_or_lost_here (formed : n.Formed Parsed) {s : Role × Node} (slot : s ∈ n.form.slots)
    (shown : s.2 ∈ n.shown) (takes : isTarget s.2) (own : s.2.Carries c) : Voiced c n ∨ Lost c n := by
  cases function : s.2.isFunction with
  | true => exact .inr (.inline shown function own)
  | false =>
    obtain ⟨-, -, slots⟩ := Node.formed_iff.mp formed
    have role := takesComments_of_isTarget (slots s slot).1 takes function
    rcases place_of_slot formed s slot role with row | branch | held | ⟨members, exact, form, member⟩
    · exact .inl (.row row own)
    · rcases own with leading | trailing
      · exact .inr (.ahead branch leading)
      · exact .inl (.branch branch trailing)
    · exact .inr (.exported held own)
    · rcases n with ⟨i, f⟩
      cases form
      cases mapped : isMapped members with
      | true => exact .inr (.mapped mapped member own)
      | false =>
        simp only [Node.shown, mapped, Bool.false_eq_true, if_false] at shown
        refine .inl (.row (m := s.2) ?_ own)
        have other : isSpread s.2 = false := by
          generalize s.2 = m at takes
          rcases m with ⟨j, g⟩
          cases g with
          | flow g => cases g <;> first | rfl | cases takes
          | _ => rfl
        simp only [Node.rows, mapped, Bool.false_eq_true, if_false, Node.fields]
        exact List.mem_filter.mpr ⟨shown, by simp [other]⟩

theorem children_object {i : Info} {members : List Node} {exact : Bool} :
    Node.children ⟨i, .flow (.object members exact)⟩ = members := by
  simp [Node.children, Form.children, Form.parts, FlowForm.parts]

theorem objectType_cases (plays : m.Plays Parsed .objectType) :
    ∃ i members exact, m = ⟨i, .flow (.object members exact)⟩ := by
  obtain ⟨i, f, rfl, role, -⟩ := Node.flow_of_typing plays rfl
  cases f with
  | object members exact => exact ⟨i, members, exact, rfl⟩
  | _ => simp [FlowForm.roles, Role.ofExpr] at role

theorem targs_cases (plays : m.Plays Parsed .targs) : ∃ i types, m = ⟨i, .flow (.targs types)⟩ := by
  obtain ⟨i, f, rfl, role, -⟩ := Node.flow_of_typing plays rfl
  cases f with
  | targs types => exact ⟨i, types, rfl⟩
  | _ => simp [FlowForm.roles, Role.ofExpr] at role

/-- No type takes comments. -/
theorem not_isTarget_of_type (role : .type ∈ m.form.roles) : isTarget m = false := by
  rcases m with ⟨i, f⟩
  cases f with
  | flow f => cases f <;> first | rfl | simp [Form.roles, FlowForm.roles] at role
  | expr f => cases f <;> simp [Form.roles, ExprForm.roles, Role.ofExpr] at role
  | stmt f => cases f <;> simp [Form.roles, StmtForm.roles] at role
  | _ => rfl

/-- A comment that hangs below a node of the source is kept or lost. -/
theorem voiced_or_lost {k : Node} (formed : n.Formed Parsed) (inside : k ∈ n.descendants)
    (takes : isTarget k) (own : k.Carries c) : Voiced c n ∨ Lost c n := by
  induction n using Node.descend with
  | step n ih =>
    obtain ⟨parsed, -, slots⟩ := Node.formed_iff.mp formed
    -- Below a piece, the comment is dropped with it or lies further down.
    have below {m : Node} (piece : m ∈ n.pieces) (lower : m ∈ n.descendants) (among : k ∈ m.preorder)
        (here : m ∈ n.shown → isTarget m → m.Carries c → Voiced c n ∨ Lost c n) :
        Voiced c n ∨ Lost c n := by
      by_cases shown : m ∈ n.shown
      · rcases Node.mem_preorder_iff.mp among with rfl | deeper
        · exact here shown takes own
        · refine (ih m lower ?_ deeper).imp (.within shown) (.within shown)
          exact formed.of_mem (Node.descendants_subset_preorder lower)
      · exact .inr (.dropped piece shown among own)
    obtain ⟨m, child, among⟩ := Node.mem_descendants_iff.mp inside
    have lower := Node.child_mem_descendants child
    have slot : ∃ s ∈ n.form.slots, s.2 = m := by
      rwa [Node.children, Form.children_eq_slots formed.fits.known, List.mem_map] at child
    have plain (piece : m ∈ n.pieces) : Voiced c n ∨ Lost c n := by
      obtain ⟨s, slot, rfl⟩ := slot
      exact below piece lower among fun shown => voiced_or_lost_here formed slot shown
    rcases n with ⟨i, f⟩
    cases f with
    | flow f =>
      cases f with
      | interface name tps parents body declare =>
        rcases slot with ⟨s, slot, rfl⟩
        have parts := slot
        simp only [Form.slots, FlowForm.slots, List.mem_append, List.mem_singleton] at parts
        rcases parts with (isTparams | isParent) | rfl
        · refine plain (List.mem_append_left _ (List.mem_append_left _ ?_))
          exact Role.for?_snd _ tps ▸ List.mem_map_of_mem isTparams
        · refine plain (List.mem_append_left _ (List.mem_append_right _ ?_))
          exact Role.forAll_snd _ parents ▸ List.mem_map_of_mem isParent
        · -- The members stand in the place of the body.
          have isBody := slots _ slot
          obtain ⟨j, members, exact, rfl⟩ := objectType_cases isBody
          rcases Node.mem_preorder_iff.mp among with rfl | deeper
          · cases takes
          obtain ⟨p, member, among⟩ := Node.mem_descendants_iff.mp deeper
          have nested := Node.descendants_trans (Node.descendants_subset_preorder
            (Node.child_mem_descendants member)) lower
          rw [children_object] at member
          refine below (List.mem_append_right _ member) nested among fun shown takes own => ?_
          rcases List.mem_append.mp shown with outside | field
          · rcases List.mem_append.mp outside with isTparams | isParent
            · have slot : (Role.tparams, p) ∈ Role.tparams.for? tps := List.mem_map_of_mem isTparams
              exact voiced_or_lost_here (s := (.tparams, p)) formed
                (List.mem_append_left _ (List.mem_append_left _ slot)) shown takes own
            · have slot : (Role.heritage, p) ∈ Role.heritage.forAll parents := List.mem_map_of_mem isParent
              exact voiced_or_lost_here (s := (.heritage, p)) formed
                (List.mem_append_left _ (List.mem_append_right _ slot)) shown takes own
          · exact .inl (.row field own)
      | generic id targs =>
        rcases slot with ⟨s, slot, rfl⟩
        have parts := slot
        simp only [Form.slots, FlowForm.slots, List.mem_cons] at parts
        cases utility : utilityOf? id targs with
        | none =>
          refine plain ?_
          simp only [Node.pieces, utility]
          rcases parts with rfl | isTargs
          · exact List.mem_cons_self
          · exact List.mem_cons_of_mem _ (Role.for?_snd _ targs ▸ List.mem_map_of_mem isTargs)
        | some u =>
          rcases parts with rfl | isTargs
          · refine plain ?_
            simp only [Node.pieces, utility]
            exact List.mem_cons_self
          · -- The operands stand in the place of the list of arguments.
            obtain ⟨t, found, rfl⟩ := List.mem_map.mp isTargs
            obtain rfl := Option.mem_toList.mp found
            obtain ⟨j, types, rfl⟩ := targs_cases (slots _ slot)
            rcases Node.mem_preorder_iff.mp among with rfl | deeper
            · cases takes
            obtain ⟨p, member, among⟩ := Node.mem_descendants_iff.mp deeper
            have nested := Node.descendants_trans (Node.descendants_subset_preorder
              (Node.child_mem_descendants member)) lower
            rw [children_targs] at member
            refine below ?_ nested among fun _ takes => ?_
            · simp only [Node.pieces, utility]
              exact List.mem_cons_of_mem _ member
            · have inner := Node.formed_iff.mp (slots _ slot).2
              have isType := inner.2.2 (.type, p) (List.mem_map_of_mem member)
              rw [not_isTarget_of_type isType.1] at takes
              cases takes
      | _ => exact plain child
    | ts f => exact absurd rfl (parsed.1 f)
    | expr f => exact plain child
    | stmt f => exact plain child
    | foreign kind ps => exact absurd rfl (formed.fits.known kind ps)

end Retype
