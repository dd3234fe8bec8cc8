import Retype.Proofs.Convert.Argument
import Retype.Proofs.Convert.Flat
import Retype.Proofs.Convert.Type
import Retype.Proofs.Parse.Grid
import Retype.Proofs.Pass.Order
import Retype.Proofs.Pass.Stray
import Retype.Proofs.Printer.Statement

/-!
# Conversion of types is total and closed

Every type that the grammar can build converts.  What it converts to is made of TypeScript types
and of names alone, has no union in a union, is its own conversion, and can be printed.  So no
stage of the passes finds a type argument that it would have to drop.
-/

namespace Retype

open Node (Converted Parsed)

variable {α : Type}

/-- The layers of the TypeScript dialect that a type is made of: types, their members and
parameters, and names. -/
def Form.isTypeTarget : Form α → Bool
  | .ts (.heritage ..) | .ts (.cast ..) | .ts (.typeAlias ..) | .ts (.interface ..)
  | .ts (.declareVar ..) | .ts (.declareFunction ..) | .ts (.declareClass ..) => false
  | .ts _ | .expr (.ident _) => true
  | _ => false

/-- The parts of a type are types, or parts of types, or names. -/
theorem TsForm.isInType_of_slots {f : TsForm α} {r : Role} (role : r ∈ f.roles)
    (inType : r.isInType) : ∀ s ∈ f.slots, s.1.isInType := by
  cases f with
  | heritage | cast | typeAlias | interface | declareVar | declareFunction | declareClass =>
    simp only [TsForm.roles, Role.ofExpr, List.mem_cons, List.not_mem_nil, or_false] at role
    rcases role with rfl | rfl | rfl | rfl <;> cases inType
  | _ =>
    simp only [TsForm.slots, List.forall_mem_append, List.forall_mem_cons,
      Role.forall_mem_forAll, Role.forall_mem_for?]
    simp [Role.isInType, Role.isTyping]

theorem Form.isTypeTarget_of_role {f : TsForm α} {r : Role} (role : r ∈ f.roles)
    (inType : r.isInType) : (Form.ts f).isTypeTarget := by
  cases f with
  | heritage | cast | typeAlias | interface | declareVar | declareFunction | declareClass =>
    simp only [TsForm.roles, Role.ofExpr, List.mem_cons, List.not_mem_nil, or_false] at role
    rcases role with rfl | rfl | rfl | rfl <;> cases inType
  | _ => rfl

namespace Convert

/-- The layers of a converted type, and of its parts. -/
theorem isTypeTarget_of_converted {u : Node} {r : Role} (plays : u.Plays Converted r)
    (inType : r.isInType) : ∀ m ∈ u.preorder, m.form.isTypeTarget := by
  induction u using Node.childInduction generalizing r with
  | step u ih =>
    obtain ⟨role, formed⟩ := plays
    obtain ⟨converted, -, slots⟩ := Node.formed_iff.mp formed
    refine Node.forall_mem_preorder_iff.mpr ?_
    rcases u with ⟨i, form⟩
    rcases converted with ⟨f, rfl⟩ | ⟨name, rfl⟩ | ⟨object, name, rfl⟩
    · refine ⟨Form.isTypeTarget_of_role role inType, fun c child => ?_⟩
      rw [Node.children, Form.children_eq_slots (by simp)] at child
      obtain ⟨s, slot, rfl⟩ := List.mem_map.mp child
      exact ih s.2 (Node.mem_children_of_slot slot) (slots s slot)
        (TsForm.isInType_of_slots role inType s slot)
    · exact ⟨rfl, by simp [Node.children, Form.children, Form.parts, ExprForm.parts]⟩
    · -- the member expressions of names stand for values and not for types
      simp only [Form.roles, ExprForm.roles, Role.ofExpr, List.mem_cons, List.not_mem_nil,
        or_false] at role
      rcases role with rfl | rfl | rfl | rfl <;> cases inType

/-- A converted type can be printed. -/
theorem prints_of_converted {u : Node} (plays : u.Plays Converted .type) (ind : String) :
    ∃ text, Printer.ty ind u = .ok text := by
  have ready : u.Ready := fun m exposed =>
    ⟨(plays.2 m exposed.mem_preorder).1, (plays.2 m exposed.mem_preorder).2.not_flow⟩
  have prints : Prints u.allStrays (Printer.ty ind u) :=
    strayRow_singleton u ▸ (ready.writesAs (c := "") plays.1 ind).prints
  rw [Node.IsTyping.allStrays (Node.isTyping_of_converted plays.2)] at prints
  exact prints.ok_of_nil

/-- A type is converted to another, and the other is all that a TypeScript type should be. -/
structure ConvertsTo (n u : Node) : Prop where
  /-- The conversion succeeds. -/
  result : (convertType id n).result = .ok u
  /-- Its value is made of TypeScript types and names. -/
  target : ∀ m ∈ u.preorder, m.form.isTypeTarget
  /-- No union is in a union. -/
  flat : u.Flat
  /-- Nothing is left to convert, and nothing to warn of. -/
  fixed : convertType id u = pure u
  /-- Its value can be printed. -/
  prints : ∀ ind, ∃ text, Printer.ty ind u = .ok text

/-- A type of the source is converted, and to nothing else. -/
theorem convertsTo_of_plays {n : Node} (plays : n.Plays Parsed .type) :
    ∃ u, ConvertsTo n u ∧ ∀ v, (convertType id n).result = .ok v → v = u := by
  obtain ⟨u, ⟨converted, -⟩, yields⟩ := type_yields plays
  have result : (convertType id n).result = .ok u := n.after_nil ▸ yields id [] fixes_id
  refine ⟨u, ⟨result, isTypeTarget_of_converted converted rfl,
    (Node.flat_of_parsed plays.2).turnsFlat u result, ?_, prints_of_converted converted⟩,
    fun v other => Except.ok.inj (other.symm.trans result)⟩
  rcases u with ⟨i, f⟩
  rcases Form.dialect_of_type converted.1 with ⟨g, rfl⟩ | ⟨g, rfl⟩
  · exact absurd rfl (converted.2.extra.not_flow g)
  · rw [convertType]
    rfl

section Arguments

variable {types us : List Node}

theorem convertsTo_of_convertTypes (fits : ∀ t ∈ types, t.Plays Parsed .type)
    (result : (convertTypes id types).result = .ok us) : List.Forall₂ ConvertsTo types us := by
  induction types generalizing us with
  | nil =>
    cases result
    exact .nil
  | cons t ts ih =>
    obtain ⟨first, rest⟩ := List.forall_mem_cons.mp fits
    obtain ⟨u, converts, only⟩ := convertsTo_of_plays first
    rw [convertTypes] at result
    obtain ⟨v, found, result⟩ := Outcome.ok_of_bind result
    obtain ⟨vs, others, rfl⟩ := Outcome.ok_of_map result
    exact .cons (only v found ▸ converts) (ih rest others)

/-- If each type can be converted, then only the types themselves are warned of. -/
theorem warnings_convertEach (each : ∀ t ∈ types, ∃ u, (convertType id t).result = .ok u) :
    (convertEach id types).warnings = types.flatMap fun t => (convertType id t).warnings := by
  rw [convertEach_eq_convertible]
  refine List.flatMap_congr fun t member => ?_
  obtain ⟨u, found⟩ := each t member
  exact Outcome.attemptWarnings_of_ok found _ _

end Arguments

/-- Type arguments of the source are all converted, at every stage of the passes. -/
theorem convertsTo_of_targs {n : Node} (plays : n.Plays Parsed .targs) {types : List Node}
    (form : n.form = .flow (.targs types)) :
    ∃ us, List.Forall₂ ConvertsTo types us
      ∧ (convertTargs id (some n)).warnings = (types.flatMap fun t => (convertType id t).warnings)
      ∧ ∀ keep S, Fixes keep →
        (convertTargs keep (some (n.after S))).result = .ok (some (.ts n.pos (.targs us))) := by
  obtain ⟨same, us, sameForm, -, -, -, yields⟩ := targs_yield plays (typesYieldBelow n)
  rw [form] at sameForm
  cases sameForm
  have fits : ∀ t ∈ types, t.Plays Parsed .type := by
    obtain ⟨-, -, slots⟩ := Node.formed_iff.mp plays.2
    rw [form] at slots
    exact Role.forall_mem_forAll.mp slots
  refine ⟨us, convertsTo_of_convertTypes fits ?_, ?_, fun keep S fixes => (yields keep S fixes).1⟩
  · have all := (yields id [] fixes_id).2 false
    rw [Node.after_nil] at all
    rcases n with ⟨i, f⟩
    cases form
    exact all
  · rcases n with ⟨i, f⟩
    cases form
    rw [convertTargs, ← warnings_convertEach fun t member => converts_of_plays (fits t member)]
    cases found : (convertEach id types).result with
    | error e => rw [Outcome.bind_of_error found]
    | ok vs =>
      rw [Outcome.bind_of_ok found]
      simp

/-- Conversion of types is total and closed.  Every type that the grammar derives is converted, and
so is every type of a parsed source.  Type arguments of a parsed source are converted one by one,
and none is dropped, whatever passes have gone before. -/
theorem convertType_total_closed :
    (∀ d : Grammar.Derivation Grammar.rules (.n .type), ∃ u, ConvertsTo d.eval u)
      ∧ ∀ (src : Source) (tree : Node), src.parse = .ok tree →
        (∀ t ∈ tree.preorder, .type ∈ t.form.roles → ∃ u, ConvertsTo t u)
        ∧ ∀ t ∈ tree.preorder, ∀ types, t.form = .flow (.targs types) →
          ∃ us, List.Forall₂ ConvertsTo types us
            ∧ (convertTargs id (some t)).warnings
              = (types.flatMap fun a => (convertType id a).warnings)
            ∧ ∀ keep S, Fixes keep →
              (convertTargs keep (some (t.after S))).result = .ok (some (.ts t.pos (.targs us))) := by
  have exists_of_plays {n : Node} (plays : n.Plays Parsed .type) : ∃ u, ConvertsTo n u := by
    obtain ⟨u, converts, -⟩ := convertsTo_of_plays plays
    exact ⟨u, converts⟩
  refine ⟨fun d => ?_, fun src tree parsed => ⟨fun t member isType => ?_, fun t member types form => ?_⟩⟩
  · have fresh : Node.Plays Node.Fresh .type d.eval := Grammar.eval_good d
    exact exists_of_plays (fresh.mono fun _ _ plain => ⟨plain.1, fun _ => plain.2⟩)
  · exact exists_of_plays ⟨isType, (Source.parse_plays parsed).2.of_mem member⟩
  · exact convertsTo_of_targs ⟨by simp [form, Form.roles, FlowForm.roles],
      (Source.parse_plays parsed).2.of_mem member⟩ form

/-- Whether a node is a list of two type arguments. -/
def isPairOfTypes (t : Node) : Bool :=
  match t.form with
  | .flow (.targs [_, _]) => true
  | _ => false

theorem convertType_total_closed_nested : ∃ tree t first second,
    Source.parse { text := "type A = Map<?$Exact<?string>, typeof (B | C)>;" } = .ok tree
      ∧ t ∈ tree.preorder ∧ t.form = .flow (.targs [first, second])
      ∧ ∃ us, List.Forall₂ ConvertsTo [first, second] us
        ∧ (convertTargs id (some t)).warnings
          = ([first, second].flatMap fun a => (convertType id a).warnings)
        ∧ ∀ keep S, Fixes keep →
          (convertTargs keep (some (t.after S))).result = .ok (some (.ts t.pos (.targs us))) := by
  have found : ((Source.parse { text := "type A = Map<?$Exact<?string>, typeof (B | C)>;" }).toOption.bind
      fun tree => tree.preorder.find? isPairOfTypes).isSome := by
    rw [Source.parse_eq_parseByGrids]
    decide +kernel
  obtain ⟨t, found⟩ := Option.isSome_iff_exists.mp found
  obtain ⟨tree, parsed, found⟩ := Option.bind_eq_some_iff.mp found
  have pair := List.find?_some found
  unfold isPairOfTypes at pair
  split at pair
  next first second form =>
    have member := List.mem_of_find?_eq_some found
    exact ⟨tree, t, first, second, ok_of_toOption parsed, member, form,
      (convertType_total_closed.2 _ tree (ok_of_toOption parsed)).2 t member _ form⟩
  next => cases pair

end Convert

end Retype
