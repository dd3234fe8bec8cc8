import Retype.Proofs.Pass.Turn

/-!
# What becomes of declarations

A declaration that stands in a program or a block is replaced, alone or inside an export.
All its parts are types, so what replaces it is converted, up to the type arguments of a
superclass, which are kept.  Every other statement is kept.

An export of something that is no declaration cannot be replaced.  `badStatement?` is the
first of these among the statements of a program or block.
-/

namespace Retype

open Node (Converted Parsed)
open Retype.Convert
open Passes (isDeclaration isVariable declaredName replacement replacements)
open Outcome (fail warn warnIf ofExcept)

variable {α β : Type}

/-! ## Kept statements -/

theorem Form.isDeclare_map (k : α → β) (f : Form α) : (f.map k).isDeclare = f.isDeclare := by
  cases f with
  | flow f => cases f <;> rfl
  | _ => rfl

theorem kept_of_isDeclare {s : Node} (other : s.form.isDeclare = false) : s.Kept := by
  intro keep
  rcases s with ⟨i, f⟩
  cases f with
  | flow f => cases f <;> first | rfl | cases other
  | _ => rfl

theorem isDeclare_of_shared {w : Node} (shared : (∃ f, w.form = .ts f) ∨ ∃ f, w.form = .stmt f) :
    w.form.isDeclare = false := by
  rcases shared with ⟨f, form⟩ | ⟨f, form⟩ <;> rw [form] <;> rfl

theorem isDeclare_layer (S : List Topic) (w : Node) :
    (w.layer S).form.isDeclare = w.form.isDeclare := Form.isDeclare_map _ w.form

/-! ## Converted declarations -/

/-- A declaration turns into the layer that it converts to. -/
structure DeclarationTurns (d : Node) (h : TsForm Node) : Prop extends Declares d h where
  fits : (Node.ts d.pos h).Fits
  parts : ∀ c ∈ (Node.ts d.pos h).children, Mix d.Holds c
  convert : ∀ keep S U, Carries keep S U d →
    (convertDeclaration keep (d.after S)).result = .ok ((Node.ts d.pos h).layer U)

section Declarations

variable {i : Info} {name : String}

/-- A declaration that converts to a converted tree. -/
theorem declarationTurns_of_converted {d : Node} {h : TsForm Node} (declares : isDeclaration d)
    (before : d.IsTyping) (formed : (Node.ts d.pos h).Formed Converted)
    (roles : h.roles = [.stmt, .exported]) (name : declaredName (.ts d.pos h) = d.declared)
    (convert : ∀ keep S, Fixes keep →
      (convertDeclaration keep (d.after S)).result = .ok (.ts d.pos h)) :
    DeclarationTurns d h where
  declares := declares
  before := before
  typed := by
    intro i
    have role : .stmt ∈ h.roles := roles ▸ List.mem_cons_self
    have moved : (⟨i, .ts h⟩ : Node).Plays Converted .stmt :=
      plays_of_form (n := .ts d.pos h) ⟨role, formed⟩ rfl
    exact Node.typed_of_converted moved.2
  fits := formed.fits
  roles := roles
  name := name
  parts := fun c child => .converted (formed.of_child child)
  convert := by
    intro keep S U carries
    rw [layer_of_converted formed]
    exact convert keep S carries.fixes

theorem annot?_yields {annot : Option Node} (fits : ∀ a, annot = some a → a.Plays Parsed .annot) :
    Yields (fun keep S => convertType? keep (annot.map (Node.after S)))
      fun u => ∀ a, u = some a → a.Plays Converted .annot := by
  cases annot with
  | none => exact ⟨none, by simp, fun _ _ _ => rfl⟩
  | some a =>
    obtain ⟨t, u, -, -, -, -, settles, results⟩ := annot_yields (fits a rfl) (typesYieldBelow a)
    refine ⟨some (.ts a.pos (.annot u)), ?_, fun keep S fixes => ?_⟩
    · rintro _ ⟨⟩
      exact settles.plays
    · dsimp only
      rw [Option.map_some, convertType?, Outcome.bind_of_ok (results keep S fixes).1]
      rfl

theorem declareVar_turns {kind : VarKind} {annot : Option Node}
    (slots : ∀ s ∈ (FlowForm.declareVar kind name annot).slots, s.2.Plays Parsed s.1) :
    ∃ h, DeclarationTurns ⟨i, .flow (.declareVar kind name annot)⟩ h := by
  have types := Node.isTyping_flow (i := i) rfl slots
  simp only [FlowForm.slots, Role.forall_mem_for?] at slots
  obtain ⟨u, isAnnot, result⟩ := annot?_yields slots
  refine ⟨.declareVar kind name u, declarationTurns_of_converted rfl types ?_ rfl rfl
    fun keep S fixes => ?_⟩
  · refine Node.formed_iff.mpr ⟨.inl ⟨_, rfl⟩, trivial, ?_⟩
    simp only [Node.ts, Node.plain, Form.slots, TsForm.slots, Role.forall_mem_for?]
    exact isAnnot
  · have same : Node.after S ⟨i, .flow (.declareVar kind name annot)⟩
        = ⟨i, .flow (.declareVar kind name (annot.map (Node.after S)))⟩ := by
      rw [Node.after_of_topic_none rfl]
      simp [Node.layer, Node.withForm, FlowForm.map, FlowForm.mapM]
    rw [same]
    change (convertType? keep _ >>= _).result = _
    rw [Outcome.bind_of_ok (result keep S fixes)]
    rfl

/-- A converted function type gives a declared function. -/
theorem declaredFunction_spec {u : Node} (plays : u.Plays Converted .type)
    (function : isFunctionType u) (pos : Int) (name : String) :
    ∃ h : TsForm Node, (Node.ts pos h).Formed Converted ∧ h.roles = [.stmt, .exported]
      ∧ declaredName (.ts pos h) = name ∧ (declaredFunction pos name u).result = .ok (.ts pos h) := by
  obtain ⟨converted, -, slots⟩ := Node.formed_iff.mp plays.2
  rcases u with ⟨j, f⟩
  cases f with
  | ts f =>
    cases f with
    | function tparams params rest ret =>
      exact ⟨.declareFunction name tparams params rest ret,
        Node.formed_iff.mpr ⟨.inl ⟨_, rfl⟩, trivial, slots⟩, rfl, rfl, rfl⟩
    | _ => cases function
  | flow f => simp [Converted] at converted
  | _ => cases function

theorem convertFunction_converted {keep : Node → Node} (fixes : Fixes keep) {u : Node}
    (plays : u.Plays Converted .type) (function : isFunctionType u) :
    (convertFunction keep u).result = .ok u := by
  rcases u with ⟨j, f⟩
  cases f with
  | ts f =>
    rw [convertFunction]
    exact congrArg Except.ok (fixes _ plays.2)
  | flow f => simpa [Converted] using plays.2.extra
  | _ => cases function

theorem declareFunction_turns {annot : Option Node}
    (slots : ∀ s ∈ (FlowForm.declareFunction name annot).slots, s.2.Plays Parsed s.1)
    (sound : (FlowForm.declareFunction name annot).Sound) :
    ∃ h, DeclarationTurns ⟨i, .flow (.declareFunction name annot)⟩ h := by
  have types := Node.isTyping_flow (i := i) rfl slots
  simp only [FlowForm.slots, Role.forall_mem_for?] at slots
  obtain ⟨t, found, function⟩ := sound
  cases annot with
  | none => cases found
  | some a =>
    obtain ⟨type, u, form, isType, converted, functions, settles, results⟩ :=
      annot_yields (slots a rfl) (typesYieldBelow a)
    have same : type = t := by
      rw [Option.bind_some, annotatedType?, form] at found
      exact Option.some.inj found
    subst same
    obtain ⟨h, formed, roles, sameName, declared⟩ :=
      declaredFunction_spec converted (functions function) i.pos name
    refine ⟨h, declarationTurns_of_converted rfl types formed roles sameName fun keep S fixes => ?_⟩
    have shown : ∃ fn, annotatedType? (a.after S) = some fn ∧ isFunctionType fn
        ∧ (convertFunction keep fn).result = .ok u := by
      refine settles.of_both (P := fun m => ∃ fn, annotatedType? m = some fn ∧ isFunctionType fn
        ∧ (convertFunction keep fn).result = .ok u) S ?_
        ⟨u, rfl, functions function, convertFunction_converted fixes converted (functions function)⟩
      have shown : annotatedType? (a.layer S) = some (type.after S) := by
        rcases a with ⟨j, f⟩
        cases form
        rfl
      obtain ⟨-, -, stays, same⟩ :=
        isFunctionType_of_fnType (fnType_of_isFunctionType isType function)
      exact ⟨type.after S, shown, stays S, by rw [same]; exact (results keep S fixes).2⟩
    obtain ⟨fn, found, isFunction, converts⟩ := shown
    have same : Node.after S ⟨i, .flow (.declareFunction name (some a))⟩
        = ⟨i, .flow (.declareFunction name (some (a.after S)))⟩ := Node.after_of_topic_none rfl
    rw [same]
    simp only [convertDeclaration, Option.bind_some, found, if_pos isFunction]
    rw [Outcome.bind_of_ok converts]
    exact declared

theorem map_after_of_converted {o : Option Node} {S : List Topic}
    (converted : ∀ c, o = some c → c.Formed Converted) : o.map (Node.after S) = o := by
  cases o with
  | none => rfl
  | some c => exact congrArg some (Node.after_of_converted (converted c rfl))

/-- The superclass of a declared class in value position.  Its type arguments are kept. -/
theorem firstSupertype_spec {parents : List Node}
    (fits : ∀ p ∈ parents, p.Plays Parsed .heritage) :
    ∃ parent targs : Option Node, (∀ p, parent = some p → p.Plays Converted .expr)
      ∧ (∀ t, targs = some t → t.Plays Parsed .targs ∧ ∃ p ∈ parents, t ∈ p.children
        ∧ ∀ S, t.after S ∈ (p.after S).children)
      ∧ (parent = none → targs = none)
      ∧ ∀ keep S, (firstSupertype keep (parents.map (Node.after S))).result
        = .ok (parent, (targs.map (Node.after S)).map keep) := by
  cases parents with
  | nil => exact ⟨none, none, by simp, by simp, fun _ => rfl, fun _ _ => rfl⟩
  | cons p ps =>
    obtain ⟨id, targs, entity, member, spec⟩ := supertype_spec (fits p List.mem_cons_self)
    refine ⟨some member, targs, ?_, ?_, by simp, fun keep S => ?_⟩
    · rintro _ ⟨⟩
      exact spec.isMember
    · rintro t rfl
      refine ⟨spec.isTargs t rfl, p, List.mem_cons_self, ?_, spec.holds t rfl⟩
      rw [Node.children, spec.form]
      simp [Form.children, Form.parts, FlowForm.parts]
    · obtain ⟨found, parts, -, isMember⟩ := spec.parts S
      rw [List.map_cons, firstSupertype, parts]
      dsimp only
      rw [isMember]
      rfl

theorem declareClass_turns {tparams : Option Node} {parents : List Node} {body : Node}
    (slots : ∀ s ∈ (FlowForm.declareClass name tparams parents body).slots, s.2.Plays Parsed s.1) :
    ∃ h, DeclarationTurns ⟨i, .flow (.declareClass name tparams parents body)⟩ h := by
  have types := Node.isTyping_flow (i := i) rfl slots
  simp only [FlowForm.slots, List.forall_mem_append, Role.forall_mem_for?, Role.forall_mem_forAll,
    List.forall_mem_singleton] at slots
  obtain ⟨⟨areTparams, areParents⟩, -⟩ := slots
  obtain ⟨tps, areTps, tparamsResult⟩ := tparams?_yield areTparams fun t _ => typesYieldBelow t
  obtain ⟨parent, targs, isParent, areTargs, alone, firstResult⟩ := firstSupertype_spec areParents
  have held : ∀ t, targs = some t →
      (⟨i, .flow (.declareClass name tparams parents body)⟩ : Node).Holds t := by
    intro t found
    obtain ⟨-, p, member, child, stays⟩ := areTargs t found
    have parent : p ∈ (⟨i, .flow (.declareClass name tparams parents body)⟩ : Node).children := by
      simp [Node.children, Form.children, Form.parts, FlowForm.parts, member]
    refine ⟨Node.mem_descendants_iff.mpr ⟨p, parent, Node.descendants_subset_preorder
      (Node.child_mem_descendants child)⟩, fun S => ?_⟩
    exact Node.descendants_trans (Node.descendants_subset_preorder
      (Node.child_mem_descendants (stays S))) ((Node.holds_of_child parent).stays S)
  have new : ∀ j U, Node.layer U ⟨j, .ts (.declareClass name tps parent targs)⟩
      = ⟨j, .ts (.declareClass name tps parent (targs.map (Node.after U)))⟩ := by
    intro j U
    simp [Node.layer, Node.withForm, TsForm.map, TsForm.mapM,
      map_after_of_converted fun t found => (areTps t found).2,
      map_after_of_converted fun p found => (isParent p found).2]
  refine ⟨.declareClass name tps parent targs, ⟨rfl, types, ?_, rfl, rfl⟩, ⟨?_, alone⟩, ?_, ?_⟩
  · intro j
    refine typed_of_slots ?_
    simp only [TsForm.slots, List.forall_mem_append, Role.forall_mem_for?]
    exact ⟨⟨fun t found => Node.typed_of_converted (areTps t found).2,
      fun p found => Node.typed_of_converted (isParent p found).2⟩,
      fun t found => typed_targs (areTargs t found).1⟩
  · simp only [Node.ts, Node.plain, Form.slots, TsForm.slots, List.forall_mem_append,
      Role.forall_mem_for?]
    exact ⟨⟨fun t found => (areTps t found).1, fun p found => (isParent p found).1⟩,
      fun t found => (areTargs t found).1.1⟩
  · intro c child
    simp only [Node.ts, Node.plain, Node.children, Form.children, Form.parts, TsForm.parts,
      List.flatMap_cons, Part.nodes_text, Part.nodes_ofChild?, List.flatMap_nil, List.append_nil,
      List.nil_append, List.mem_append, Option.mem_toList] at child
    rcases child with inTparams | inParent | inTargs
    · exact .converted (areTps c inTparams).2
    · exact .converted (isParent c inParent).2
    · exact .source (held c inTargs)
  · intro keep S U carries
    have same : Node.after S ⟨i, .flow (.declareClass name tparams parents body)⟩
        = ⟨i, .flow (.declareClass name (tparams.map (Node.after S)) (parents.map (Node.after S))
          (body.after S))⟩ := by
      rw [Node.after_of_topic_none rfl]
      simp [Node.layer, Node.withForm, FlowForm.map, FlowForm.mapM]
    have carried : (targs.map (Node.after S)).map keep = targs.map (Node.after U) := by
      cases targs with
      | none => rfl
      | some t => exact congrArg some (carries.held t (held t rfl))
    have rest : ∀ (members : Bool) (at_ : Int), (do
        warnIf members (.classMembers name) at_
        let parent ← firstSupertype keep (parents.map (Node.after S))
        return Node.ts i.pos (.declareClass name (← convertTparams keep (tparams.map (Node.after S)))
          parent.1 parent.2) : Outcome Node).result
        = .ok (Node.layer U (.ts i.pos (.declareClass name tps parent targs))) := by
      intro members at_
      rw [Outcome.bind_of_ok (warnIf_result ..), Outcome.bind_of_ok (firstResult keep S)]
      dsimp only
      rw [Outcome.bind_of_ok (tparamsResult keep S carries.fixes), carried]
      exact congrArg Except.ok (new _ U).symm
    rw [same, convertDeclaration]
    dsimp only
    split
    · rw [Outcome.bind_of_ok (show (warn _ _).result = .ok () from rfl)]
      exact rest ..
    · exact rest ..

end Declarations

theorem declaration_turns {d : Node} (formed : d.Formed Parsed) (declares : isDeclaration d) :
    ∃ h, DeclarationTurns d h := by
  obtain ⟨-, sound, slots⟩ := Node.formed_iff.mp formed
  rcases d with ⟨i, f⟩
  cases f with
  | flow f =>
    cases f with
    | declareVar kind name annot => exact declareVar_turns slots
    | declareFunction name annot => exact declareFunction_turns slots sound
    | declareClass name tparams parents body => exact declareClass_turns slots
    | _ => cases declares
  | _ => cases declares

/-! ## Statements -/

/-- Why a statement of a program or block cannot be converted. -/
def Node.badExport? (s : Node) : Option Failure :=
  match s.form with
  | .flow (.declareExport decl isDefault) =>
    if !isDeclaration decl || (isDefault && isVariable decl) then
      some (.unsupportedExport decl.kind decl.pos)
    else none
  | _ => none

/-- The first statement of a program or block that cannot be converted. -/
def Node.badStatement? (n : Node) : Option Failure :=
  match n.form with
  | .stmt (.program ss) | .stmt (.block ss) => ss.findSome? badExport?
  | _ => none

/-- A statement keeps itself, or what it holds if no topic is about it. -/
def Node.Keeps (s c : Node) : Prop := c = s ∨ (s.form.topic? = none ∧ s.Holds c)

/-- What takes the place of a statement. -/
structure StatementTurns (s : Node) (news : List Node) : Prop where
  kept : ∀ w ∈ news, ∀ S, (w.after S).Kept
  parts : ∀ w ∈ news, Mix s.Keeps w
  roles : ∀ w ∈ news, .stmt ∈ w.form.roles
  shape : Replaces s news
  replace : ∀ keep S U, Fixes keep → (∀ c, s.Keeps c → keep (c.after S) = c.after U) →
    (replacement keep (s.after S)).result = .ok (news.map (Node.after U))

/-- A converted declaration in the place of a statement. -/
theorem declaration_made {d : Node} {h : TsForm Node} (turns : DeclarationTurns d h) (i : Info) :
    (∀ S, (Node.after S ⟨i, .ts h⟩).Kept) ∧ Mix d.Holds ⟨i, .ts h⟩ := by
  constructor
  · intro S
    rw [spent_ts.after]
    exact kept_of_isDeclare rfl
  · exact .made spent_ts ⟨turns.fits.plays, turns.fits.sound⟩ (.inl ⟨h, rfl⟩) turns.parts

theorem Mix.mono {D E : Node → Prop} {w : Node} (mix : Mix D w) (weaker : ∀ c, D c → E c) :
    Mix E w := by
  induction mix with
  | converted formed => exact .converted formed
  | source member => exact .source (weaker _ member)
  | made spent fits shared _ ih => exact .made spent fits shared ih

theorem after_declaration {d : Node} (declares : isDeclaration d) (S : List Topic) :
    d.form.topic? = none ∧ isDeclaration (d.after S) = true
      ∧ isVariable (d.after S) = isVariable d := by
  rcases d with ⟨i, f⟩
  cases f with
  | flow f =>
    cases f with
    | declareVar | declareFunction | declareClass =>
      rw [Node.after_of_topic_none rfl]
      exact ⟨rfl, rfl, rfl⟩
    | _ => cases declares
  | _ => cases declares

/-- A declaration is replaced by its conversion. -/
theorem statement_of_declaration {s : Node} (formed : s.Formed Parsed) (declares : isDeclaration s) :
    ∃ news, StatementTurns s news := by
  obtain ⟨h, turns⟩ := declaration_turns formed declares
  obtain ⟨kept, mix⟩ := declaration_made turns s.info
  refine ⟨[⟨s.info, .ts h⟩], ?_, ?_, ?_, .declaration turns.toDeclares, ?_⟩
  · simpa using kept
  · simpa using mix.mono fun c held => .inr ⟨(after_declaration declares []).1, held⟩
  · simp [Form.roles, turns.roles]
  · intro keep S U fixes carried
    obtain ⟨other, still, -⟩ := after_declaration declares S
    have converts := turns.convert keep S U ⟨fixes, fun c held => carried c (.inr ⟨other, held⟩)⟩
    have new : (s.after S).become (Node.layer U (.ts s.pos h)) = Node.after U ⟨s.info, .ts h⟩ := by
      rw [Node.after_of_topic_none other, spent_ts.after]
      exact become_plain ..
    rw [replacement, if_pos still, Outcome.bind_of_ok converts, new]
    rfl

theorem layer_declareExport {i : Info} {decl : Node} {isDefault : Bool} (S : List Topic) :
    Node.after S ⟨i, .flow (.declareExport decl isDefault)⟩
      = ⟨i, .flow (.declareExport (decl.after S) isDefault)⟩ := Node.after_of_topic_none rfl

section Exports

variable {i : Info} {decl : Node} {isDefault : Bool} {h : TsForm Node}

theorem keeps_export (declares : isDeclaration decl) {c : Node} (held : decl.Holds c) :
    (⟨i, .flow (.declareExport decl isDefault)⟩ : Node).Keeps c :=
  .inr ⟨rfl, Node.holds_trans (by simp [Node.children, Form.children, Form.parts, FlowForm.parts])
    (after_declaration declares []).1 held⟩

/-- An export of a declaration converts the declaration first. -/
theorem replacement_export (declares : isDeclaration decl)
    (exportable : (isDefault && isVariable decl) = false) (turns : DeclarationTurns decl h)
    {keep : Node → Node} {S U : List Topic} (fixes : Fixes keep)
    (carried : ∀ c, (⟨i, .flow (.declareExport decl isDefault)⟩ : Node).Keeps c →
      keep (c.after S) = c.after U) :
    (replacement keep (Node.after S ⟨i, .flow (.declareExport decl isDefault)⟩)).result = .ok
      (if isDefault then Passes.defaultExport ⟨i, .flow (.declareExport (decl.after S) isDefault)⟩
          (Node.layer U (.ts decl.pos h))
        else [Node.withForm ⟨i, .flow (.declareExport (decl.after S) isDefault)⟩
          (.stmt (.exportNamed (some (Node.layer U (.ts decl.pos h))) [] none none))]) := by
  obtain ⟨-, still, sameVariable⟩ := after_declaration declares S
  have converts := turns.convert keep S U
    ⟨fixes, fun c held => carried c (keeps_export declares held)⟩
  rw [layer_declareExport, replacement, if_neg (by simp [isDeclaration])]
  dsimp only
  rw [if_neg (by rw [still, sameVariable, exportable]; simp), Outcome.bind_of_ok converts]
  cases isDefault with
  | true => rfl
  | false => exact congrArg (fun w => Except.ok [w]) (become_plain ..)

/-- An export of a declaration is replaced by an export of its conversion. -/
theorem statement_of_named_export (formed : decl.Formed Parsed) (declares : isDeclaration decl) :
    ∃ news, StatementTurns ⟨i, .flow (.declareExport decl false)⟩ news := by
  obtain ⟨h, turns⟩ := declaration_turns formed declares
  obtain ⟨-, mix⟩ := declaration_made turns { pos := decl.pos }
  refine ⟨[⟨i, .stmt (.exportNamed (some (.ts decl.pos h)) [] none none)⟩], ?_, ?_, ?_,
    .named turns.toDeclares, ?_⟩
  · simp only [List.forall_mem_singleton]
    intro S
    rw [spent_exportNamed.after]
    exact kept_of_isDeclare rfl
  · simp only [List.forall_mem_singleton]
    refine .made spent_exportNamed ⟨?_, trivial⟩ (.inr ⟨_, rfl⟩) ?_
    · simp [Form.slots, StmtForm.slots, Role.for?, Role.forAll, Node.ts, Node.plain, Form.roles,
        turns.roles]
    · simp only [Node.children, Form.children, Form.parts, StmtForm.parts, List.flatMap_cons,
        Part.nodes_ofChild?, Part.nodes_ofChildren, Part.nodes_ofText?, Part.ofImportKind?,
        List.flatMap_nil, List.append_nil, Option.toList_some, Option.map_none,
        List.forall_mem_singleton]
      exact mix.mono fun c => keeps_export declares
  · simp [Form.roles, StmtForm.roles]
  · intro keep S U fixes carried
    have inner : Node.after U (.ts decl.pos h) = Node.layer U (.ts decl.pos h) := spent_ts.after
    rw [replacement_export declares rfl turns fixes carried, List.map_singleton,
      spent_exportNamed.after, layer_exportNamed, Option.map_some, inner]
    rfl

/-- A default export of a declaration is replaced by its conversion and by an export of its
name. -/
theorem statement_of_default_export (formed : decl.Formed Parsed) (declares : isDeclaration decl)
    (exportable : isVariable decl = false) :
    ∃ news, StatementTurns ⟨i, .flow (.declareExport decl true)⟩ news := by
  obtain ⟨h, turns⟩ := declaration_turns formed declares
  obtain ⟨keptFirst, mix⟩ := declaration_made turns
    { pos := decl.pos, comments := i.comments, blankBefore := i.blankBefore }
  have ident : (Node.ident i.pos (declaredName (.ts decl.pos h))).Plays Converted .value :=
    plays_ident (by simp [ExprForm.roles, Role.ofExpr])
  have spent : (⟨{ pos := i.pos, trailing := i.trailing }, .stmt (.exportDefault
      (.ident i.pos (declaredName (.ts decl.pos h))))⟩ : Node).Spent :=
    spent_of_topic_none (by simp) rfl
  refine ⟨[⟨{ pos := decl.pos, comments := i.comments, blankBefore := i.blankBefore }, .ts h⟩,
    ⟨{ pos := i.pos, trailing := i.trailing }, .stmt (.exportDefault
      (.ident i.pos (declaredName (.ts decl.pos h))))⟩], ?_, ?_, ?_, .default turns.toDeclares, ?_⟩
  · simp only [List.forall_mem_cons, List.not_mem_nil, false_implies, implies_true, and_true]
    refine ⟨keptFirst, fun S => ?_⟩
    rw [spent.after]
    exact kept_of_isDeclare rfl
  · simp only [List.forall_mem_cons, List.not_mem_nil, false_implies, implies_true, and_true]
    refine ⟨mix.mono fun c => keeps_export declares, .made spent ⟨?_, trivial⟩ (.inr ⟨_, rfl⟩) ?_⟩
    · simp [Form.slots, StmtForm.slots, ident.1]
    · simp only [Node.children, Form.children, Form.parts, StmtForm.parts, List.flatMap_cons,
        Part.nodes_node, List.flatMap_nil, List.append_nil, List.forall_mem_singleton]
      exact .converted ident.2
  · simp [Form.roles, StmtForm.roles, turns.roles]
  · intro keep S U fixes carried
    have sameName : declaredName (Node.layer U (.ts decl.pos h))
        = declaredName (.ts decl.pos h) := by
      cases h <;> rfl
    have identStays : Node.after U (.ident i.pos (declaredName (.ts decl.pos h)))
        = .ident i.pos (declaredName (.ts decl.pos h)) := Node.after_of_converted ident.2
    have second : Node.layer U ⟨{ pos := i.pos, trailing := i.trailing }, .stmt (.exportDefault
          (.ident i.pos (declaredName (.ts decl.pos h))))⟩
        = ⟨{ pos := i.pos, trailing := i.trailing }, .stmt (.exportDefault
          (.ident i.pos (declaredName (.ts decl.pos h))))⟩ :=
      congrArg (fun c => Node.mk { pos := i.pos, trailing := i.trailing }
        (.stmt (.exportDefault c))) identStays
    rw [replacement_export declares (by simp [exportable]) turns fixes carried, if_pos rfl,
      Passes.defaultExport, sameName, List.map_cons, List.map_cons, List.map_nil, spent.after,
      spent_ts.after, second]
    rfl

end Exports

theorem form_after_block {i : Info} (S : List Topic) (ss : List Node) :
    ∃ new, (Node.after S ⟨i, .stmt (.block ss)⟩).form = .stmt (.block new) := by
  rw [Node.after_eq, layer_block, Node.settleAt]
  dsimp only [Form.topic?]
  split
  · change ∃ new, ((replacements id _ >>= _ : Outcome Node).toOption.getD _).form = _
    cases result : (replacements id (ss.map (Node.after S))).result with
    | ok new =>
      rw [Outcome.bind_of_ok result]
      exact ⟨new, rfl⟩
    | error e =>
      rw [Outcome.bind_of_error result]
      exact ⟨_, rfl⟩
  · exact ⟨_, rfl⟩

/-- A statement that is no declaration stays one through all topics. -/
theorem kept_after {s : Node} (formed : s.Formed Parsed) (role : .stmt ∈ s.form.roles)
    (other : s.form.isDeclare = false) (S : List Topic) : (s.after S).Kept := by
  have layered : s.after S = s.layer S → (s.after S).Kept := by
    intro same
    rw [same]
    exact kept_of_isDeclare ((isDeclare_layer S s).trans other)
  have turned {t : Topic} {new : Node} (turns : Turns t s new) : (s.after S).Kept := by
    by_cases settled : t ∈ S
    · rw [turns.after settled, turns.spent.after]
      exact kept_of_isDeclare ((isDeclare_layer S new).trans (isDeclare_of_shared turns.shared))
    · refine layered (Node.after_of_topic fun u inS topic => settled ?_)
      rw [turns.topic] at topic
      exact Option.some.inj topic ▸ inS
  obtain ⟨parsed, sound, slots⟩ := Node.formed_iff.mp formed
  have fits := formed.fits
  rcases s with ⟨i, f⟩
  cases f with
  | flow f =>
    cases f with
    | typeAlias name tparams type declare => exact turned (turns_typeAlias slots).choose_spec
    | opaqueType name tparams supertype type declare =>
      exact turned (turns_opaqueType slots).choose_spec
    | interface name tparams parents body declare => exact turned (turns_interface slots).choose_spec
    | declareVar | declareFunction | declareClass | declareExport => cases other
    | _ => simp [Form.roles, FlowForm.roles, Role.ofExpr] at role
  | ts f => exact absurd rfl (parsed.1 f)
  | expr f => exact layered (Node.after_of_topic_none rfl)
  | stmt f =>
    cases f with
    | importDecl kind specs source => exact turned (turns_importDecl fits)
    | importSpec imported name kind => exact turned turns_importSpec
    | exportNamed decl specs source kind => exact turned (turns_exportNamed fits)
    | block ss =>
      obtain ⟨new, form⟩ := form_after_block (i := i) S ss
      exact kept_of_isDeclare (by rw [form]; rfl)
    | program ss => simp [Form.roles, StmtForm.roles] at role
    | classProp => simp [Form.roles, StmtForm.roles] at role
    | _ => exact layered (Node.after_of_topic_none rfl)
  | foreign kind ps => simp [Form.roles] at role

/-- A statement that can be converted is replaced. -/
theorem statement_turns {s : Node} (formed : s.Formed Parsed) (role : .stmt ∈ s.form.roles)
    (good : s.badExport? = none) : StatementTurns s s.replaced := by
  have replaced {news : List Node} (turns : StatementTurns s news) : StatementTurns s s.replaced := by
    have result := turns.replace id [] [] fixes_id fun _ _ => rfl
    have stays : news.map (Node.after []) = news :=
      (List.map_congr_left fun w _ => Node.after_nil w).trans (List.map_id' news)
    rw [Node.after_nil, stays] at result
    rw [Node.replaced, Outcome.toOption, result]
    exact turns
  have keptCase (other : s.form.isDeclare = false) : StatementTurns s [s] := by
    have kept := kept_after formed role other
    refine ⟨by simpa using kept, by simpa using Mix.source (.inl rfl), by simpa using role,
      .kept other, ?_⟩
    intro keep S U _ carried
    rw [kept S keep, carried s (.inl rfl)]
    rfl
  rcases s with ⟨i, f⟩
  cases f with
  | flow f =>
    cases f with
    | declareVar | declareFunction | declareClass =>
      exact replaced (statement_of_declaration formed rfl).choose_spec
    | declareExport decl isDefault =>
      have inner : decl.Formed Parsed := formed.of_child
        (by simp [Node.children, Form.children, Form.parts, FlowForm.parts])
      have exportable : isDeclaration decl = true ∧ (isDefault && isVariable decl) = false := by
        rw [Node.badExport?] at good
        split at good
        next form =>
          cases form
          split at good
          · cases good
          next fine => simpa using fine
        next wrong => exact absurd rfl (wrong decl isDefault)
      cases isDefault with
      | false => exact replaced (statement_of_named_export inner exportable.1).choose_spec
      | true =>
        exact replaced (statement_of_default_export inner exportable.1
          (by simpa using exportable.2)).choose_spec
    | _ => exact replaced (keptCase rfl)
  | _ => exact replaced (keptCase rfl)

/-! ## Programs and blocks -/

theorem replacements_turn {ss : List Node} (turns : ∀ s ∈ ss, StatementTurns s s.replaced)
    {keep : Node → Node} {S U : List Topic} (fixes : Fixes keep)
    (carried : ∀ s ∈ ss, ∀ c, s.Keeps c → keep (c.after S) = c.after U) :
    (replacements keep (ss.map (Node.after S))).result
      = .ok ((ss.flatMap Node.replaced).map (Node.after U)) := by
  have rows : (mapChildren (replacement keep) (ss.map (Node.after S))).result
      = .ok (ss.map fun s => s.replaced.map (Node.after U)) := by
    induction ss with
    | nil => rfl
    | cons s ss ih =>
      have first := (turns s List.mem_cons_self).replace keep S U fixes (carried s List.mem_cons_self)
      have rest := ih (fun r member => turns r (List.mem_cons_of_mem s member))
        fun r member => carried r (List.mem_cons_of_mem s member)
      rw [List.map_cons, mapChildren, Outcome.bind_of_ok first, Outcome.bind_of_ok rest]
      rfl
  rw [replacements, Outcome.bind_of_ok rows, List.map_flatMap, List.flatMap_def]
  rfl

theorem holds_of_keeps {c s n : Node} (child : s ∈ n.children) (keeps : s.Keeps c) : n.Holds c := by
  rcases keeps with rfl | ⟨other, held⟩
  · exact Node.holds_of_child child
  · exact Node.holds_trans child other held

section Blocks

variable {i : Info} {ss : List Node}

theorem statements_turn (fits : ∀ s ∈ ss, s.Plays Parsed .stmt)
    (good : ss.findSome? Node.badExport? = none) : ∀ s ∈ ss, StatementTurns s s.replaced :=
  fun s member => statement_turns (fits s member).2 (fits s member).1
    (List.findSome?_eq_none_iff.mp good s member)

theorem turns_program (fits : ∀ s ∈ ss, s.Plays Parsed .stmt)
    (good : ss.findSome? Node.badExport? = none) :
    Turns .declarations ⟨i, .stmt (.program ss)⟩ ⟨i, .stmt (.program (ss.flatMap Node.replaced))⟩ := by
  have turns := statements_turn fits good
  have child : ∀ s ∈ ss, s ∈ (⟨i, .stmt (.program ss)⟩ : Node).children := by
    simp [Node.children, Form.children, Form.parts, StmtForm.parts]
  refine ⟨rfl, spent_program ?_, ⟨?_, trivial⟩, .inr ⟨_, rfl⟩, ?_, fun _ role => role,
    .program fun s among => (turns s among).shape, ?_⟩
  · intro w member
    obtain ⟨s, among, new⟩ := List.mem_flatMap.mp member
    exact (turns s among).kept w new
  · simp only [Form.slots, StmtForm.slots, Role.forall_mem_forAll, List.mem_flatMap]
    rintro w ⟨s, among, new⟩
    exact (turns s among).roles w new
  · intro w member
    simp only [Node.children, Form.children, Form.parts, StmtForm.parts, List.flatMap_cons,
      Part.nodes_ofChildren, List.flatMap_nil, List.append_nil, List.mem_flatMap] at member
    obtain ⟨s, among, new⟩ := member
    exact ((turns s among).parts w new).mono fun c => holds_of_keeps (child s among)
  · intro keep S U carries
    rw [layer_program, layer_program]
    change (replacements keep _ >>= _).result = _
    rw [Outcome.bind_of_ok (replacements_turn turns carries.fixes fun s among c keeps =>
      carries.held c (holds_of_keeps (child s among) keeps))]
    rfl

theorem turns_block (fits : ∀ s ∈ ss, s.Plays Parsed .stmt)
    (good : ss.findSome? Node.badExport? = none) :
    Turns .declarations ⟨i, .stmt (.block ss)⟩ ⟨i, .stmt (.block (ss.flatMap Node.replaced))⟩ := by
  have turns := statements_turn fits good
  have child : ∀ s ∈ ss, s ∈ (⟨i, .stmt (.block ss)⟩ : Node).children := by
    simp [Node.children, Form.children, Form.parts, StmtForm.parts]
  refine ⟨rfl, spent_block ?_, ⟨?_, trivial⟩, .inr ⟨_, rfl⟩, ?_, fun _ role => role,
    .block fun s among => (turns s among).shape, ?_⟩
  · intro w member
    obtain ⟨s, among, new⟩ := List.mem_flatMap.mp member
    exact (turns s among).kept w new
  · simp only [Form.slots, StmtForm.slots, Role.forall_mem_forAll, List.mem_flatMap]
    rintro w ⟨s, among, new⟩
    exact (turns s among).roles w new
  · intro w member
    simp only [Node.children, Form.children, Form.parts, StmtForm.parts, List.flatMap_cons,
      Part.nodes_ofChildren, List.flatMap_nil, List.append_nil, List.mem_flatMap] at member
    obtain ⟨s, among, new⟩ := member
    exact ((turns s among).parts w new).mono fun c => holds_of_keeps (child s among)
  · intro keep S U carries
    rw [layer_block, layer_block]
    change (replacements keep _ >>= _).result = _
    rw [Outcome.bind_of_ok (replacements_turn turns carries.fixes fun s among c keeps =>
      carries.held c (holds_of_keeps (child s among) keeps))]
    rfl

end Blocks

end Retype
