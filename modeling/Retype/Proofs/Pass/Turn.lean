import Retype.Proofs.Pass.Spent

/-!
# What the rules make of nodes

Each rule turns a node of its topic into a tree of spent layers.  Type parameters, type
arguments, annotations, aliases and interfaces become converted trees.  Casts, supertypes,
imports, exports and fields keep parts of the source.
-/

namespace Retype

open Node (Converted Parsed)
open Retype.Convert
open Outcome (fail warn warnIf ofExcept)

/-! ## Type parameters, type arguments and annotations -/

theorem typesYieldBelow (n : Node) : TypesYieldBelow n := fun _ _ => type_yields

section Holders

variable {n : Node}

theorem turns_of_settles {t : Topic} {r : Role} {g : TsForm Node} (plays : n.Plays Parsed r)
    (typing : r.isTyping) (settles : Settles t r n (.ts n.pos g)) (only : n.form.roles = [r]) :
    Turns t n (.ts n.pos g) := by
  obtain ⟨i, f, rfl, -⟩ := Node.flow_of_typing plays typing
  refine turns_of_converted settles.topic (Node.isTyping_of_plays plays (.inl typing))
    settles.plays.2 (TsForm.expr_not_mem settles.plays.1 typing) ?_ settles.apply
  intro q role
  rw [show f.roles = [r] from only, List.mem_singleton] at role
  exact role ▸ settles.plays.1

theorem roles_of_tparams (plays : n.Plays Parsed .tparams) : n.form.roles = [.tparams] := by
  obtain ⟨i, f, rfl, role, -⟩ := Node.flow_of_typing plays rfl
  cases f with
  | tparams params => rfl
  | _ => simp [FlowForm.roles, Role.ofExpr] at role

theorem turns_tparams (plays : n.Plays Parsed .tparams) :
    ∃ new, new.Formed Converted ∧ Turns .parameters n new := by
  obtain ⟨f, settles, -⟩ := tparams_yield plays (typesYieldBelow n)
  exact ⟨_, settles.plays.2, turns_of_settles plays rfl settles (roles_of_tparams plays)⟩

theorem turns_targs (plays : n.Plays Parsed .targs) :
    ∃ new, new.Formed Converted ∧ Turns .arguments n new := by
  obtain ⟨types, us, form, -, -, settles, -⟩ := targs_yield plays (typesYieldBelow n)
  exact ⟨_, settles.plays.2, turns_of_settles plays rfl settles (by rw [form]; rfl)⟩

theorem turns_annot (plays : n.Plays Parsed .annot) :
    ∃ new, new.Formed Converted ∧ Turns .annotations n new := by
  obtain ⟨t, u, form, -, -, -, settles, -⟩ := annot_yields plays (typesYieldBelow n)
  exact ⟨_, settles.plays.2, turns_of_settles plays rfl settles (by rw [form]; rfl)⟩

/-- The parts of a type are types, or parts of types, or names. -/
theorem inType_of_child {r : Role} (plays : n.Plays Parsed r) (inType : r.isInType) :
    ∀ c ∈ n.children, ∃ q, q.isInType ∧ c.Plays Parsed q := by
  intro c child
  rcases Role.isTyping_or_name inType with typing | rfl
  · obtain ⟨i, f, rfl, role, -, slots, -⟩ := Node.flow_of_typing plays typing
    rw [Node.children, Form.children_eq_slots (by simp)] at child
    obtain ⟨s, slot, rfl⟩ := List.mem_map.mp child
    exact ⟨s.1, f.isInType_of_slots role inType s slot, slots s slot⟩
  · rcases name_cases plays with ⟨i, name, rfl⟩ | ⟨i, left, name, rfl, inner⟩
    · simp [Node.children, Form.children, Form.parts, ExprForm.parts] at child
    · obtain rfl : c = left := by
        simpa [Node.children, Form.children, Form.parts, FlowForm.parts] using child
      exact ⟨.name, rfl, inner⟩

/-- The rules about a part of a type convert it. -/
theorem turns_inType {r : Role} (plays : n.Plays Parsed r) (inType : r.isInType) {t : Topic}
    (topic : n.form.topic? = some t) : ∃ new, new.Formed Converted ∧ Turns t n new := by
  rcases Role.isTyping_or_name inType with typing | rfl
  · obtain ⟨i, f, rfl, role, -⟩ := Node.flow_of_typing plays typing
    cases f with
    | tparams params =>
      cases topic
      exact turns_tparams ⟨List.mem_singleton_self _, plays.2⟩
    | targs types =>
      cases topic
      exact turns_targs ⟨List.mem_singleton_self _, plays.2⟩
    | annot type =>
      cases topic
      exact turns_annot ⟨List.mem_singleton_self _, plays.2⟩
    | ifaceExt id targs =>
      rw [FlowForm.roles, List.mem_singleton] at role
      cases role
      cases inType
    | typecast | typeAlias | opaqueType | interface =>
      simp only [FlowForm.roles, Role.ofExpr, List.mem_cons, List.not_mem_nil, or_false] at role
      rcases role with rfl | rfl | rfl | rfl <;> cases typing
    | _ => cases topic
  · rcases name_cases plays with ⟨i, name, rfl⟩ | ⟨i, left, name, rfl, inner⟩ <;> cases topic

/-- A type of the source consists of types at every stage. -/
theorem isTyping_after {r : Role} (plays : n.Plays Parsed r) (inType : r.isInType)
    (S : List Topic) : (n.after S).IsTyping := by
  induction n using Node.childInduction generalizing r with
  | step n ih =>
    have types := Node.isTyping_of_plays plays (Role.isTyping_or_name inType)
    have layered : (n.layer S).IsTyping := by
      refine Node.isTyping_iff.mpr ⟨(Node.isTyping_iff.mp types).1.layer S, ?_⟩
      rw [Node.children_layer, List.forall_mem_map]
      intro c child
      obtain ⟨q, inner, isPart⟩ := inType_of_child plays inType c child
      exact ih c child isPart inner
    cases topic : n.form.topic? with
    | none => exact Node.after_of_topic_none topic ▸ layered
    | some t =>
      by_cases settled : t ∈ S
      · obtain ⟨new, converted, turns⟩ := turns_inType plays inType topic
        rw [turns.after settled, Node.after_of_converted converted]
        exact Node.isTyping_of_converted converted
      · refine Node.after_of_topic (fun u inS same => settled ?_) ▸ layered
        rw [topic] at same
        exact Option.some.inj same ▸ inS

/-- A list of type arguments converts once type arguments are settled. -/
theorem typed_targs (plays : n.Plays Parsed .targs) : n.Typed := by
  refine ⟨isTyping_after plays rfl, fun S settled => ?_⟩
  obtain ⟨new, converted, turns⟩ := turns_targs plays
  rw [turns.after settled, Node.after_of_converted converted]
  exact fun m member => (converted m member).2

/-- A layer of the TypeScript dialect around types. -/
theorem typed_of_slots {i : Info} {g : TsForm Node} (slots : ∀ s ∈ g.slots, s.2.Typed) :
    Node.Typed ⟨i, .ts g⟩ := by
  have each : ∀ c ∈ Node.children ⟨i, .ts g⟩, c.Typed := by
    intro c child
    rw [Node.children, Form.children_eq_slots (by simp)] at child
    obtain ⟨s, slot, rfl⟩ := List.mem_map.mp child
    exact slots s slot
  refine ⟨fun S => ?_, fun S settled => ?_⟩
  all_goals rw [spent_ts.after]
  · refine Node.isTyping_ts.mpr ?_
    change ∀ c ∈ (Node.layer S ⟨i, .ts g⟩).children, c.IsTyping
    rw [Node.children_layer, List.forall_mem_map]
    exact fun c child => (each c child).isTyping S
  · refine Node.forall_mem_preorder_iff.mpr ⟨.inl ⟨_, rfl⟩, ?_⟩
    rw [Node.children_layer, List.forall_mem_map]
    exact fun c child => (each c child).converted S settled

end Holders

/-! ## Aliases and interfaces -/

section Statements

variable {i : Info} {name : String} {tparams : Option Node} {declare : Bool}

theorem typeYields_of_converted {t : Node} (plays : t.Plays Converted .type) : TypeYields t := by
  refine ⟨t, ⟨plays, fun function => function⟩, fun keep S fixes => ?_⟩
  dsimp only
  rw [Node.after_of_converted plays.2]
  exact convertType_converted fixes plays

/-- The parts of an alias convert. -/
theorem alias_yields (i : Info) (name : String) (declare : Bool) {type : Node}
    (areTparams : ∀ t, tparams = some t → t.Plays Parsed .tparams)
    (isType : TypeYields type) :
    ∃ tps u, (⟨i, .ts (.typeAlias name tps u declare)⟩ : Node).Formed Converted
      ∧ ∀ keep S, Fixes keep →
        (convertTparams keep (tparams.map (Node.after S))).result = .ok tps
          ∧ (convertType keep (type.after S)).result = .ok u := by
  obtain ⟨tps, areTps, tparamsResult⟩ := tparams?_yield areTparams fun t _ => typesYieldBelow t
  obtain ⟨u, ⟨converted, -⟩, result⟩ := isType
  refine ⟨tps, u, Node.formed_iff.mpr ⟨.inl ⟨_, rfl⟩, trivial, ?_⟩, fun keep S fixes =>
    ⟨tparamsResult keep S fixes, result keep S fixes⟩⟩
  simp only [Form.slots, TsForm.slots, List.forall_mem_append, Role.forall_mem_for?,
    List.forall_mem_singleton]
  exact ⟨areTps, converted⟩

theorem turns_typeAlias {type : Node}
    (slots : ∀ s ∈ (FlowForm.typeAlias name tparams type declare).slots, s.2.Plays Parsed s.1) :
    ∃ f, Turns .aliases ⟨i, .flow (.typeAlias name tparams type declare)⟩ ⟨i, .ts f⟩ := by
  have types := Node.isTyping_flow (i := i) rfl slots
  simp only [FlowForm.slots, List.forall_mem_append, Role.forall_mem_for?,
    List.forall_mem_singleton] at slots
  obtain ⟨tps, u, formed, results⟩ := alias_yields i name declare slots.1 (type_yields slots.2)
  refine ⟨_, turns_of_converted rfl types formed (by simp [TsForm.roles])
    (by simp [FlowForm.roles, TsForm.roles]) ?_⟩
  intro keep S fixes
  obtain ⟨tparamsResult, typeResult⟩ := results keep S fixes
  have same : Node.layer S ⟨i, .flow (.typeAlias name tparams type declare)⟩
      = ⟨i, .flow (.typeAlias name (tparams.map (Node.after S)) (type.after S) declare)⟩ := by
    simp [Node.layer, Node.withForm, FlowForm.map, FlowForm.mapM]
  rw [same]
  change (convertTparams keep _ >>= _).result = _
  rw [Outcome.bind_of_ok tparamsResult]
  change (convertType keep _ >>= _).result = _
  rw [Outcome.bind_of_ok typeResult]
  exact congrArg Except.ok (become_plain ..)

theorem turns_opaqueType {supertype type : Option Node}
    (slots : ∀ s ∈ (FlowForm.opaqueType name tparams supertype type declare).slots,
      s.2.Plays Parsed s.1) :
    ∃ f, Turns .aliases ⟨i, .flow (.opaqueType name tparams supertype type declare)⟩ ⟨i, .ts f⟩ := by
  have types := Node.isTyping_flow (i := i) rfl slots
  simp only [FlowForm.slots, List.forall_mem_append, Role.forall_mem_for?] at slots
  obtain ⟨⟨areTparams, isSupertype⟩, isType⟩ := slots
  have unknown : (Node.ts i.pos (.keyword .unknown)).Plays Converted .type := by
    rw [plays_ts_iff]
    simp [TsForm.roles, TsForm.Sound, TsForm.slots]
  have shown : TypeYields ((type.or supertype).getD (.ts i.pos (.keyword .unknown))) := by
    cases type with
    | some t => exact type_yields (isType t rfl)
    | none =>
      cases supertype with
      | some t => exact type_yields (isSupertype t rfl)
      | none => exact typeYields_of_converted unknown
  obtain ⟨tps, u, formed, results⟩ := alias_yields i name declare areTparams shown
  refine ⟨_, turns_of_converted rfl types formed (by simp [TsForm.roles])
    (by simp [FlowForm.roles, TsForm.roles]) ?_⟩
  intro keep S fixes
  obtain ⟨tparamsResult, typeResult⟩ := results keep S fixes
  have same : Node.layer S ⟨i, .flow (.opaqueType name tparams supertype type declare)⟩
      = ⟨i, .flow (.opaqueType name (tparams.map (Node.after S)) (supertype.map (Node.after S))
        (type.map (Node.after S)) declare)⟩ := by
    simp [Node.layer, Node.withForm, FlowForm.map, FlowForm.mapM]
  have choice : ((type.map (Node.after S)).or (supertype.map (Node.after S))).getD
        (.ts i.pos (.keyword .unknown))
      = ((type.or supertype).getD (.ts i.pos (.keyword .unknown))).after S := by
    cases type with
    | some t => rfl
    | none =>
      cases supertype with
      | some t => rfl
      | none => exact (Node.after_of_converted unknown.2).symm
  rw [same]
  change (convertTparams keep _ >>= fun tps => convertType keep (((type.map (Node.after S)).or
    (supertype.map (Node.after S))).getD (.ts i.pos (.keyword .unknown))) >>= _).result = _
  rw [Outcome.bind_of_ok tparamsResult, choice]
  dsimp only
  rw [Outcome.bind_of_ok typeResult]
  exact congrArg Except.ok (become_plain ..)

end Statements

/-! ## Supertypes -/

/-- An entry of an `extends` list, and how its name converts in type position and in value
position. -/
structure Supertype (n : Node) (id : Node) (targs : Option Node) (entity member : Node) : Prop where
  form : n.form = .flow (.ifaceExt id targs)
  isTargs : ∀ t, targs = some t → t.Plays Parsed .targs
  isEntity : entity.Plays Converted .name
  isMember : member.Plays Converted .expr
  turns : Turns .heritage n ⟨n.info, .ts (.heritage entity targs)⟩
  info : ∀ S, (n.after S).info = n.info
  holds : ∀ t, targs = some t → ∀ S, t.after S ∈ (n.after S).children
  parts : ∀ S, ∃ found, heritageParts? (n.after S) = some (found, targs.map (Node.after S))
    ∧ (∀ keep, Fixes keep → Convert.entity keep found = .ok entity)
    ∧ memberExpr found = .ok member

theorem supertype_spec {n : Node} (plays : n.Plays Parsed .heritage) :
    ∃ id targs entity member, Supertype n id targs entity member := by
  obtain ⟨i, f, rfl, role, -, slots, holder⟩ := Node.flow_of_typing plays rfl
  cases f with
  | ifaceExt id targs =>
    have types := Node.isTyping_flow (i := i) rfl slots
    simp only [FlowForm.slots, List.forall_mem_cons, Role.forall_mem_for?] at slots
    obtain ⟨isName, isTargs⟩ := slots
    obtain ⟨u, e, isEntity, isMember, entity, kept, member, memberKept⟩ := entity_spec isName
    have child : ∀ t, targs = some t → t ∈ (⟨i, .flow (.ifaceExt id targs)⟩ : Node).children := by
      rintro t rfl
      simp [Node.children, Form.children, Form.parts, FlowForm.parts]
    have turns : Turns .heritage ⟨i, .flow (.ifaceExt id targs)⟩ ⟨i, .ts (.heritage u targs)⟩ := by
      refine ⟨rfl, spent_ts, ⟨?_, trivial⟩, .inl ⟨_, rfl⟩, ?_, ?_,
        .typing types ?_ (by simp [TsForm.roles]), ?_⟩
      · simp only [Form.slots, TsForm.slots, List.forall_mem_cons, Role.forall_mem_for?]
        exact ⟨isEntity.1, fun t found => (isTargs t found).1⟩
      · intro c inside
        simp only [Node.children, Form.children, Form.parts, TsForm.parts, List.flatMap_cons,
          Part.nodes_node, Part.nodes_ofChild?, List.flatMap_nil, List.append_nil,
          List.singleton_append, List.mem_cons, Option.mem_toList] at inside
        rcases inside with rfl | found
        · exact .converted isEntity.2
        · exact .source (Node.holds_of_child (child c found))
      · simp [Form.roles, FlowForm.roles, TsForm.roles]
      · refine typed_of_slots ?_
        simp only [TsForm.slots, List.forall_mem_cons, Role.forall_mem_for?]
        exact ⟨Node.typed_of_converted isEntity.2, fun t found => typed_targs (isTargs t found)⟩
      · intro keep S U carries
        have carried : (targs.map (Node.after S)).map keep = targs.map (Node.after U) := by
          cases targs with
          | none => rfl
          | some t => exact congrArg some (carries.child (child t rfl))
        rw [layer_ifaceExt, layer_heritage, after_name isName, Node.after_of_converted isEntity.2,
          ← carried]
        change (ofExcept (Convert.entity keep id) >>= _).result = _
        rw [entity]
        exact congrArg Except.ok (become_plain ..)
    have stages : ∀ S, Node.after S ⟨i, .flow (.ifaceExt id targs)⟩
          = ⟨i, .ts (.heritage u (targs.map (Node.after S)))⟩
        ∨ Node.after S ⟨i, .flow (.ifaceExt id targs)⟩
          = ⟨i, .flow (.ifaceExt id (targs.map (Node.after S)))⟩ := by
      intro S
      by_cases settled : .heritage ∈ S
      · rw [turns.after settled, turns.spent.after, layer_heritage,
          Node.after_of_converted isEntity.2]
        exact .inl rfl
      · rw [Node.after_of_topic (by rintro t inS ⟨⟩; exact settled inS), layer_ifaceExt,
          after_name isName]
        exact .inr rfl
    refine ⟨id, targs, u, e, rfl, isTargs, isEntity, isMember, turns, fun S => ?_, ?_, fun S => ?_⟩
    · rcases stages S with new | old
      · rw [new]
      · rw [old]
    · rintro t rfl S
      rcases stages S with new | old
      · rw [new]
        simp [Node.children, Form.children, Form.parts, TsForm.parts]
      · rw [old]
        simp [Node.children, Form.children, Form.parts, FlowForm.parts]
    · rcases stages S with new | old
      · rw [new]
        exact ⟨u, rfl, kept, memberKept⟩
      · rw [old]
        exact ⟨id, rfl, fun keep _ => entity keep, member⟩
  | _ => simp [FlowForm.roles, Role.ofExpr] at role

/-- The entries of an `extends` list convert. -/
theorem heritage_yields {parents : List Node} (fits : ∀ p ∈ parents, p.Plays Parsed .heritage) :
    Yields (fun keep S => mapChildren (Passes.convertHeritage keep) (parents.map (Node.after S)))
      fun us => ∀ u ∈ us, u.Plays Converted .heritage := by
  induction parents with
  | nil => exact ⟨[], by simp, fun _ _ _ => rfl⟩
  | cons p ps ih =>
    obtain ⟨id, targs, entity, member, spec⟩ := supertype_spec (fits p List.mem_cons_self)
    obtain ⟨us, areHeritage, rest⟩ := ih fun q member => fits q (List.mem_cons_of_mem p member)
    obtain ⟨args, areArgs, argsResult⟩ := targs?_yield spec.isTargs fun t _ => typesYieldBelow t
    refine ⟨.ts p.pos (.heritage entity args) :: us, List.forall_mem_cons.mpr ⟨?_, areHeritage⟩, ?_⟩
    · rw [plays_ts_iff]
      simp only [TsForm.slots, List.forall_mem_cons, Role.forall_mem_for?]
      exact ⟨by simp [TsForm.roles], trivial, spec.isEntity, areArgs⟩
    · intro keep S fixes
      obtain ⟨found, parts, named, -⟩ := spec.parts S
      have pos : (p.after S).pos = p.pos := congrArg Info.pos (spec.info S)
      have first : (Passes.convertHeritage keep (p.after S)).result
          = .ok (.ts p.pos (.heritage entity args)) := by
        rw [Passes.convertHeritage, parts]
        dsimp only
        rw [named keep fixes, pos]
        change (convertTargs keep _ >>= _).result = _
        rw [Outcome.bind_of_ok (argsResult keep S fixes)]
        rfl
      dsimp only
      rw [List.map_cons, mapChildren, Outcome.bind_of_ok first, Outcome.bind_of_ok (rest keep S fixes)]
      rfl

/-- The members of an interface convert. -/
theorem body_yields {members : List Node} (seen : Bool)
    (fits : ∀ m ∈ members, m.Plays Parsed .typeMember) :
    Yields (fun keep S => convertBody keep seen (members.map (Node.after S))) fun us =>
      ∀ u ∈ us, u.Plays Converted .typeMember := by
  induction members generalizing seen with
  | nil => exact ⟨[], by simp, fun _ _ _ => rfl⟩
  | cons m ms ih =>
    have isMember := fits m List.mem_cons_self
    have first := member_yields isMember (typesYieldBelow m)
    have rest := fun seen => ih seen fun p member => fits p (List.mem_cons_of_mem m member)
    have indexer := fun S => (member_after (S := S) isMember).1
    have spread := fun S => (member_after (S := S) isMember).2.1
    cases isSpreadMember : isSpread m with
    | true =>
      refine yields_of_eq (yields_after_warning (fun S => warn .interfaceSpread (m.after S).pos)
        (fun _ => rfl) (rest seen)) fun keep S => ?_
      rw [List.map_cons, convertBody, spread, if_pos isSpreadMember]
    | false =>
      rw [isSpreadMember] at first
      cases dropped : isIndexer m && seen with
      | true =>
        refine yields_of_eq (yields_after_warning (fun S => warn .extraIndexer (m.after S).pos)
          (fun _ => rfl) (rest seen)) fun keep S => ?_
        rw [List.map_cons, convertBody, spread, indexer, if_neg (by simp [isSpreadMember]),
          if_pos dropped]
      | false =>
        refine yields_of_eq (yields_bind first fun u isField => yields_map
          (f := fun us => m.keepComments u :: us) (rest (seen || isIndexer m)) fun us areMembers =>
            List.forall_mem_cons.mpr ⟨plays_of_form isField rfl, areMembers⟩) fun keep S => ?_
        rw [List.map_cons, convertBody, spread, indexer, if_neg (by simp [isSpreadMember]),
          if_neg (by simp [dropped])]
        simp only [withCommentsOf_after isMember]

theorem object_cases {n : Node} (plays : n.Plays Parsed .objectType) :
    ∃ i members exact, n = ⟨i, .flow (.object members exact)⟩
      ∧ ∀ m ∈ members, m.Plays Parsed .typeMember := by
  obtain ⟨i, f, rfl, role, -, slots, -⟩ := Node.flow_of_typing plays rfl
  cases f with
  | object members exact =>
    simp only [FlowForm.slots, Role.forall_mem_forAll] at slots
    exact ⟨i, members, exact, rfl, slots⟩
  | _ => simp [FlowForm.roles, Role.ofExpr] at role

theorem membersOf_after {i : Info} {members : List Node} {exact : Bool} (S : List Topic) :
    membersOf (Node.after S ⟨i, .flow (.object members exact)⟩) = members.map (Node.after S) := by
  rw [Node.after_of_topic_none rfl]
  simp [Node.layer, Node.withForm, FlowForm.map, FlowForm.mapM, membersOf]

theorem turns_interface {i : Info} {name : String} {tparams : Option Node} {parents : List Node}
    {body : Node} {declare : Bool}
    (slots : ∀ s ∈ (FlowForm.interface name tparams parents body declare).slots,
      s.2.Plays Parsed s.1) :
    ∃ f, Turns .interfaces ⟨i, .flow (.interface name tparams parents body declare)⟩ ⟨i, .ts f⟩ := by
  have types := Node.isTyping_flow (i := i) rfl slots
  simp only [FlowForm.slots, List.forall_mem_append, Role.forall_mem_for?, Role.forall_mem_forAll,
    List.forall_mem_singleton] at slots
  obtain ⟨⟨areTparams, areParents⟩, isBody⟩ := slots
  obtain ⟨j, members, exact, rfl, areMembers⟩ := object_cases isBody
  obtain ⟨tps, areTps, tparamsResult⟩ := tparams?_yield areTparams fun t _ => typesYieldBelow t
  obtain ⟨hs, areHeritage, parentsResult⟩ := heritage_yields areParents
  obtain ⟨ms, areMs, bodyResult⟩ := body_yields false areMembers
  have formed : (⟨i, .ts (.interface name tps hs ms declare)⟩ : Node).Formed Converted := by
    refine Node.formed_iff.mpr ⟨.inl ⟨_, rfl⟩, trivial, ?_⟩
    simp only [Form.slots, TsForm.slots, List.forall_mem_append, Role.forall_mem_for?,
      Role.forall_mem_forAll]
    exact ⟨⟨areTps, areHeritage⟩, areMs⟩
  refine ⟨_, turns_of_converted rfl types formed (by simp [TsForm.roles])
    (by simp [FlowForm.roles, TsForm.roles]) ?_⟩
  intro keep S fixes
  have same : Node.layer S ⟨i, .flow (.interface name tparams parents
        ⟨j, .flow (.object members exact)⟩ declare)⟩
      = ⟨i, .flow (.interface name (tparams.map (Node.after S)) (parents.map (Node.after S))
        (Node.after S ⟨j, .flow (.object members exact)⟩) declare)⟩ := by
    simp [Node.layer, Node.withForm, FlowForm.map, FlowForm.mapM]
  rw [same]
  change (mapChildren (Passes.convertHeritage keep) _ >>= fun hs => convertTparams keep _ >>= fun tps =>
    convertBody keep false (membersOf (Node.after S ⟨j, .flow (.object members exact)⟩)) >>= _).result = _
  rw [Outcome.bind_of_ok (parentsResult keep S fixes), Outcome.bind_of_ok (tparamsResult keep S fixes),
    membersOf_after, Outcome.bind_of_ok (bodyResult keep S fixes)]
  exact congrArg Except.ok (become_plain ..)

/-! ## Casts -/

theorem turns_typecast {a : Node} (isAnnot : a.Plays Parsed .annot) :
    ∃ u : Node, u.Plays Converted .type ∧ ∀ (i : Info) (e : Node), .expr ∈ e.form.roles →
      Turns .casts ⟨i, .flow (.typecast e a)⟩ ⟨i, .ts (.cast e u)⟩ := by
  obtain ⟨t, u, form, -, isType, -, settles, results⟩ := annot_yields isAnnot (typesYieldBelow a)
  refine ⟨u, isType, fun i e isExpr => ⟨rfl, spent_ts, ⟨?_, trivial⟩, .inl ⟨_, rfl⟩, ?_, ?_,
    .cast (Node.isTyping_of_plays isAnnot (.inl rfl)) isType.2, ?_⟩⟩
  · simp [Form.slots, TsForm.slots, isExpr, isType.1]
  · intro c child
    simp only [Node.children, Form.children, Form.parts, TsForm.parts, List.flatMap_cons,
      Part.nodes_node, List.flatMap_nil, List.append_nil, List.singleton_append, List.mem_cons,
      List.not_mem_nil, or_false] at child
    rcases child with rfl | rfl
    · exact .source (Node.holds_of_child
        (by simp [Node.children, Form.children, Form.parts, FlowForm.parts]))
    · exact .converted isType.2
  · simp [Form.roles, FlowForm.roles, TsForm.roles]
  · intro keep S U carries
    have kept : keep (e.after S) = e.after U :=
      carries.child (by simp [Node.children, Form.children, Form.parts, FlowForm.parts])
    have shown : ∃ type, annotatedType? (a.after S) = some type
        ∧ (convertType keep type).result = .ok u := by
      refine settles.of_both (P := fun m => ∃ type, annotatedType? m = some type
        ∧ (convertType keep type).result = .ok u) S ?_ ⟨u, rfl, convertType_converted carries.fixes isType⟩
      rcases a with ⟨j, f⟩
      cases form
      exact ⟨t.after S, rfl, (results keep S carries.fixes).2⟩
    obtain ⟨type, found, converts⟩ := shown
    rw [layer_typecast, layer_cast, Node.after_of_converted isType.2, ← kept]
    simp only [Topic.apply, Topic.rule, Passes.castRule, found]
    rw [Outcome.bind_of_ok converts]
    exact congrArg Except.ok (become_plain ..)

/-! ## Imports, exports and fields -/

section Keywords

variable {i : Info}

/-- Layers that ask the same of the same children have the same children. -/
theorem children_of_slots {j : Info} {f g : StmtForm Node} (same : g.slots = f.slots) :
    (⟨j, .stmt g⟩ : Node).children = (⟨i, .stmt f⟩ : Node).children := by
  rw [Node.children, Node.children, Form.children_eq_slots (by simp),
    Form.children_eq_slots (by simp)]
  exact congrArg _ same

/-- A statement that loses a keyword keeps its children. -/
theorem parts_of_slots {f g : StmtForm Node} (same : g.slots = f.slots) :
    ∀ c ∈ (⟨i, .stmt g⟩ : Node).children, Mix (⟨i, .stmt f⟩ : Node).Holds c := by
  intro c child
  rw [children_of_slots same] at child
  exact .source (Node.holds_of_child child)

theorem turns_importDecl {kind : Option ImportKind} {specs : List Node} {source : String}
    (fits : (⟨i, .stmt (.importDecl kind specs source)⟩ : Node).Fits) :
    Turns .imports ⟨i, .stmt (.importDecl kind specs source)⟩
      ⟨i, .stmt (.importDecl none specs source)⟩ := by
  refine ⟨rfl, spent_importDecl, ⟨fits.plays, trivial⟩, .inr ⟨_, rfl⟩, ?_, fun _ role => role,
    .unmarked, ?_⟩
  · exact parts_of_slots rfl
  · intro keep S U carries
    have carried : (specs.map (Node.after S)).map keep = specs.map (Node.after U) := by
      rw [List.map_map]
      refine List.map_congr_left fun c member => carries.child ?_
      simp [Node.children, Form.children, Form.parts, StmtForm.parts, Part.ofImportKind?, member]
    rw [layer_importDecl, layer_importDecl, ← carried]
    change (warnIf _ _ _ >>= _).result = _
    rw [Outcome.bind_of_ok (warnIf_result ..)]
    rfl

theorem turns_importSpec {imported name : String} {kind : Option ImportKind} :
    Turns .imports ⟨i, .stmt (.importSpec imported name kind)⟩
      ⟨i, .stmt (.importSpec imported name none)⟩ := by
  refine ⟨rfl, spent_importSpec, ⟨by simp [Form.slots, StmtForm.slots], trivial⟩, .inr ⟨_, rfl⟩, ?_,
    fun _ role => role, .unmarked, ?_⟩
  · exact parts_of_slots rfl
  · intro keep S U carries
    change (warnIf _ _ _ >>= _).result = _
    rw [Outcome.bind_of_ok (warnIf_result ..)]
    rfl

theorem turns_exportNamed {decl : Option Node} {specs : List Node} {source : Option String}
    {kind : Option ImportKind}
    (fits : (⟨i, .stmt (.exportNamed decl specs source kind)⟩ : Node).Fits) :
    Turns .exports ⟨i, .stmt (.exportNamed decl specs source kind)⟩
      ⟨i, .stmt (.exportNamed decl specs source none)⟩ := by
  refine ⟨rfl, spent_exportNamed, ⟨fits.plays, trivial⟩, .inr ⟨_, rfl⟩, ?_, fun _ role => role,
    .unmarked, ?_⟩
  · exact parts_of_slots rfl
  · intro keep S U carries
    have child : ∀ c, decl = some c ∨ c ∈ specs →
        c ∈ (⟨i, .stmt (.exportNamed decl specs source kind)⟩ : Node).children := by
      simp [Node.children, Form.children, Form.parts, StmtForm.parts, Part.ofImportKind?]
    have carriedDecl : (decl.map (Node.after S)).map keep = decl.map (Node.after U) := by
      cases decl with
      | none => rfl
      | some d => exact congrArg some (carries.child (child d (.inl rfl)))
    have carriedSpecs : (specs.map (Node.after S)).map keep = specs.map (Node.after U) := by
      rw [List.map_map]
      exact List.map_congr_left fun c member => carries.child (child c (.inr member))
    rw [layer_exportNamed, layer_exportNamed, ← carriedDecl, ← carriedSpecs]
    rfl

theorem turns_classProp {key : String} {annot value : Option Node} {isStatic : Bool}
    {variance : Option Variance} {optional : Bool} (marked : isContravariant variance)
    (fits : (⟨i, .stmt (.classProp key annot value isStatic variance optional)⟩ : Node).Fits) :
    Turns .annotations ⟨i, .stmt (.classProp key annot value isStatic variance optional)⟩
      ⟨i, .stmt (.classProp key annot value isStatic none optional)⟩ := by
  refine ⟨by simp [Form.topic?, marked], spent_of_topic_none (by simp) rfl, ⟨fits.plays, trivial⟩,
    .inr ⟨_, rfl⟩, ?_, fun _ role => role, .unmarked, ?_⟩
  · exact parts_of_slots rfl
  · intro keep S U carries
    have child : ∀ c, annot = some c ∨ value = some c →
        c ∈ (⟨i, .stmt (.classProp key annot value isStatic variance optional)⟩ : Node).children := by
      simp [Node.children, Form.children, Form.parts, StmtForm.parts, Part.ofVariance?]
    have carriedAnnot : (annot.map (Node.after S)).map keep = annot.map (Node.after U) := by
      cases annot with
      | none => rfl
      | some a => exact congrArg some (carries.child (child a (.inl rfl)))
    have carriedValue : (value.map (Node.after S)).map keep = value.map (Node.after U) := by
      cases value with
      | none => rfl
      | some v => exact congrArg some (carries.child (child v (.inr rfl)))
    rw [layer_classProp, layer_classProp, ← carriedAnnot, ← carriedValue]
    simp only [Topic.apply, Topic.rule, Passes.annotationRule, if_pos marked]
    rfl

/-- The rules about imports, exports and fields remove marks. -/
theorem turns_unmarked {t : Topic} {f : StmtForm Node} (fits : (⟨i, .stmt f⟩ : Node).Fits)
    (topic : (Form.stmt f).topic? = some t) (other : t ≠ .declarations) :
    Turns t ⟨i, .stmt f⟩ ⟨i, .stmt f.unmarked⟩ := by
  cases f with
  | importDecl kind specs source =>
    cases topic
    exact turns_importDecl fits
  | importSpec imported name kind =>
    cases topic
    exact turns_importSpec
  | exportNamed decl specs source kind =>
    cases topic
    exact turns_exportNamed fits
  | classProp key annot value isStatic variance optional =>
    rw [Form.topic?] at topic
    split at topic
    next marked =>
      cases topic
      exact turns_classProp marked fits
    next => cases topic
  | program ss => exact absurd (Option.some.inj topic).symm other
  | block ss => exact absurd (Option.some.inj topic).symm other
  | _ => cases topic

end Keywords

end Retype
