import Retype.Proofs.Convert.Yield

/-!
# What the helpers of the conversion see and build

The conversion of a type looks at a few things about the parts of the type: which of the
members are indexers, what a parameter is called, how many arguments a name has.  None
of this depends on the topics that were settled before.

Its helpers put converted parts together: a flat union, an object type, the type of an
operation.  From converted types they build converted types.
-/

namespace Retype.Convert

open Node (Converted Parsed after)

/-! ## What is seen of the parts of a type -/

/-- A parameter of a function type of the source. -/
theorem param_cases {n : Node} (plays : n.Plays Parsed .fnParam) :
    ∃ i name type optional, n = ⟨i, .flow (.param name type optional)⟩ ∧ type.Plays Parsed .type := by
  obtain ⟨i, f, rfl, role, -, slots, -⟩ := Node.flow_of_typing plays rfl
  cases f with
  | param name type optional => exact ⟨i, name, type, optional, rfl, slots (.type, type) (by simp [FlowForm.slots])⟩
  | _ => simp [FlowForm.roles, Role.ofExpr] at role

/-- No topic is about a type itself. -/
theorem topic?_of_type {i : Info} {f : FlowForm Node} (role : .type ∈ f.roles) :
    (⟨i, .flow f⟩ : Node).form.topic? = none := by
  cases f with
  | tparams | tparam | targs | annot | ifaceExt | typecast | typeAlias | opaqueType | interface =>
    simp [FlowForm.roles, Role.ofExpr] at role
  | _ => rfl

theorem identifierOf?_after {S : List Topic} {t : Node} (plays : t.Plays Parsed .type) :
    identifierOf? (t.after S) = identifierOf? t := by
  obtain ⟨i, f, rfl, role, -, slots, -⟩ := Node.flow_of_typing plays rfl
  rw [Node.after_of_topic_none (topic?_of_type role)]
  cases f with
  | generic name targs =>
    have isName : name.Plays Parsed .name := slots (.name, name) (by simp [FlowForm.slots])
    simp only [Node.layer, Node.withForm, Form.map_flow, FlowForm.map, FlowForm.mapM, mapChild?_pure,
      Id.run_pure, bind_pure_comp, map_pure, after_name isName]
    rcases name_cases isName with ⟨j, text, rfl⟩ | ⟨j, left, text, rfl, -⟩ <;> rfl
  | _ => rfl

theorem indexKeyName_after {S : List Topic} {id : Option String} {key : Node}
    (plays : key.Plays Parsed .type) : indexKeyName id (key.after S) = indexKeyName id key := by
  rw [indexKeyName, indexKeyName, identifierOf?_after plays]
  obtain ⟨i, f, rfl, role, -, -, -⟩ := Node.flow_of_typing plays rfl
  rw [Node.after_of_topic_none (topic?_of_type role)]
  cases declared id with
  | some name => rfl
  | none =>
    cases identifierOf? ⟨i, .flow f⟩ with
    | some name => rfl
    | none => cases f <;> rfl

section Params

variable {S : List Topic} {params : List Node} (fits : ∀ p ∈ params, p.Plays Parsed .fnParam)

include fits

theorem paramNamesFrom_after (used : List String) (place : Nat) :
    paramNamesFrom used place (params.map (after S)) = paramNamesFrom used place params := by
  induction params generalizing used place with
  | nil => rfl
  | cons p ps ih =>
    obtain ⟨i, name, type, optional, rfl, isType⟩ := param_cases (fits p List.mem_cons_self)
    have rest := ih fun q member => fits q (List.mem_cons_of_mem _ member)
    rw [List.map_cons, Node.after_of_topic_none rfl, paramNamesFrom, paramNamesFrom]
    cases named : declared name with
    | none =>
      simp only [Node.layer, Node.withForm, Form.map_flow, FlowForm.map, FlowForm.mapM, pure_bind, paramParts?,
        named, paramName, Id.run_pure, identifierOf?_after isType, rest]
    | some name =>
      simp only [Node.layer, Node.withForm, Form.map_flow, FlowForm.map, FlowForm.mapM, pure_bind, paramParts?,
        named, Id.run_pure, rest]

theorem declaredNames_after : declaredNames (params.map (after S)) = declaredNames params := by
  induction params with
  | nil => rfl
  | cons p ps ih =>
    obtain ⟨i, name, type, optional, rfl, -⟩ := param_cases (fits p List.mem_cons_self)
    have rest := ih fun q member => fits q (List.mem_cons_of_mem _ member)
    rw [declaredNames, declaredNames] at rest ⊢
    rw [List.map_cons, List.filterMap_cons, List.filterMap_cons, rest,
      Node.after_of_topic_none rfl]
    rfl

theorem paramNames_after : paramNames (params.map (after S)) = paramNames params := by
  rw [paramNames, paramNames, declaredNames_after fits, paramNamesFrom_after fits]

theorem tsParams_after (names : List String) (types : List Node) :
    tsParams (params.map (after S)) names types = tsParams params names types := by
  induction params generalizing names types with
  | nil => rfl
  | cons p ps ih =>
    cases names with
    | nil => rfl
    | cons name names =>
      cases types with
      | nil => rfl
      | cons type types =>
        obtain ⟨i, named, inner, optional, rfl, -⟩ := param_cases (fits p List.mem_cons_self)
        have rest := ih fun q member => fits q (List.mem_cons_of_mem _ member)
        rw [List.map_cons, tsParams, tsParams, rest, Node.after_of_topic_none rfl]
        rfl

end Params

theorem tsRest_after {S : List Topic} {rest : Option Node}
    (fits : ∀ r, rest = some r → r.Plays Parsed .fnParam) (type : Option Node)
    (others : List String) : tsRest (rest.map (after S)) type others = tsRest rest type others := by
  cases rest with
  | none => rfl
  | some r =>
    obtain ⟨i, name, inner, optional, rfl, -⟩ := param_cases (fits r rfl)
    rw [Option.map_some, Node.after_of_topic_none rfl]
    cases type <;> rfl

section Members

variable {S : List Topic}

theorem member_cases {n : Node} (plays : n.Plays Parsed .typeMember) :
    (∃ i key value optional variance method,
        n = ⟨i, .flow (.prop key value optional variance method)⟩
          ∧ value.Plays Parsed (if method then .fnType else .type))
      ∨ (∃ i id key value variance, n = ⟨i, .flow (.indexer id key value variance)⟩
          ∧ key.Plays Parsed .type ∧ value.Plays Parsed .type)
      ∨ ∃ i type, n = ⟨i, .flow (.spread type)⟩ ∧ type.Plays Parsed .type := by
  obtain ⟨i, f, rfl, role, -, slots, -⟩ := Node.flow_of_typing plays rfl
  cases f with
  | prop key value optional variance method =>
    exact .inl ⟨i, key, value, optional, variance, method, rfl, slots _ List.mem_cons_self⟩
  | indexer id key value variance =>
    exact .inr (.inl ⟨i, id, key, value, variance, rfl, slots (_, key) (by simp [FlowForm.slots]),
      slots (_, value) (by simp [FlowForm.slots])⟩)
  | spread type => exact .inr (.inr ⟨i, type, rfl, slots (_, type) (by simp [FlowForm.slots])⟩)
  | _ => simp [FlowForm.roles, Role.ofExpr] at role

/-- A member of an object type stays what it is. -/
theorem member_after {m : Node} (plays : m.Plays Parsed .typeMember) :
    isIndexer (m.after S) = isIndexer m ∧ isSpread (m.after S) = isSpread m
      ∧ (m.after S).info = m.info ∧ (m.after S).isTs = false
      ∧ isMapped [m.after S] = isMapped [m] := by
  rcases member_cases plays with ⟨i, key, value, optional, variance, method, rfl, -⟩
    | ⟨i, id, key, value, variance, rfl, -, -⟩ | ⟨i, type, rfl, -⟩ <;>
  · rw [Node.after_of_topic_none rfl]
    exact ⟨rfl, rfl, rfl, rfl, rfl⟩

theorem isMapped_after {members : List Node} (fits : ∀ m ∈ members, m.Plays Parsed .typeMember) :
    isMapped (members.map (after S)) = isMapped members := by
  induction members with
  | nil => rfl
  | cons m ms ih =>
    have rest := ih fun p member => fits p (List.mem_cons_of_mem m member)
    obtain ⟨indexer, -, -, -, mapped⟩ := member_after (S := S) (fits m List.mem_cons_self)
    have split : ∀ (n : Node) (ns : List Node),
        isMapped (n :: ns) = if isIndexer n then isMapped [n] else isMapped ns := by
      intro n ns
      rw [isMapped, List.find?_cons]
      cases found : isIndexer n with
      | false => rfl
      | true => simp [isMapped, found]
    rw [List.map_cons, split (m.after S), split m, indexer, rest, mapped]

end Members

/-! ## What is built of converted parts -/

section Build

variable {pos : Int}

/-- The types of a converted union. -/
theorem types_of_union {t : Node} {inner : List Node} (plays : t.Plays Converted .type)
    (form : t.form = .ts (.union inner)) : ∀ u ∈ inner, u.Plays Converted .type := by
  obtain ⟨-, -, slots⟩ := Node.formed_iff.mp plays.2
  rw [form] at slots
  simpa only [Form.slots, TsForm.slots, Role.forall_mem_forAll] using slots

theorem unionOf_plays {types : List Node} (fits : ∀ t ∈ types, t.Plays Converted .type) :
    (unionOf pos types).Plays Converted .type := by
  rw [unionOf, plays_ts_iff]
  simp only [TsForm.slots, Role.forall_mem_forAll]
  refine ⟨by simp [TsForm.roles], trivial, ?_⟩
  intro u member
  obtain ⟨t, among, inside⟩ := List.mem_flatMap.mp member
  split at inside
  next inner form => exact types_of_union (fits t among) form u inside
  next => exact List.mem_singleton.mp inside ▸ fits t among

theorem objectOf_plays {fields spreads : List Node}
    (areFields : ∀ m ∈ fields, m.Plays Converted .typeMember)
    (areSpreads : ∀ t ∈ spreads, t.Plays Converted .type) :
    (objectOf pos fields spreads).Plays Converted .type := by
  have literal : (Node.ts pos (.typeLiteral fields)).Plays Converted .type := by
    rw [plays_ts_iff]
    simp only [TsForm.slots, Role.forall_mem_forAll]
    exact ⟨by simp [TsForm.roles], trivial, areFields⟩
  have intersection : ∀ types : List Node, (∀ t ∈ types, t.Plays Converted .type) →
      (Node.ts pos (.intersection types)).Plays Converted .type := by
    intro types fits
    rw [plays_ts_iff]
    simp only [TsForm.slots, Role.forall_mem_forAll]
    exact ⟨by simp [TsForm.roles], trivial, fits⟩
  unfold objectOf
  split
  · exact literal
  · exact areSpreads _ List.mem_cons_self
  · exact intersection _ areSpreads
  · exact intersection _ (List.forall_mem_cons.mpr ⟨literal, areSpreads⟩)

theorem readOnlyMember_plays {m : Node} (plays : m.Plays Converted .typeMember) :
    (Utility.readOnlyMember m).Plays Converted .typeMember := by
  obtain ⟨-, -, slots⟩ := Node.formed_iff.mp plays.2
  unfold Utility.readOnlyMember
  split
  next key type optional _ form =>
    rw [form] at slots
    have new : (Node.ts m.pos (.propSig key type optional true)).Plays Converted .typeMember :=
      plays_ts_iff.mpr ⟨by simp [TsForm.roles], trivial, slots⟩
    exact plays_of_form new rfl
  next name key value _ form =>
    rw [form] at slots
    have new : (Node.ts m.pos (.indexSig name key value true)).Plays Converted .typeMember :=
      plays_ts_iff.mpr ⟨by simp [TsForm.roles], trivial, slots⟩
    exact plays_of_form new rfl
  next => exact plays

theorem readOnlyType_plays {t : Node} (plays : t.Plays Converted .type) :
    (Utility.readOnlyType t).Plays Converted .type := by
  obtain ⟨-, -, slots⟩ := Node.formed_iff.mp plays.2
  unfold Utility.readOnlyType
  split
  next members form =>
    rw [form] at slots
    simp only [Form.slots, TsForm.slots, Role.forall_mem_forAll] at slots
    rw [plays_ts_iff]
    simp only [TsForm.slots, Role.forall_mem_forAll, List.forall_mem_map]
    exact ⟨by simp [TsForm.roles], trivial, fun m member => readOnlyMember_plays (slots m member)⟩
  next name constraint value _ form =>
    rw [form] at slots
    exact plays_ts_iff.mpr ⟨by simp [TsForm.roles], trivial, slots⟩
  next => exact plays

theorem targs_plays {args : List Node} (fits : ∀ t ∈ args, t.Plays Converted .type) :
    (Node.ts pos (.targs args)).Plays Converted .targs := by
  rw [plays_ts_iff]
  simp only [TsForm.slots, Role.forall_mem_forAll]
  exact ⟨by simp [TsForm.roles], trivial, fits⟩

theorem ref_plays {entity : Node} {targs : Option Node} (isName : entity.Plays Converted .name)
    (fits : ∀ t, targs = some t → t.Plays Converted .targs) :
    (Node.ts pos (.ref entity targs)).Plays Converted .type := by
  rw [plays_ts_iff]
  simp only [TsForm.slots, List.forall_mem_cons, Role.forall_mem_for?]
  exact ⟨by simp [TsForm.roles], trivial, isName, fits⟩

theorem uiEntity_plays {name : String} : (Utility.uiEntity pos name).Plays Converted .name := by
  rw [Utility.uiEntity, plays_ts_iff]
  simp only [TsForm.slots, List.forall_mem_singleton]
  exact ⟨by simp [TsForm.roles], trivial, plays_ident (by simp [ExprForm.roles])⟩

theorem reference_plays {entity : Node} {args : List Node} (isName : entity.Plays Converted .name)
    (fits : ∀ t ∈ args, t.Plays Converted .type) :
    (Utility.reference pos entity args).Plays Converted .type := by
  refine ref_plays isName ?_
  rintro _ ⟨⟩
  exact targs_plays fits

theorem build_plays {u : Utility} {args copies : List Node}
    (fits : ∀ t ∈ args, t.Plays Converted .type) (copied : ∀ t ∈ copies, t.Plays Converted .type) :
    (u.build pos args copies).Plays Converted .type := by
  have named (name : String) : (Node.ident pos name).Plays Converted .name :=
    plays_ident (by simp [ExprForm.roles])
  have leaf (k : TsKeyword) : (Node.ts pos (.keyword k)).Plays Converted .type := by
    rw [plays_ts_iff]
    simp [TsForm.roles, TsForm.Sound, TsForm.slots]
  unfold Utility.build
  split
  · exact fits _ List.mem_cons_self
  · have first := fits _ List.mem_cons_self
    rw [plays_ts_iff]
    simp [TsForm.roles, TsForm.Sound, TsForm.slots, first]
  · have first := fits _ List.mem_cons_self
    have copy := copied _ List.mem_cons_self
    simp [plays_ts_iff, TsForm.roles, TsForm.Sound, TsForm.slots, first, copy]
  · have both := List.forall_mem_cons.mp fits
    have second := both.2 _ List.mem_cons_self
    rw [plays_ts_iff]
    simp [TsForm.roles, TsForm.Sound, TsForm.slots, both.1, second]
  · exact readOnlyType_plays (fits _ List.mem_cons_self)
  · exact reference_plays (named _) fits
  · exact reference_plays (named _) fits
  · exact leaf _
  · exact ref_plays uiEntity_plays (by simp)
  · exact reference_plays uiEntity_plays fits
  · exact leaf _

theorem tsParams_plays {params : List Node} {names : List String} {types : List Node}
    (fits : ∀ t ∈ types, t.Plays Converted .type) :
    ∀ p ∈ tsParams params names types, p.Plays Converted .fnParam := by
  induction params generalizing names types with
  | nil => simp [tsParams]
  | cons p ps ih =>
    cases names with
    | nil => simp [tsParams]
    | cons name names =>
      cases types with
      | nil => simp [tsParams]
      | cons type types =>
        obtain ⟨first, rest⟩ := List.forall_mem_cons.mp fits
        rw [tsParams, List.forall_mem_cons]
        refine ⟨?_, ih rest⟩
        rw [plays_ts_iff]
        simp [TsForm.roles, TsForm.Sound, TsForm.slots, first]

theorem tsRest_plays {rest type : Option Node} {others : List String}
    (fits : ∀ t, type = some t → t.Plays Converted .type) :
    ∀ p, tsRest rest type others = some p → p.Plays Converted .fnParam := by
  intro p found
  unfold tsRest at found
  split at found
  next r t =>
    cases found
    rw [plays_ts_iff]
    simp [TsForm.roles, TsForm.Sound, TsForm.slots, fits t rfl]
  next => cases found

end Build

end Retype.Convert
