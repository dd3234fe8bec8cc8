import Retype.Proofs.Convert.Object

/-!
# One layer of a conversion

`TypeStep R` says what a type of the source becomes, if the types directly inside it become what a
relation `R` says.  It has one rule for each way in which a layer is converted, and the helpers of
the conversion stand in the rules as they are.

A relation that holds of every such layer holds of every type of the source and the type that it is
converted to (`holds_of_convertType`).  Facts about converted types are proved from that, one rule
at a time, and the monad of the conversion does not show in them.
-/

namespace Retype.Convert

open Node (Parsed)
open Outcome (Gives gives_pure gives_then)

section Rules

variable (R : Node → Node → Prop)

/-- What a member of an object type becomes.  Comments are left out. -/
inductive MemberStep : Node → Node → Prop
  | field {i : Info} {key : String} {t u : Node} {optional : Bool} {variance : Option Variance}
      (type : R t u) : MemberStep ⟨i, .flow (.prop key t optional variance false)⟩
        (.ts i.pos (.propSig key u optional (isCovariant variance)))
  | method {i : Info} {key : String} {t u : Node} {optional : Bool} {variance : Option Variance}
      (type : R t u) : MemberStep ⟨i, .flow (.prop key t optional variance true)⟩
        (.ts i.pos (.methodSig key u optional))
  | indexer {i : Info} {name : Option String} {key value k v : Node} {variance : Option Variance}
      (keyType : R key k) (valueType : R value v) :
      MemberStep ⟨i, .flow (.indexer name key value variance)⟩
        (.ts i.pos (.indexSig (indexKeyName name key) k v (isCovariant variance)))
  | spread {i : Info} {t u : Node} (type : R t u) : MemberStep ⟨i, .flow (.spread t)⟩ u

/-- What a parameter of a function type becomes. -/
inductive ParamStep : Node → Node → Prop
  | param {i : Info} {name : Option String} {new : String} {t u : Node} {optional still : Bool}
      (type : R t u) :
      ParamStep ⟨i, .flow (.param name t optional)⟩ (.ts i.pos (.param new u still))

/-- What a type parameter becomes. -/
inductive TparamStep : Node → Node → Prop
  | tparam {i : Info} {name : String} {bound default b d : Option Node} {variance : Option Variance}
      (boundType : Option.Rel R bound b) (defaultType : Option.Rel R default d) :
      TparamStep ⟨i, .flow (.tparam name bound default variance)⟩ (.ts i.pos (.tparam name b d))

/-- What a list of type parameters becomes. -/
inductive TparamsStep : Node → Node → Prop
  | tparams {i : Info} {params us : List Node} (each : List.Forall₂ (TparamStep R) params us) :
      TparamsStep ⟨i, .flow (.tparams params)⟩ (.ts i.pos (.tparams us))

/-- What a list of type arguments becomes. -/
inductive TargsStep : Node → Node → Prop
  | targs {i : Info} {types us : List Node} (each : List.Forall₂ R types us) :
      TargsStep ⟨i, .flow (.targs types)⟩ (.ts i.pos (.targs us))

/-- What a type becomes, if the types in it become what `R` says. -/
inductive TypeStep : Node → Node → Prop
  | keyword {i : Info} {p : FlowPrimitive} :
      TypeStep ⟨i, .flow (.primitive p)⟩ (.ts i.pos (.keyword p.toTs))
  | literal {i : Info} {f : FlowForm Node} {raw : String}
      (isLiteral : f = .stringLit raw ∨ f = .numberLit raw ∨ f = .booleanLit raw) :
      TypeStep ⟨i, .flow f⟩ (.ts i.pos (.literal raw))
  | nullable {i : Info} {t u : Node} (type : R t u) :
      TypeStep ⟨i, .flow (.nullable t)⟩ (unionOf i.pos [u, .ts i.pos (.keyword .null)])
  | array {i : Info} {t u : Node} (type : R t u) :
      TypeStep ⟨i, .flow (.array t)⟩ (.ts i.pos (.array u))
  | tuple {i : Info} {ts us : List Node} (types : List.Forall₂ R ts us) :
      TypeStep ⟨i, .flow (.tuple ts)⟩ (.ts i.pos (.tuple us))
  | union {i : Info} {ts us : List Node} (types : List.Forall₂ R ts us) :
      TypeStep ⟨i, .flow (.union ts)⟩ (unionOf i.pos us)
  | intersection {i : Info} {ts us : List Node} (types : List.Forall₂ R ts us) :
      TypeStep ⟨i, .flow (.intersection ts)⟩ (.ts i.pos (.intersection us))
  | mapped {i j : Info} {before after : List Node} {exact : Bool} {name : Option String}
      {key value k v : Node} {variance : Option Variance}
      (first : ∀ m ∈ before, isIndexer m = false) (named : (declared name).isSome)
      (keyType : R key k) (valueType : R value v) :
      TypeStep ⟨i, .flow (.object (before ++ ⟨j, .flow (.indexer name key value variance)⟩ :: after)
          exact)⟩
        (.ts i.pos (.mapped mappedName k v (isCovariant variance)))
  | object {i : Info} {members : List Node} {exact : Bool} {value : Node → Node}
      (plain : isMapped members = false) (each : ∀ m ∈ members, MemberStep R m (value m)) :
      TypeStep ⟨i, .flow (.object members exact)⟩
        (objectOf i.pos (fieldsOf value false members) ((members.filter isSpread).map value))
  | function {i : Info} {tparams tps rest r : Option Node} {params ps : List Node} {t u : Node}
      (tparamsStep : Option.Rel (TparamsStep R) tparams tps)
      (paramsStep : List.Forall₂ (ParamStep R) params ps)
      (restStep : Option.Rel (ParamStep R) rest r) (type : R t u) :
      TypeStep ⟨i, .flow (.function tparams params rest t)⟩ (.ts i.pos (.function tps ps r u))
  | operation {i : Info} {name : Node} {targs : Option Node} {u : Utility} {args : List Node}
      (found : utilityOf? name targs = some u)
      (types : List.Forall₂ R (Node.operands u targs) args) :
      TypeStep ⟨i, .flow (.generic name targs)⟩
        (u.build i.pos args (if u.usesCopy then args else []))
  | reference {i : Info} {name entity : Node} {targs new : Option Node}
      (found : utilityOf? name targs = none) (isName : name.Plays Parsed .name)
      (isEntity : referenceEntity id name targs = .ok entity)
      (targsStep : Option.Rel (TargsStep R) targs new) :
      TypeStep ⟨i, .flow (.generic name targs)⟩ (.ts i.pos (.ref entity new))
  | typeOfName {i j : Info} {name e : Node} {targs : Option Node} (isName : name.Plays Parsed .name)
      (isEntity : entity id name = .ok e) :
      TypeStep ⟨i, .flow (.typeOf ⟨j, .flow (.generic name targs)⟩)⟩ (.ts i.pos (.typeOf e))
  | typeOfType {i : Info} {t u : Node} (other : ∀ j name targs, t ≠ ⟨j, .flow (.generic name targs)⟩)
      (type : R t u) : TypeStep ⟨i, .flow (.typeOf t)⟩ u

variable {R}

/-- What a spread becomes is what its type becomes. -/
theorem MemberStep.of_spread {m u : Node} (step : MemberStep R m u) (spread : isSpread m) :
    ∃ t, m.form = .flow (.spread t) ∧ R t u := by
  cases step with
  | field | method | indexer => cases spread
  | spread type => exact ⟨_, rfl, type⟩

/-- Whatever stands in the second of two rows comes from the first. -/
theorem exists_of_forall₂ {S : Node → Node → Prop} {ts us : List Node} {u : Node}
    (each : List.Forall₂ S ts us) (member : u ∈ us) : ∃ t ∈ ts, S t u := by
  induction each with
  | nil => cases member
  | @cons t v ts us turned _ ih =>
    rcases List.mem_cons.mp member with rfl | later
    · exact ⟨t, List.mem_cons_self, turned⟩
    · obtain ⟨t', among, other⟩ := ih later
      exact ⟨t', List.mem_cons_of_mem t among, other⟩

end Rules

section Layers

variable {R : Node → Node → Prop} {n : Node}

/-- The types below a node become what a relation says. -/
def TurnBelow (R : Node → Node → Prop) (n : Node) : Prop :=
  ∀ t ∈ n.descendants, t.Plays Parsed .type → (convertType id t).Gives (R t)

theorem TurnBelow.child {c : Node} (below : TurnBelow R n) (child : c ∈ n.children) :
    TurnBelow R c := fun t lower =>
  below t (Node.descendants_trans (Node.descendants_subset_preorder lower)
    (Node.child_mem_descendants child))

theorem TurnBelow.type {t : Node} (below : TurnBelow R n) (child : t ∈ n.children)
    (plays : t.Plays Parsed .type) : (convertType id t).Gives (R t) :=
  below t (Node.child_mem_descendants child) plays

theorem TurnBelow.slot {s : Role × Node} (below : TurnBelow R n) (slot : s ∈ n.form.slots) :
    TurnBelow R s.2 :=
  below.child (Node.mem_children_of_slot slot)

/-! ## Types in a row -/

theorem gives_convertTypes_step {types : List Node}
    (each : ∀ t ∈ types, (convertType id t).Gives (R t)) :
    (convertTypes id types).Gives (List.Forall₂ R types) := by
  induction types with
  | nil => exact gives_pure .nil
  | cons t ts ih =>
    obtain ⟨first, rest⟩ := List.forall_mem_cons.mp each
    rw [convertTypes]
    exact first.bind fun u turned => (ih rest).map fun us others => .cons turned others

theorem gives_convertType?_step {type : Option Node}
    (each : ∀ t, type = some t → (convertType id t).Gives (R t)) :
    (convertType? id type).Gives (Option.Rel R type) := by
  cases type with
  | none => exact gives_pure .none
  | some t =>
    rw [convertType?]
    exact (each t rfl).map fun u turned => .some turned

/-! ## Parts of types -/

theorem gives_convertTparams_step {tparams : Option Node}
    (fits : ∀ t, tparams = some t → t.Plays Parsed .tparams)
    (below : ∀ t, tparams = some t → TurnBelow R t) :
    (convertTparams id tparams).Gives (Option.Rel (TparamsStep R) tparams) := by
  have row : ∀ params : List Node, (∀ p ∈ params, p.Plays Parsed .tparam) →
      (∀ p ∈ params, TurnBelow R p) →
      (convertTparamList id params).Gives (List.Forall₂ (TparamStep R) params) := by
    intro params areTparams inside
    induction params with
    | nil => exact gives_pure .nil
    | cons p ps ih =>
      obtain ⟨isTparam, others⟩ := List.forall_mem_cons.mp areTparams
      obtain ⟨insideFirst, insideRest⟩ := List.forall_mem_cons.mp inside
      obtain ⟨i, name, bound, default, variance, rfl, isBound, isDefault⟩ := tparam_cases isTparam
      have child : ∀ t, bound = some t ∨ default = some t →
          t ∈ (⟨i, .flow (.tparam name bound default variance)⟩ : Node).children := by
        intro t found
        refine Node.mem_children_of_slot (s := (.type, t)) ?_
        simpa [Form.slots, FlowForm.slots, Role.for?] using found
      rw [convertTparamList]
      refine gives_then (Gives.bind (gives_convertType?_step fun t found =>
        insideFirst.type (child t (.inl found)) (isBound t found)) fun b boundType => ?_)
      refine Gives.bind (gives_convertType?_step fun t found =>
        insideFirst.type (child t (.inr found)) (isDefault t found)) fun d defaultType => ?_
      exact (ih others insideRest).map fun us rest => .cons (.tparam boundType defaultType) rest
  cases tparams with
  | none => exact gives_pure .none
  | some t =>
    have inside := below t rfl
    obtain ⟨i, f, rfl, role, -, slots, -⟩ := Node.flow_of_typing (fits t rfl) rfl
    cases f with
    | tparams params =>
      rw [convertTparams]
      refine (row params (Role.forall_mem_forAll.mp slots) fun p member =>
        inside.slot (s := (.tparam, p)) (List.mem_map_of_mem member)).map fun us each => ?_
      exact .some (.tparams each)
    | _ => simp [FlowForm.roles, Role.ofExpr] at role

theorem gives_convertTargs_step {targs : Option Node}
    (fits : ∀ t, targs = some t → t.Plays Parsed .targs)
    (below : ∀ t, targs = some t → TurnBelow R t) :
    (convertTargs id targs).Gives (Option.Rel (TargsStep R) targs) := by
  cases targs with
  | none => exact gives_pure .none
  | some t =>
    have inside := below t rfl
    obtain ⟨i, f, rfl, role, sound, slots, -⟩ := Node.flow_of_typing (fits t rfl) rfl
    cases f with
    | targs types =>
      have areTypes := Role.forall_mem_forAll.mp slots
      have turned : ∀ t ∈ types, (convertType id t).Gives (R t) := fun t member =>
        inside.type (by rwa [children_targs]) (areTypes t member)
      rw [convertTargs]
      intro new result
      obtain ⟨us, found, rfl⟩ := Outcome.ok_of_map result
      rw [convertEach_eq fun t member => converts_of_plays (areTypes t member)] at found
      have each := gives_convertTypes_step turned us found
      -- a list of type arguments is not empty, and nothing of it is dropped
      have filled : us.isEmpty = false := by
        cases each with
        | nil => exact absurd rfl sound
        | cons => rfl
      rw [filled]
      exact .some (.targs each)
    | _ => simp [FlowForm.roles, Role.ofExpr] at role

theorem gives_convertParams_step {params : List Node} (names : List String)
    (fits : ∀ p ∈ params, p.Plays Parsed .fnParam) (below : ∀ p ∈ params, TurnBelow R p)
    (named : names.length = params.length) :
    (convertParams id params).Gives fun types =>
      List.Forall₂ (ParamStep R) params (tsParams params names types) := by
  induction params generalizing names with
  | nil => exact gives_pure (by rw [tsParams]; exact .nil; simp)
  | cons p ps ih =>
    obtain ⟨isParam, others⟩ := List.forall_mem_cons.mp fits
    obtain ⟨insideFirst, insideRest⟩ := List.forall_mem_cons.mp below
    obtain ⟨i, name, type, optional, rfl, isType⟩ := param_cases isParam
    cases names with
    | nil => cases named
    | cons new names =>
      rw [convertParams]
      refine Gives.bind (insideFirst.type
        (by simp [Node.children, Form.children, Form.parts, FlowForm.parts]) isType) fun u turned => ?_
      refine (ih names others insideRest (Nat.succ.inj named)).map fun us rest => ?_
      rw [tsParams]
      exact .cons (.param turned) rest

theorem gives_convertRest_step {rest : Option Node} (names : List String)
    (fits : ∀ r, rest = some r → r.Plays Parsed .fnParam)
    (below : ∀ r, rest = some r → TurnBelow R r) :
    (convertRest id rest).Gives fun type => Option.Rel (ParamStep R) rest (tsRest rest type names) := by
  cases rest with
  | none => exact gives_pure .none
  | some r =>
    have inside := below r rfl
    obtain ⟨i, name, type, optional, rfl, isType⟩ := param_cases (fits r rfl)
    rw [convertRest]
    refine Gives.map (inside.type
      (by simp [Node.children, Form.children, Form.parts, FlowForm.parts]) isType) fun u turned => ?_
    exact .some (.param turned)

/-! ## Members -/

theorem convertFunction_eq {t : Node} (plays : t.Plays Parsed .fnType) :
    convertFunction id t = convertType id t := by
  obtain ⟨-, -, -, same⟩ := isFunctionType_of_fnType plays
  simpa only [Node.after_nil] using same id []

theorem gives_convertMember_step {m : Node} (plays : m.Plays Parsed .typeMember)
    (below : TurnBelow R m) : (convertMember id m).Gives (MemberStep R m) := by
  rcases member_cases plays with ⟨i, key, value, optional, variance, method, rfl, fits⟩
    | ⟨i, name, key, value, variance, rfl, isKey, isValue⟩ | ⟨i, type, rfl, isType⟩
  · have child : value ∈ (⟨i, .flow (.prop key value optional variance method)⟩ : Node).children := by
      simp [Node.children, Form.children, Form.parts, FlowForm.parts]
    rw [convertMember]
    refine gives_then ?_
    cases method with
    | true =>
      rw [if_pos rfl, convertFunction_eq fits]
      exact (below.type child (isFunctionType_of_fnType fits).1).map fun u turned => .method turned
    | false => exact (below.type child fits).map fun u turned => .field turned
  · have child : ∀ t, t = key ∨ t = value →
        t ∈ (⟨i, .flow (.indexer name key value variance)⟩ : Node).children := by
      simp [Node.children, Form.children, Form.parts, FlowForm.parts]
    rw [convertMember]
    refine gives_then (Gives.bind (below.type (child key (.inl rfl)) isKey) fun k keyType => ?_)
    exact (below.type (child value (.inr rfl)) isValue).map fun v valueType =>
      .indexer keyType valueType
  · rw [convertMember]
    intro u found
    refine .spread (below.type ?_ isType u found)
    simp [Node.children, Form.children, Form.parts, FlowForm.parts]

/-- The value of the conversion of a member. -/
def memberValue (m : Node) : Node := (convertMember id m).toOption.getD m

/-- Every member of the source is converted. -/
theorem convertMember_result {m : Node} (plays : m.Plays Parsed .typeMember) :
    (convertMember id m).result = .ok (memberValue m) := by
  obtain ⟨u, -, yields⟩ := member_yields plays (typesYieldBelow m)
  have found : (convertMember id m).result = .ok u := by
    simpa only [Node.after_nil] using yields id [] fixes_id
  rw [memberValue, Outcome.toOption, found]
  rfl

theorem isTs_of_typeMember {m : Node} (plays : m.Plays Parsed .typeMember) : m.isTs = false := by
  obtain ⟨-, -, -, plain, -⟩ := member_after (S := []) plays
  simpa only [Node.after_nil] using plain

/-- The indexer that comes first, and the members around it. -/
theorem exists_of_isMapped {members : List Node} (mapped : isMapped members) :
    ∃ before j name key value variance after,
      members = before ++ ⟨j, .flow (.indexer name key value variance)⟩ :: after
        ∧ (∀ m ∈ before, isIndexer m = false) ∧ (declared name).isSome := by
  unfold isMapped at mapped
  split at mapped
  next j name key value variance found =>
    obtain ⟨-, before, after, split, first⟩ := List.find?_eq_some_iff_append.mp found
    exact ⟨before, j, name, key, value, variance, after, split, by simpa using first, mapped⟩
  next => cases mapped

theorem gives_object_step {i : Info} {members : List Node} {exact : Bool}
    (fits : ∀ m ∈ members, m.Plays Parsed .typeMember) (below : ∀ m ∈ members, TurnBelow R m) :
    (convertType id ⟨i, .flow (.object members exact)⟩).Gives
      (TypeStep R ⟨i, .flow (.object members exact)⟩) := by
  rw [convertType]
  split
  next mapped =>
    obtain ⟨before, j, name, key, value, variance, after, rfl, first, named⟩ :=
      exists_of_isMapped mapped
    have among : ⟨j, .flow (.indexer name key value variance)⟩
        ∈ before ++ ⟨j, .flow (.indexer name key value variance)⟩ :: after := by simp
    have inside := below _ among
    have slots := (Node.formed_iff.mp (fits _ among).2).2.2
    simp only [Form.slots, FlowForm.slots, List.forall_mem_cons] at slots
    have child : ∀ t, t = key ∨ t = value →
        t ∈ (⟨j, .flow (.indexer name key value variance)⟩ : Node).children := by
      simp [Node.children, Form.children, Form.parts, FlowForm.parts]
    rw [convertMapped_append first, convertMapped]
    refine gives_then (gives_then (Gives.bind (inside.type (child key (.inl rfl)) slots.1)
      fun k keyType => ?_))
    exact (inside.type (child value (.inr rfl)) slots.2.1).map fun v valueType =>
      .mapped first named keyType valueType
  next plain =>
    have plain : isMapped members = false := by simpa using plain
    rw [convertFields_eq false (fun m member => isTs_of_typeMember (fits m member))
      fun m member => convertMember_result (fits m member)]
    refine gives_pure (.object plain fun m member => ?_)
    exact gives_convertMember_step (fits m member) (below m member) _
      (convertMember_result (fits m member))

/-! ## Types -/

theorem gives_generic_step {i : Info} {name : Node} {targs : Option Node}
    (isName : name.Plays Parsed .name) (fits : ∀ t, targs = some t → t.Plays Parsed .targs)
    (below : ∀ t, targs = some t → TurnBelow R t) :
    (convertType id ⟨i, .flow (.generic name targs)⟩).Gives
      (TypeStep R ⟨i, .flow (.generic name targs)⟩) := by
  rw [convertType]
  split
  next u found =>
    have each : ∀ t ∈ Node.operands u targs, (convertType id t).Gives (R t) := by
      intro t member
      have among : t ∈ argumentsOf targs := by
        unfold Node.operands at member
        split at member
        · exact List.mem_of_mem_take member
        · exact member
      cases targs with
      | none => cases among
      | some a =>
        have inside := below a rfl
        obtain ⟨j, f, rfl, role, -, slots, -⟩ := Node.flow_of_typing (fits a rfl) rfl
        cases f with
        | targs types =>
          exact inside.type (by rwa [children_targs]) (Role.forall_mem_forAll.mp slots t among)
        | _ => simp [FlowForm.roles, Role.ofExpr] at role
    intro new result
    obtain ⟨args, converted, rfl⟩ := Outcome.ok_of_map result
    have copies : (if u.usesCopy then convertArguments id u.usesFirst targs else pure []).toOption.getD []
        = if u.usesCopy then args else [] := by
      cases u.usesCopy with
      | true => simp only [if_true, Outcome.toOption, converted]; rfl
      | false => rfl
    rw [copies]
    rw [convertArguments_eq fits] at converted
    exact .operation found (gives_convertTypes_step each args converted)
  next found =>
    refine Gives.bind (P := fun entity => referenceEntity id name targs = .ok entity)
      (fun entity isEntity => isEntity) fun entity isEntity => ?_
    exact (gives_convertTargs_step fits below).map fun new step =>
      .reference found isName isEntity step

/-- A layer of the source is converted as the rules say. -/
theorem gives_typeStep (plays : n.Plays Parsed .type) (below : TurnBelow R n) :
    (convertType id n).Gives (TypeStep R n) := by
  obtain ⟨i, f, rfl, role, -, slots, -⟩ := Node.flow_of_typing plays rfl
  have inside : ∀ s ∈ f.slots, TurnBelow R s.2 := fun s slot => below.slot slot
  have turns : ∀ s ∈ f.slots, s.1 = .type → (convertType id s.2).Gives (R s.2) :=
    fun s slot isType => below.type (Node.mem_children_of_slot slot) (isType ▸ slots s slot)
  have row {types : List Node} (same : f.slots = Role.type.forAll types) :
      (convertTypes id types).Gives (List.Forall₂ R types) :=
    gives_convertTypes_step fun t member =>
      turns (.type, t) (by rw [same]; exact List.mem_map_of_mem member) rfl
  cases f with
  | primitive p => exact gives_pure .keyword
  | stringLit raw => exact gives_pure (.literal (.inl rfl))
  | numberLit raw => exact gives_pure (.literal (.inr (.inl rfl)))
  | booleanLit raw => exact gives_pure (.literal (.inr (.inr rfl)))
  | nullable t =>
    rw [convertType]
    exact (turns _ List.mem_cons_self rfl).map fun u turned => .nullable turned
  | array t =>
    rw [convertType]
    exact (turns _ List.mem_cons_self rfl).map fun u turned => .array turned
  | tuple types =>
    rw [convertType]
    exact (row rfl).map fun us turned => .tuple turned
  | union types =>
    rw [convertType]
    exact (row rfl).map fun us turned => .union turned
  | intersection types =>
    rw [convertType]
    exact (row rfl).map fun us turned => .intersection turned
  | object members exact =>
    exact gives_object_step (Role.forall_mem_forAll.mp slots) fun m member =>
      inside (.typeMember, m) (List.mem_map_of_mem member)
  | function tparams params rest t =>
    simp only [FlowForm.slots, List.forall_mem_append, Role.forall_mem_for?, Role.forall_mem_forAll,
      List.forall_mem_singleton] at slots inside
    obtain ⟨⟨⟨areTparams, areParams⟩, isRest⟩, -⟩ := slots
    obtain ⟨⟨⟨tparamsInside, paramsInside⟩, restInside⟩, -⟩ := inside
    rw [convertType]
    refine Gives.bind (gives_convertParams_step (paramNames params) areParams paramsInside
      (length_paramNames params)) fun types paramsStep => ?_
    refine Gives.bind (gives_convertRest_step (paramNames params) isRest restInside)
      fun restType restStep => ?_
    refine Gives.bind (gives_convertTparams_step areTparams tparamsInside) fun tps tparamsStep => ?_
    refine Gives.map (turns (.type, t) (by simp [FlowForm.slots]) rfl) fun u turned => ?_
    exact .function tparamsStep paramsStep restStep turned
  | generic name targs =>
    simp only [FlowForm.slots, List.forall_mem_cons, Role.forall_mem_for?] at slots inside
    exact gives_generic_step slots.1 slots.2 inside.2
  | typeOf t =>
    have turned := turns _ List.mem_cons_self rfl
    by_cases reference : ∃ j name targs, t = ⟨j, .flow (.generic name targs)⟩
    · obtain ⟨j, name, targs, rfl⟩ := reference
      have isName : name.Plays Parsed .name :=
        (Node.formed_iff.mp (slots _ List.mem_cons_self).2).2.2 _ List.mem_cons_self
      rw [convertType]
      exact Gives.map (P := fun e => entity id name = .ok e) (fun e isEntity => isEntity)
        fun e isEntity => .typeOfName isName isEntity
    · have other : ∀ j name targs, t ≠ ⟨j, .flow (.generic name targs)⟩ :=
        fun j name targs same => reference ⟨j, name, targs, same⟩
      rw [convertType]
      · exact gives_then fun u found => .typeOfType other (turned u found)
      · exact fun j name targs same => other j name targs same
  | _ => simp [FlowForm.roles, Role.ofExpr] at role

/-- What holds of every layer holds of every type of the source and what it is converted to. -/
theorem holds_of_convertType (step : ∀ n u, TypeStep R n u → R n u) {n u : Node}
    (plays : n.Plays Parsed .type) (result : (convertType id n).result = .ok u) : R n u := by
  have turns : ∀ n : Node, n.Plays Parsed .type → (convertType id n).Gives (R n) := by
    intro n
    induction n using Node.descend with
    | step n ih =>
      intro plays u found
      exact step n u (gives_typeStep plays ih u found)
  exact turns n plays u result

end Layers

end Retype.Convert
