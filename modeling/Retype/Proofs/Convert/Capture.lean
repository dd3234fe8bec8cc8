import Retype.Proofs.Convert.Loss
import Retype.Proofs.Convert.Mention
import Retype.Proofs.Parse.Grid

/-!
# Mapped types capture one name

The variable of a mapped type always has the same name.  A reference to that name which is free in
the key or in the value of the indexer denotes the variable afterwards.  No other reference changes
what it denotes: each reference in a converted type is one of the source at the same place, with the
same binder, or one to a name that the conversion brings in.
-/

namespace Retype

open Retype.Convert
open Node (Parsed)

namespace Convert

/-- The names of types that a conversion brings in. -/
def broughtNames : List String :=
  ["ReturnType", "Exclude", "ReadonlyArray", "Partial", "NonNullable", "React.SyntheticEvent",
    "React.MouseEvent", "React.KeyboardEvent", "React.ReactNode", "React.ReactElement"]

end Convert

namespace Node

/-- Whether an object type becomes a mapped type whose variable captures a reference. -/
def capturesHere (n : Node) : Bool :=
  match n.form with
  | .flow (.object members _) =>
    match members.find? isIndexer with
    | some ⟨_, .flow (.indexer name key value _)⟩ =>
      (Convert.declared name).isSome && decide (key.Free mappedName ∨ value.Free mappedName)
    | _ => false
  | _ => false

/-- Whether a reference is captured somewhere in a type. -/
def Captures (n : Node) : Prop := ∃ t ∈ n.preorder, t.capturesHere

instance (n : Node) : Decidable n.Captures := inferInstanceAs (Decidable (∃ _ ∈ _, _))

theorem Captures.of_child {n c : Node} (captures : c.Captures) (child : c ∈ n.children) :
    n.Captures := by
  obtain ⟨t, member, here⟩ := captures
  exact ⟨t, preorder_trans member (descendants_subset_preorder (child_mem_descendants child)), here⟩

theorem capturesHere_of_free {i j : Info} {before after : List Node} {exact : Bool}
    {name : Option String} {key value : Node} {variance : Option Variance}
    (first : ∀ m ∈ before, isIndexer m = false) (named : (Convert.declared name).isSome)
    (free : key.Free mappedName ∨ value.Free mappedName) :
    capturesHere ⟨i, .flow (.object (before ++ ⟨j, .flow (.indexer name key value variance)⟩ :: after)
      exact)⟩ := by
  have none : before.find? isIndexer = none := by simpa using first
  have found : (before ++ ⟨j, .flow (.indexer name key value variance)⟩ :: after).find? isIndexer
      = some ⟨j, .flow (.indexer name key value variance)⟩ := by
    rw [List.find?_append, none]
    rfl
  simp [capturesHere, found, named, free]

end Node

namespace Convert

/-! ## Where a reference comes from -/

/-- Where a reference in the converted type of `n` comes from, if the type stands in a scope. -/
inductive Origin (n : Node) (scope : Scope) (m : Mention) : Prop
  /-- It is a reference of the source, and it denotes the same. -/
  | same (member : m ∈ n.mentions scope)
  /-- It is new. -/
  | brought (name : m.name ∈ broughtNames)
  /-- It is captured. -/
  | captured (name : m.name = mappedName) (bound : m.binder.isSome) (captures : n.Captures)

/-- Every reference in a type comes from another type. -/
def Keeps (n u : Node) : Prop := ∀ scope, ∀ m ∈ u.mentions scope, Origin n scope m

section Parts

variable {n c : Node} {scope : Scope} {m : Mention} {pos : Int} {f : TsForm Node}

theorem Origin.of_child (origin : Origin c (n.binds ++ scope) m) (child : c ∈ n.children)
    (type : n.isValueQuery = false) : Origin n scope m := by
  cases origin with
  | same member => exact .same (Node.mentions_child child type member)
  | brought name => exact .brought name
  | captured name bound captures => exact .captured name bound (captures.of_child child)

theorem Origin.of_slot {s : Role × Node} (origin : Origin s.2 (n.binds ++ scope) m)
    (slot : s ∈ n.form.slots) (type : n.isValueQuery = false) : Origin n scope m :=
  origin.of_child (Node.mem_children_of_slot slot) type

/-- The references in a converted type that is no reference itself stand in its parts. -/
theorem exists_of_mentions_ts (plain : (Node.ts pos f).refers? = none)
    (member : m ∈ (Node.ts pos f).mentions scope) :
    ∃ s ∈ f.slots, m ∈ s.2.mentions ((Node.ts pos f).binds ++ scope) := by
  rcases Node.mentions_cases member with ⟨name, refers, -⟩ | ⟨-, c, child, inner⟩
  · rw [plain] at refers
    cases refers
  · rw [Node.children, Form.children_eq_slots (by simp [Node.ts, Node.plain])] at child
    obtain ⟨s, slot, rfl⟩ := List.mem_map.mp child
    exact ⟨s, slot, inner⟩

section Rows

variable {S : Node → Node → Prop} (keeps : ∀ {t u}, S t u → Keeps t u)

include keeps

/-- What stands in a row comes from the row in the source. -/
theorem exists_of_keeps {ts us : List Node} (row : List.Forall₂ S ts us) {u : Node} (among : u ∈ us)
    (member : m ∈ u.mentions scope) : ∃ t ∈ ts, Origin t scope m := by
  obtain ⟨t, source, step⟩ := exists_of_forall₂ row among
  exact ⟨t, source, keeps step scope m member⟩

theorem exists_of_keeps? {t? u? : Option Node} (step : Option.Rel S t? u?) {u : Node}
    (among : u? = some u) (member : m ∈ u.mentions scope) : ∃ t, t? = some t ∧ Origin t scope m := by
  cases step with
  | none => cases among
  | some step =>
    cases among
    exact ⟨_, rfl, keeps step scope m member⟩

end Rows

theorem exists_of_mentions_unionOf {types : List Node}
    (member : m ∈ (unionOf pos types).mentions scope) : ∃ t ∈ types, m ∈ t.mentions scope := by
  obtain ⟨s, slot, inner⟩ := exists_of_mentions_ts rfl member
  obtain ⟨u, among, rfl⟩ := List.mem_map.mp slot
  obtain ⟨t, source, among⟩ := List.mem_flatMap.mp among
  refine ⟨t, source, ?_⟩
  split at among
  next types form =>
    -- the members of a union have the scope of the union
    have type : t.isValueQuery = false := by simp [Node.isValueQuery, form]
    have none : t.binds = [] := by simp [Node.binds, form]
    refine Node.mentions_child (c := u) ?_ type ?_
    · simpa [Node.children, form, Form.children, Form.parts, TsForm.parts] using among
    · rw [none]
      exact inner
  next =>
    cases List.mem_singleton.mp among
    exact inner

theorem exists_of_mentions_objectOf {fields spreads : List Node}
    (member : m ∈ (objectOf pos fields spreads).mentions scope) :
    ∃ t ∈ fields ++ spreads, m ∈ t.mentions scope := by
  -- the parts of an object type are spreads, and a type literal with the fields
  have inPart : ∀ t ∈ objectParts pos fields spreads, m ∈ t.mentions scope →
      ∃ t ∈ fields ++ spreads, m ∈ t.mentions scope := by
    intro t part inner
    unfold objectParts at part
    rcases List.mem_append.mp part with literal | spread
    · split at literal
      · cases literal
      · cases List.mem_singleton.mp literal
        obtain ⟨s, slot, inner⟩ := exists_of_mentions_ts rfl inner
        obtain ⟨field, among, rfl⟩ := List.mem_map.mp slot
        exact ⟨field, List.mem_append_left _ among, inner⟩
    · exact ⟨t, List.mem_append_right _ spread, inner⟩
  rw [objectOf_eq] at member
  unfold intersectionOf at member
  split at member
  next t single => exact inPart t (single ▸ List.mem_cons_self) member
  next =>
    obtain ⟨s, slot, inner⟩ := exists_of_mentions_ts rfl member
    obtain ⟨t, part, rfl⟩ := List.mem_map.mp slot
    exact inPart t part inner

theorem mentions_readOnlyMember {t : Node} : (Utility.readOnlyMember t).mentions = t.mentions := by
  unfold Utility.readOnlyMember
  split
  next form =>
    rw [Node.mentions_keepComments]
    apply Node.mentions_congr <;> simp [Node.pos, Node.refers?, Node.isValueQuery, Node.binds,
      Node.children, form, Node.ts, Node.plain, Form.children, Form.parts, TsForm.parts]
  next form =>
    rw [Node.mentions_keepComments]
    apply Node.mentions_congr <;> simp [Node.pos, Node.refers?, Node.isValueQuery, Node.binds,
      Node.children, form, Node.ts, Node.plain, Form.children, Form.parts, TsForm.parts]
  next => rfl

/-- A type keeps its references if it can no longer be written to. -/
theorem mentions_readOnlyType {t : Node} : (Utility.readOnlyType t).mentions = t.mentions := by
  unfold Utility.readOnlyType
  split
  next form =>
    funext scope
    rw [Node.mentions_eq, Node.mentions_eq t]
    simp [Node.refers?, Node.isValueQuery, Node.binds, Node.children, form, Node.ts, Node.plain,
      Form.children, Form.parts, TsForm.parts, List.flatMap_map, mentions_readOnlyMember]
  next form =>
    apply Node.mentions_congr <;> simp [Node.pos, Node.refers?, Node.isValueQuery, Node.binds,
      Node.children, form, Node.ts, Node.plain, Form.children, Form.parts, TsForm.parts]
  next => rfl

/-! ## Names -/

theorem mentions_ident {i : Info} {name : String} :
    (⟨i, .expr (.ident name)⟩ : Node).mentions scope = [] := by
  rw [Node.mentions_eq]
  rfl

theorem mentions_qualified {left : Node} {name : String} (none : left.mentions scope = []) :
    (Node.ts pos (.qualified left name)).mentions scope = [] := by
  refine List.eq_nil_iff_forall_not_mem.mpr fun m member => ?_
  obtain ⟨s, slot, inner⟩ := exists_of_mentions_ts rfl member
  cases List.mem_singleton.mp slot
  change m ∈ left.mentions scope at inner
  rw [none] at inner
  cases inner

theorem qualifiedName_flow {i : Info} {left : Node} {name : String} :
    qualifiedName ⟨i, .flow (.qualified left name)⟩ = qualifiedName left ++ "." ++ name := by
  rw [qualifiedName, Node.fold_eq]
  rfl

theorem qualifiedName_ts {left : Node} {name : String} :
    qualifiedName (.ts pos (.qualified left name)) = qualifiedName left ++ "." ++ name := by
  rw [qualifiedName, Node.fold_eq]
  rfl

/-- A name in type position is spelled as in the source, and is no reference itself. -/
theorem entity_spells {n e : Node} (plays : n.Plays Parsed .name) (result : entity id n = .ok e) :
    qualifiedName e = qualifiedName n ∧ ∀ scope, e.mentions scope = [] := by
  induction n using Node.childInduction generalizing e with
  | step n ih =>
    rcases name_cases plays with ⟨i, name, rfl⟩ | ⟨i, left, name, rfl, isName⟩
    · cases result
      exact ⟨rfl, fun scope => mentions_ident⟩
    · rw [entity] at result
      cases found : entity id left with
      | error e =>
        rw [found] at result
        cases result
      | ok e =>
        rw [found] at result
        cases result
        have child : left ∈ (⟨i, .flow (.qualified left name)⟩ : Node).children := by
          simp [Node.children, Form.children, Form.parts, FlowForm.parts]
        obtain ⟨spelled, silent⟩ := ih left child isName found
        refine ⟨?_, fun scope => mentions_qualified (silent scope)⟩
        rw [qualifiedName_flow, qualifiedName_ts, spelled]

theorem qualifiedName_uiEntity {name : String} :
    qualifiedName (Utility.uiEntity pos name) = "React." ++ name := by
  rw [Utility.uiEntity, qualifiedName_ts]
  rfl

theorem mentions_uiEntity {name : String} : (Utility.uiEntity pos name).mentions scope = [] :=
  mentions_qualified mentions_ident

/-- A reference has the name that it has in the source, or one that is brought in. -/
theorem referenceEntity_spells {n e : Node} {targs : Option Node} (plays : n.Plays Parsed .name)
    (result : referenceEntity id n targs = .ok e) :
    (qualifiedName e = qualifiedName n ∨ qualifiedName e ∈ broughtNames)
      ∧ ∀ scope, e.mentions scope = [] := by
  have plain (found : entity id n = .ok e) :
      (qualifiedName e = qualifiedName n ∨ qualifiedName e ∈ broughtNames)
        ∧ ∀ scope, e.mentions scope = [] :=
    (entity_spells plays found).imp_left .inl
  unfold referenceEntity at result
  split at result
  next =>
    split at result
    next other found =>
      split at result
      next =>
        cases result
        refine ⟨.inr ?_, fun scope => mentions_uiEntity⟩
        rw [qualifiedName_uiEntity]
        unfold uiAlias? at found
        split at found <;> cases found <;> simp [broughtNames]
      next => exact plain result
    next => exact plain result
  next => exact plain result

end Parts

/-! ## Layers -/

section Layers

variable {i : Info} {scope : Scope} {m : Mention} {pos : Int}

theorem keeps_member {p u : Node} (step : MemberStep Keeps p u) : Keeps p u := by
  intro scope m member
  cases step with
  | field type =>
    obtain ⟨s, slot, inner⟩ := exists_of_mentions_ts rfl member
    cases List.mem_singleton.mp slot
    exact (type scope m inner).of_slot List.mem_cons_self rfl
  | method type =>
    obtain ⟨s, slot, inner⟩ := exists_of_mentions_ts rfl member
    cases List.mem_singleton.mp slot
    exact (type scope m inner).of_slot List.mem_cons_self rfl
  | indexer keyType valueType =>
    obtain ⟨s, slot, inner⟩ := exists_of_mentions_ts rfl member
    simp only [TsForm.slots, List.mem_cons, List.not_mem_nil, or_false] at slot
    rcases slot with rfl | rfl
    · exact (keyType scope m inner).of_slot List.mem_cons_self rfl
    · exact (valueType scope m inner).of_slot (List.mem_cons_of_mem _ List.mem_cons_self) rfl
  | spread type => exact (type scope m member).of_slot List.mem_cons_self rfl

theorem keeps_mapped {j : Info} {before after : List Node} {exact readonly : Bool}
    {name : Option String} {key value k v : Node} {variance : Option Variance}
    (first : ∀ m ∈ before, isIndexer m = false) (named : (declared name).isSome)
    (keyType : Keeps key k) (valueType : Keeps value v) :
    Keeps ⟨i, .flow (.object (before ++ ⟨j, .flow (.indexer name key value variance)⟩ :: after) exact)⟩
      (.ts i.pos (.mapped mappedName k v readonly)) := by
  intro scope m member
  have among : ⟨j, .flow (.indexer name key value variance)⟩
      ∈ before ++ ⟨j, .flow (.indexer name key value variance)⟩ :: after := by simp
  have inIndexer : ∀ {t : Node} {outer : Scope}, t = key ∨ t = value → Origin t outer m →
      Origin ⟨j, .flow (.indexer name key value variance)⟩ outer m := by
    intro t outer part origin
    refine origin.of_slot (s := (.type, t)) ?_ rfl
    simpa [Form.slots, FlowForm.slots] using part
  have inObject : ∀ {outer : Scope}, Origin ⟨j, .flow (.indexer name key value variance)⟩ outer m →
      Origin ⟨i, .flow (.object (before ++ ⟨j, .flow (.indexer name key value variance)⟩ :: after)
        exact)⟩ outer m :=
    fun origin => origin.of_slot (s := (.typeMember, _)) (List.mem_map_of_mem among) rfl
  -- the variable is the innermost binder, so it takes what is free in the key or the value
  have fromPart : ∀ {t u : Node}, t = key ∨ t = value → Keeps t u →
      m ∈ u.mentions ((mappedName, .mapped i.pos) :: scope) →
      Origin ⟨i, .flow (.object (before ++ ⟨j, .flow (.indexer name key value variance)⟩ :: after)
        exact)⟩ scope m := by
    intro t u part keeps inner
    rcases keeps _ m inner with member | name | ⟨name, bound, captures⟩
    · rcases Node.mentions_cons member with outside | ⟨name, bound, free⟩
      · exact inObject (inIndexer part (.same outside))
      · refine .captured name (by simp [bound])
          ⟨_, Node.self_mem_preorder _, Node.capturesHere_of_free first named ?_⟩
        rcases part with rfl | rfl
        · exact .inl free
        · exact .inr free
    · exact .brought name
    · exact inObject (inIndexer part (.captured name bound captures))
  obtain ⟨s, slot, inner⟩ := exists_of_mentions_ts rfl member
  simp only [TsForm.slots, List.mem_cons, List.not_mem_nil, or_false] at slot
  rcases slot with rfl | rfl
  · exact fromPart (.inl rfl) keyType inner
  · exact fromPart (.inr rfl) valueType inner

theorem keeps_object {members : List Node} {exact : Bool} {value : Node → Node}
    (each : ∀ m ∈ members, MemberStep Keeps m (value m)) :
    Keeps ⟨i, .flow (.object members exact)⟩
      (objectOf pos (fieldsOf value false members) ((members.filter isSpread).map value)) := by
  intro scope m member
  have fromMember : ∀ p ∈ members, m ∈ (value p).mentions scope →
      Origin ⟨i, .flow (.object members exact)⟩ scope m := fun p among inner =>
    (keeps_member (each p among) scope m inner).of_slot (s := (.typeMember, p))
      (List.mem_map_of_mem among) rfl
  obtain ⟨t, part, inner⟩ := exists_of_mentions_objectOf member
  rcases List.mem_append.mp part with field | spread
  · obtain ⟨p, kept, rfl⟩ := List.mem_map.mp field
    rw [Node.mentions_keepComments] at inner
    exact fromMember p (mem_of_mem_keptMembers kept) inner
  · obtain ⟨p, among, rfl⟩ := List.mem_map.mp spread
    exact fromMember p (List.mem_of_mem_filter among) inner

theorem keeps_targs {t u : Node} (step : TargsStep Keeps t u) : Keeps t u := by
  intro scope m member
  cases step with
  | targs types =>
    obtain ⟨s, slot, inner⟩ := exists_of_mentions_ts rfl member
    obtain ⟨u, among, rfl⟩ := List.mem_map.mp slot
    obtain ⟨t, source, origin⟩ := exists_of_keeps id types among inner
    exact origin.of_slot (s := (.type, t)) (List.mem_map_of_mem source) rfl

theorem keeps_param {p u : Node} (step : ParamStep Keeps p u) : Keeps p u := by
  intro scope m member
  cases step with
  | param type =>
    obtain ⟨s, slot, inner⟩ := exists_of_mentions_ts rfl member
    cases List.mem_singleton.mp slot
    exact (type scope m inner).of_slot List.mem_cons_self rfl

theorem keeps_tparam {p u : Node} (step : TparamStep Keeps p u) : Keeps p u := by
  intro scope m member
  cases step with
  | @tparam i name bound default b d variance boundType defaultType =>
    have inParam : ∀ t, bound = some t ∨ default = some t → Origin t scope m →
        Origin ⟨i, .flow (.tparam name bound default variance)⟩ scope m := by
      intro t part origin
      refine origin.of_slot (s := (.type, t)) ?_ rfl
      simpa [Form.slots, FlowForm.slots, Role.for?] using part
    obtain ⟨s, slot, inner⟩ := exists_of_mentions_ts rfl member
    rcases List.mem_append.mp slot with slot | slot
    · obtain ⟨u, among, rfl⟩ := List.mem_map.mp slot
      obtain ⟨t, source, origin⟩ := exists_of_keeps? id boundType (Option.mem_toList.mp among) inner
      exact inParam t (.inl source) origin
    · obtain ⟨u, among, rfl⟩ := List.mem_map.mp slot
      obtain ⟨t, source, origin⟩ := exists_of_keeps? id defaultType (Option.mem_toList.mp among) inner
      exact inParam t (.inr source) origin

theorem keeps_tparams {t u : Node} (step : TparamsStep Keeps t u) : Keeps t u := by
  intro scope m member
  cases step with
  | tparams each =>
    obtain ⟨s, slot, inner⟩ := exists_of_mentions_ts rfl member
    obtain ⟨u, among, rfl⟩ := List.mem_map.mp slot
    obtain ⟨p, source, origin⟩ := exists_of_keeps keeps_tparam each among inner
    exact origin.of_slot (s := (.tparam, p)) (List.mem_map_of_mem source) rfl

/-- Type parameters bind the same names, at the same places. -/
theorem tparamBinders_eq {tparams tps : Option Node}
    (step : Option.Rel (TparamsStep Keeps) tparams tps) :
    Node.tparamBinders tps = Node.tparamBinders tparams := by
  cases step with
  | none => rfl
  | some step =>
    cases step with
    | @tparams i params us each =>
      have same : us.filterMap Node.tparamBinder? = params.filterMap Node.tparamBinder? := by
        induction each with
        | nil => rfl
        | cons step _ ih =>
          cases step
          rw [List.filterMap_cons, List.filterMap_cons, ih]
          rfl
      simpa [Node.tparamBinders, Node.children, Node.ts, Node.plain, Form.children, Form.parts,
        FlowForm.parts, TsForm.parts] using same

theorem keeps_function {tparams tps rest r : Option Node} {params ps : List Node} {t u : Node}
    (tparamsStep : Option.Rel (TparamsStep Keeps) tparams tps)
    (paramsStep : List.Forall₂ (ParamStep Keeps) params ps)
    (restStep : Option.Rel (ParamStep Keeps) rest r) (type : Keeps t u) :
    Keeps ⟨i, .flow (.function tparams params rest t)⟩ (.ts pos (.function tps ps r u)) := by
  intro scope m member
  have inFunction : ∀ s ∈ (FlowForm.function tparams params rest t).slots,
      Origin s.2 (Node.tparamBinders tparams ++ scope) m →
      Origin ⟨i, .flow (.function tparams params rest t)⟩ scope m :=
    fun s slot origin => origin.of_slot slot rfl
  obtain ⟨s, slot, inner⟩ := exists_of_mentions_ts rfl member
  -- the parts have the same binders around them before and after
  change m ∈ s.2.mentions (Node.tparamBinders tps ++ scope) at inner
  rw [tparamBinders_eq tparamsStep] at inner
  simp only [TsForm.slots, List.mem_append, List.mem_singleton, or_assoc] at slot
  rcases slot with slot | slot | slot | rfl
  · obtain ⟨u, among, rfl⟩ := List.mem_map.mp slot
    obtain ⟨p, source, origin⟩ := exists_of_keeps? keeps_tparams tparamsStep (Option.mem_toList.mp among) inner
    exact inFunction (.tparams, p) (by simp [FlowForm.slots, Role.for?, source]) origin
  · obtain ⟨u, among, rfl⟩ := List.mem_map.mp slot
    obtain ⟨p, source, origin⟩ := exists_of_keeps keeps_param paramsStep among inner
    exact inFunction (.fnParam, p) (by simp [FlowForm.slots, Role.forAll, source]) origin
  · obtain ⟨u, among, rfl⟩ := List.mem_map.mp slot
    obtain ⟨p, source, origin⟩ := exists_of_keeps? keeps_param restStep (Option.mem_toList.mp among) inner
    exact inFunction (.fnParam, p) (by simp [FlowForm.slots, Role.for?, source]) origin
  · exact inFunction (.type, t) (by simp [FlowForm.slots]) (type _ m inner)

/-- The references in a reference are its own and those in its arguments. -/
theorem mentions_ref {name : Node} {targs : Option Node} (silent : name.mentions scope = [])
    (member : m ∈ (Node.ts pos (.ref name targs)).mentions scope) :
    m = ⟨pos, qualifiedName name, scope.lookup (qualifiedName name)⟩
      ∨ ∃ t, targs = some t ∧ m ∈ t.mentions scope := by
  rcases Node.mentions_cases member with ⟨spelled, ⟨⟩, rfl⟩ | ⟨-, c, child, inner⟩
  · exact .inl rfl
  · rw [Node.children, Form.children_eq_slots (by simp [Node.ts, Node.plain])] at child
    obtain ⟨s, slot, rfl⟩ := List.mem_map.mp child
    change m ∈ s.2.mentions scope at inner
    rcases List.mem_cons.mp slot with rfl | argument
    · rw [silent] at inner
      cases inner
    · obtain ⟨t, found, rfl⟩ := List.mem_map.mp argument
      exact .inr ⟨t, Option.mem_toList.mp found, inner⟩

theorem mentions_reference {name : Node} {args : List Node} (silent : name.mentions scope = [])
    (member : m ∈ (Utility.reference pos name args).mentions scope) :
    m.name = qualifiedName name ∨ ∃ a ∈ args, m ∈ a.mentions scope := by
  rcases mentions_ref silent member with rfl | ⟨t, ⟨⟩, inner⟩
  · exact .inl rfl
  · obtain ⟨s, slot, inner⟩ := exists_of_mentions_ts rfl inner
    obtain ⟨a, among, rfl⟩ := List.mem_map.mp slot
    exact .inr ⟨a, among, inner⟩

theorem broughtName_of_renamed {name new : String} {count : Nat}
    (found : Utility.of? name count = some (.renamed new)) : new ∈ broughtNames := by
  unfold Utility.of? at found
  split at found <;> cases found <;> simp [broughtNames]

theorem broughtName_of_event {name new : String} {count : Nat}
    (found : Utility.of? name count = some (.event new)) : "React." ++ new ∈ broughtNames := by
  unfold Utility.of? at found
  split at found <;> cases found <;> simp [broughtNames]

/-- The type of an operation has the references of its arguments, and a name that is brought in. -/
theorem mentions_build {op : Utility} {name : String} {count : Nat}
    (found : Utility.of? name count = some op) {args copies : List Node}
    (copied : ∀ a ∈ copies, a ∈ args) (member : m ∈ (op.build pos args copies).mentions scope) :
    m.name ∈ broughtNames ∨ ∃ a ∈ args, m ∈ a.mentions scope := by
  unfold Utility.build at member
  split at member
  next => exact .inr ⟨_, List.mem_cons_self, member⟩
  next =>
    obtain ⟨s, slot, inner⟩ := exists_of_mentions_ts rfl member
    cases List.mem_singleton.mp slot
    exact .inr ⟨_, List.mem_cons_self, inner⟩
  next a _ copy _ =>
    obtain ⟨s, slot, inner⟩ := exists_of_mentions_ts rfl member
    simp only [TsForm.slots, List.mem_cons, List.not_mem_nil, or_false] at slot
    rcases slot with rfl | rfl
    · exact .inr ⟨a, List.mem_cons_self, inner⟩
    · obtain ⟨s, slot, inner⟩ := exists_of_mentions_ts rfl inner
      cases List.mem_singleton.mp slot
      exact .inr ⟨copy, copied copy List.mem_cons_self, inner⟩
  next =>
    obtain ⟨s, slot, inner⟩ := exists_of_mentions_ts rfl member
    simp only [TsForm.slots, List.mem_cons, List.not_mem_nil, or_false] at slot
    rcases slot with rfl | rfl
    · exact .inr ⟨_, List.mem_cons_self, inner⟩
    · exact .inr ⟨_, List.mem_cons_of_mem _ List.mem_cons_self, inner⟩
  next =>
    rw [mentions_readOnlyType] at member
    exact .inr ⟨_, List.mem_cons_self, member⟩
  next =>
    refine (mentions_reference mentions_ident member).imp_left fun spelled => ?_
    rw [spelled]
    change "ReturnType" ∈ broughtNames
    simp [broughtNames]
  next =>
    refine (mentions_reference mentions_ident member).imp_left fun spelled => ?_
    rw [spelled]
    exact broughtName_of_renamed found
  next =>
    obtain ⟨s, slot, -⟩ := exists_of_mentions_ts rfl member
    cases slot
  next =>
    rcases mentions_ref mentions_uiEntity member with rfl | ⟨t, ⟨⟩, -⟩
    exact .inl (qualifiedName_uiEntity ▸ broughtName_of_event found)
  next =>
    refine (mentions_reference mentions_uiEntity member).imp_left fun spelled => ?_
    rw [spelled, qualifiedName_uiEntity]
    exact broughtName_of_event found
  next =>
    obtain ⟨s, slot, -⟩ := exists_of_mentions_ts rfl member
    cases slot

/-- The arguments of an operation are in scope of what is around it. -/
theorem Origin.of_operand {name a : Node} {targs : Option Node} {op : Utility}
    (member : a ∈ Node.operands op targs) (origin : Origin a scope m) :
    Origin ⟨i, .flow (.generic name targs)⟩ scope m := by
  have argument : a ∈ argumentsOf targs := by
    unfold Node.operands at member
    split at member
    · exact List.mem_of_mem_take member
    · exact member
  have inList : ∃ t, targs = some t ∧ Origin t scope m := by
    unfold argumentsOf at argument
    split at argument
    next =>
      exact ⟨_, rfl, origin.of_slot (s := (.type, a)) (List.mem_map_of_mem argument) rfl⟩
    next =>
      exact ⟨_, rfl, origin.of_slot (s := (.type, a)) (List.mem_map_of_mem argument) rfl⟩
    next => cases argument
  obtain ⟨t, rfl, origin⟩ := inList
  exact origin.of_slot (s := (.targs, t)) (by simp [Form.slots, FlowForm.slots, Role.for?]) rfl

theorem keeps_operation {name : Node} {targs : Option Node} {op : Utility} {args : List Node}
    (found : utilityOf? name targs = some op) (types : List.Forall₂ Keeps (Node.operands op targs) args) :
    Keeps ⟨i, .flow (.generic name targs)⟩ (op.build pos args (if op.usesCopy then args else [])) := by
  intro scope m member
  unfold utilityOf? at found
  split at found
  next =>
    have copied : ∀ a ∈ (if op.usesCopy then args else []), a ∈ args := by
      intro a among
      split at among
      · exact among
      · cases among
    rcases mentions_build found copied member with name | ⟨a, among, inner⟩
    · exact .brought name
    · obtain ⟨t, source, origin⟩ := exists_of_keeps id types among inner
      exact origin.of_operand source
  next => cases found

theorem keeps_reference {name entity : Node} {targs new : Option Node}
    (isName : name.Plays Parsed .name) (isEntity : referenceEntity id name targs = .ok entity)
    (targsStep : Option.Rel (TargsStep Keeps) targs new) :
    Keeps ⟨i, .flow (.generic name targs)⟩ (.ts i.pos (.ref entity new)) := by
  intro scope m member
  obtain ⟨spelled, silent⟩ := referenceEntity_spells isName isEntity
  rcases mentions_ref (silent scope) member with rfl | ⟨u, found, inner⟩
  · rcases spelled with same | brought
    · rw [same]
      exact .same (Node.mentions_self rfl)
    · exact .brought brought
  · obtain ⟨t, rfl, origin⟩ := exists_of_keeps? keeps_targs targsStep found inner
    exact origin.of_slot (s := (.targs, t)) (by simp [Form.slots, FlowForm.slots, Role.for?]) rfl

end Layers

/-- A layer of a converted type keeps what its parts keep. -/
theorem keeps_of_typeStep {n u : Node} (step : TypeStep Keeps n u) : Keeps n u := by
  intro scope m member
  cases step with
  | keyword | literal =>
    obtain ⟨s, slot, -⟩ := exists_of_mentions_ts rfl member
    cases slot
  | nullable type =>
    obtain ⟨t, part, inner⟩ := exists_of_mentions_unionOf member
    rcases List.mem_cons.mp part with rfl | null
    · exact (type scope m inner).of_slot List.mem_cons_self rfl
    · cases List.mem_singleton.mp null
      obtain ⟨s, slot, -⟩ := exists_of_mentions_ts rfl inner
      cases slot
  | array type =>
    obtain ⟨s, slot, inner⟩ := exists_of_mentions_ts rfl member
    cases List.mem_singleton.mp slot
    exact (type scope m inner).of_slot List.mem_cons_self rfl
  | tuple types | intersection types =>
    obtain ⟨s, slot, inner⟩ := exists_of_mentions_ts rfl member
    obtain ⟨u, among, rfl⟩ := List.mem_map.mp slot
    obtain ⟨t, source, origin⟩ := exists_of_keeps id types among inner
    exact origin.of_slot (s := (.type, t)) (List.mem_map_of_mem source) rfl
  | union types =>
    obtain ⟨u, among, inner⟩ := exists_of_mentions_unionOf member
    obtain ⟨t, source, origin⟩ := exists_of_keeps id types among inner
    exact origin.of_slot (s := (.type, t)) (List.mem_map_of_mem source) rfl
  | mapped first named keyType valueType =>
    exact keeps_mapped first named keyType valueType scope m member
  | object plain each => exact keeps_object each scope m member
  | function tparamsStep paramsStep restStep type =>
    exact keeps_function tparamsStep paramsStep restStep type scope m member
  | operation found types => exact keeps_operation found types scope m member
  | reference found isName isEntity targsStep =>
    exact keeps_reference isName isEntity targsStep scope m member
  | typeOfName =>
    -- the name of a value is no reference to a type
    rcases Node.mentions_cases member with ⟨name, refers, -⟩ | ⟨type, -⟩
    · cases refers
    · cases type
  | @typeOfType i t u other type =>
    refine (type scope m member).of_slot List.mem_cons_self ?_
    unfold Node.isValueQuery
    split
    next j name targs form =>
      cases form
      exact absurd rfl (other j name targs)
    next form => cases form
    next => rfl

/-- Every reference in a converted type comes from the source. -/
theorem keeps_of_convertType {n u : Node} (plays : n.Plays Parsed .type)
    (result : (convertType id n).result = .ok u) : Keeps n u :=
  holds_of_convertType (fun _ _ step => keeps_of_typeStep step) plays result

/-! ## Mapped types -/

section Mapped

variable {t u : Node}

/-- The name of the variable is free in a converted type only if it is so in the source. -/
theorem free_of_keeps (keeps : Keeps t u) (free : u.Free mappedName) : t.Free mappedName := by
  obtain ⟨m, member, name, unbound⟩ := free
  cases keeps [] m member with
  | same source => exact ⟨m, source, name, unbound⟩
  | brought listed =>
    rw [name] at listed
    exact absurd listed (by simp [broughtNames, mappedName])
  | captured _ bound => simp [unbound] at bound

/-- What stands in a mapped type denotes the same as outside, unless it is captured. -/
theorem mentions_of_mapped {b : Binder} {scope : Scope} {m : Mention} (keeps : Keeps t u)
    (apart : m.name ≠ mappedName ∨ ¬ t.Free mappedName ∧ ¬ t.Captures)
    (member : m ∈ u.mentions ((mappedName, b) :: scope)) :
    m ∈ t.mentions scope ∨ m.name ∈ broughtNames := by
  cases keeps _ m member with
  | same source =>
    rcases Node.mentions_cons source with outside | ⟨name, -, free⟩
    · exact .inl outside
    · rcases apart with other | ⟨notFree, -⟩
      · exact absurd name other
      · exact absurd free notFree
  | brought listed => exact .inr listed
  | captured name _ captures =>
    rcases apart with other | ⟨-, none⟩
    · exact absurd name other
    · exact absurd captures none

end Mapped

/-- Mapped types capture one name.  The name of the variable is free in the converted key or value
only if it is free in the key or the value of the indexer.  A reference with another name denotes
what it denotes in the source, and so does every reference if the name is free neither in the key and
the value nor in those of an object type inside that becomes a mapped type too. -/
theorem convertObject_captures_only {n key type : Node} {before after : List Node} {exact : Bool}
    {j : Info} {name : Option String} {variance : Option Variance} (built : n.GrammarBuilt)
    (form : n.form = .flow (.object (before ++ ⟨j, .flow (.indexer name key type variance)⟩ :: after)
      exact))
    (first : ∀ m ∈ before, isIndexer m = false) (named : (declared name).isSome) :
    ∃ k v u, ConvertsTo key k ∧ ConvertsTo type v ∧ (convertObject id n).result = .ok u
      ∧ u = .ts n.pos (.mapped mappedName k v (isCovariant variance))
      ∧ (k.Free mappedName → key.Free mappedName) ∧ (v.Free mappedName → type.Free mappedName)
      ∧ ∀ scope, ∀ m ∈ u.mentions scope,
        (m.name ≠ mappedName ∨ (¬ key.Free mappedName ∧ ¬ key.Captures)
          ∧ ¬ type.Free mappedName ∧ ¬ type.Captures) →
        m ∈ key.mentions scope ∨ m ∈ type.mentions scope ∨ m.name ∈ broughtNames := by
  have slots := (Node.formed_iff.mp (members_of_built built form
    ⟨j, .flow (.indexer name key type variance)⟩ (by simp)).2).2.2
  simp only [Form.slots, FlowForm.slots, List.forall_mem_cons] at slots
  obtain ⟨k, keyTo, -⟩ := convertsTo_of_plays slots.1
  obtain ⟨v, typeTo, -⟩ := convertsTo_of_plays slots.2.1
  have keepsKey := keeps_of_convertType slots.1 keyTo.result
  have keepsType := keeps_of_convertType slots.2.1 typeTo.result
  obtain ⟨drops, -, result⟩ := convertObject_of_named form first named keyTo.result typeTo.result
  refine ⟨k, v, _, keyTo, typeTo, by rw [result], rfl, free_of_keeps keepsKey,
    free_of_keeps keepsType, fun scope m member apart => ?_⟩
  obtain ⟨s, slot, inner⟩ := exists_of_mentions_ts rfl member
  simp only [TsForm.slots, List.mem_cons, List.not_mem_nil, or_false] at slot
  rcases slot with rfl | rfl
  · rcases mentions_of_mapped keepsKey (apart.imp_right And.left) inner with source | brought
    · exact .inl source
    · exact .inr (.inr brought)
  · exact .inr (mentions_of_mapped keepsType (apart.imp_right And.right) inner)

/-- Whether a node is an object type with one member, a named indexer that loses no reference. -/
def isUncaptured (n : Node) : Bool :=
  match n.form with
  | .flow (.object [⟨_, .flow (.indexer name key type _)⟩] _) =>
    (declared name).isSome && decide ((¬ key.Free mappedName ∧ ¬ key.Captures)
      ∧ ¬ type.Free mappedName ∧ ¬ type.Captures)
  | _ => false

theorem convertObject_captures_only_bound : ∃ tree n j name key type variance exact k v u,
    Source.parse { text := "type A = \x7b[k: B]: <K>(K) => C\x7d" } = .ok tree ∧ n ∈ tree.preorder
      ∧ n.form = .flow (.object [⟨j, .flow (.indexer name key type variance)⟩] exact)
      ∧ (convertObject id n).result = .ok u
      ∧ u = .ts n.pos (.mapped mappedName k v (isCovariant variance))
      ∧ ∀ scope, ∀ m ∈ u.mentions scope,
        m ∈ key.mentions scope ∨ m ∈ type.mentions scope ∨ m.name ∈ broughtNames := by
  have found : ((Source.parse { text := "type A = \x7b[k: B]: <K>(K) => C\x7d" }).toOption.bind fun tree =>
      tree.preorder.find? isUncaptured).isSome := by
    rw [Source.parse_eq_parseByGrids]
    decide +kernel
  obtain ⟨n, found⟩ := Option.isSome_iff_exists.mp found
  obtain ⟨tree, parsed, found⟩ := Option.bind_eq_some_iff.mp found
  have parsed := ok_of_toOption parsed
  have member := List.mem_of_find?_eq_some found
  have apart := List.find?_some found
  unfold isUncaptured at apart
  split at apart
  next j name key type variance exact form =>
    simp only [Bool.and_eq_true, decide_eq_true_eq] at apart
    have around : n.form = .flow (.object ([] ++ ⟨j, .flow (.indexer name key type variance)⟩ :: [])
      exact) := form
    obtain ⟨k, v, u, -, -, result, mapped, -, -, same⟩ := convertObject_captures_only
      (.inr ⟨_, tree, parsed, member⟩) around (by simp) apart.1
    exact ⟨tree, n, j, name, key, type, variance, exact, k, v, u, parsed, member, form, result, mapped,
      fun scope m among => same scope m among (.inr apart.2)⟩
  next => cases apart

/-- An object type with an indexer whose key is a reference to the name of the variable. -/
def capturingObject : Node :=
  .flow 0 (.object [.flow 1 (.indexer (some "key") (.flow 7 (.generic (.ident 7 mappedName) none))
    (.flow 11 (.primitive .number)) none)] false)

/-- The variable takes a reference to a type parameter of the declaration around it.  The parameter
stands five characters in front of the object type. -/
theorem convertObject_captures_parameter :
    capturingObject.mentions [(mappedName, .parameter (-5))]
        = [⟨7, mappedName, some (.parameter (-5))⟩]
      ∧ (convertObject id capturingObject).toOption.map
          (·.mentions [(mappedName, .parameter (-5))]) = some [⟨7, mappedName, some (.mapped 0)⟩] :=
  ⟨rfl, rfl⟩

end Convert

end Retype
