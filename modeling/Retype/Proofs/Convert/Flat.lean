import Retype.Proofs.Voice.Conversion

/-!
# Flat unions

A union that stands directly in a union says nothing that the outer union could not say itself, so
the conversion puts the members of the inner one in its place.  A tree is *flat* if no union of it
has a union among its members.  Trees of the source hold no TypeScript union at all, and the
conversion of a flat tree is flat.

Several layers hand on a type that they did not build: `$Exact` its argument, an object type of one
spread that spread, a `typeof` of a type that type.  None of them puts it into a union on its own,
so only `unionOf` has to look at what it is given.
-/

namespace Retype

open Retype.Convert
open Outcome (fail warn warnIf ofExcept attempt)

variable {α β : Type}

/-! ## Conditions on values -/

/-- Every value that an outcome can have meets a condition. -/
def Outcome.Gives (P : α → Prop) (x : Outcome α) : Prop := ∀ a, x.result = .ok a → P a

namespace Outcome

variable {P : α → Prop} {Q : β → Prop}

theorem gives_pure {a : α} (holds : P a) : (pure a : Outcome α).Gives P :=
  fun _ result => Except.ok.inj result ▸ holds

theorem gives_fail {e : Failure} : (fail e : Outcome α).Gives P := nofun

theorem Gives.bind {x : Outcome α} {f : α → Outcome β} (first : x.Gives P)
    (rest : ∀ a, P a → (f a).Gives Q) : (x >>= f).Gives Q := by
  intro b result
  obtain ⟨a, found, value⟩ := ok_of_bind result
  exact rest a (first a found) b value

theorem Gives.map {x : Outcome α} {f : α → β} (first : x.Gives P) (holds : ∀ a, P a → Q (f a)) :
    (x >>= fun a => pure (f a)).Gives Q :=
  first.bind fun a good => gives_pure (holds a good)

/-- What comes first and gives no value of its own does not matter. -/
theorem gives_then {x : Outcome α} {y : Outcome β} (rest : y.Gives Q) : (x >>= fun _ => y).Gives Q :=
  Gives.bind (P := fun _ => True) (fun _ _ => trivial) fun _ _ => rest

end Outcome

open Outcome

/-! ## Flat trees -/

namespace Node

/-- The unions of the TypeScript dialect. -/
def isUnion (n : Node) : Bool :=
  match n.form with
  | .ts (.union _) => true
  | _ => false

/-- No union of a tree has a union among its members. -/
def Flat (n : Node) : Prop :=
  ∀ m ∈ n.preorder, ∀ types, m.form = .ts (.union types) → ∀ t ∈ types, t.isUnion = false

theorem flat_iff {n : Node} :
    n.Flat ↔ (∀ types, n.form = .ts (.union types) → ∀ t ∈ types, t.isUnion = false)
      ∧ ∀ c ∈ n.children, c.Flat :=
  forall_mem_preorder_iff

theorem Flat.of_mem {m n : Node} (flat : n.Flat) (member : m ∈ n.preorder) : m.Flat :=
  fun k inner => flat k (preorder_trans inner member)

theorem Flat.of_child {c n : Node} (flat : n.Flat) (child : c ∈ n.children) : c.Flat :=
  (flat_iff.mp flat).2 c child

theorem Flat.of_slot {s : Role × Node} {n : Node} (flat : n.Flat) (slot : s ∈ n.form.slots) :
    s.2.Flat :=
  flat.of_child (mem_children_of_slot slot)

/-- A TypeScript node that is no union is flat if its children are. -/
theorem flat_ts {i : Info} {f : TsForm Node} (other : ∀ types, f ≠ .union types)
    (parts : ∀ s ∈ f.slots, s.2.Flat) : (⟨i, .ts f⟩ : Node).Flat := by
  refine flat_iff.mpr ⟨fun types form => absurd (Form.ts.inj form) (other types), fun c child => ?_⟩
  rw [children, Form.children_eq_slots (by simp)] at child
  obtain ⟨s, slot, rfl⟩ := List.mem_map.mp child
  exact parts s slot

theorem Flat.keepComments {old n : Node} (flat : n.Flat) : (old.keepComments n).Flat :=
  flat_iff.mpr (flat_iff (n := n).mp flat)

theorem flat_ident {i : Info} {name : String} : (⟨i, .expr (.ident name)⟩ : Node).Flat :=
  flat_iff.mpr ⟨by simp, by simp [children, Form.children, Form.parts, ExprForm.parts]⟩

/-- A tree without TypeScript nodes is flat. -/
theorem flat_of_parsed {n : Node} (formed : n.Formed Parsed) : n.Flat :=
  fun m member types form => absurd form ((formed m member).2.1 (.union types))

end Node

open Node (Flat flat_iff flat_ts flat_ident)

section Build

variable {pos : Int} {types : List Node}

theorem flat_unionOf (flat : ∀ t ∈ types, t.Flat) : (unionOf pos types).Flat := by
  -- a member is a member of an inner union, which is flat, or a type that is no union
  have members : ∀ us, (unionOf pos types).form = .ts (.union us) →
      ∀ u ∈ us, u.isUnion = false ∧ u.Flat := by
    rintro _ ⟨⟩ u member
    obtain ⟨t, among, inside⟩ := List.mem_flatMap.mp member
    split at inside
    next inner form =>
      refine ⟨(flat_iff.mp (flat t among)).1 inner form u inside, ?_⟩
      refine (flat t among).of_slot (s := (.type, u)) ?_
      simpa [form, Form.slots, TsForm.slots, Role.forAll] using inside
    next other =>
      cases List.mem_singleton.mp inside
      refine ⟨?_, flat u among⟩
      unfold Node.isUnion
      split
      next inner form => exact absurd form (other inner)
      next => rfl
  refine flat_iff.mpr ⟨fun us form u member => (members us form u member).1, fun u child => ?_⟩
  refine (members _ rfl u ?_).2
  simpa only [unionOf, Node.ts, Node.plain, Node.children, Form.children, Form.parts, TsForm.parts,
    List.flatMap_cons, List.flatMap_nil, Part.nodes_ofChildren, List.append_nil] using child

theorem flat_typeLiteral (flat : ∀ t ∈ types, t.Flat) : (Node.ts pos (.typeLiteral types)).Flat :=
  flat_ts (by simp) (Role.forall_mem_forAll.mpr flat)

theorem flat_intersection (flat : ∀ t ∈ types, t.Flat) : (Node.ts pos (.intersection types)).Flat :=
  flat_ts (by simp) (Role.forall_mem_forAll.mpr flat)

theorem flat_objectOf {fields spreads : List Node} (flatFields : ∀ m ∈ fields, m.Flat)
    (flatSpreads : ∀ t ∈ spreads, t.Flat) : (objectOf pos fields spreads).Flat := by
  have literal : (Node.ts pos (.typeLiteral fields)).Flat := flat_typeLiteral flatFields
  unfold objectOf
  split
  · exact literal
  · exact flatSpreads _ List.mem_cons_self
  · exact flat_intersection flatSpreads
  · exact flat_intersection (List.forall_mem_cons.mpr ⟨literal, flatSpreads⟩)

theorem flat_readOnlyMember {m : Node} (flat : m.Flat) : (Utility.readOnlyMember m).Flat := by
  unfold Utility.readOnlyMember
  split
  next form => exact flat_ts (by simp) fun s slot => flat.of_slot (by rw [form]; exact slot)
  next form => exact flat_ts (by simp) fun s slot => flat.of_slot (by rw [form]; exact slot)
  next => exact flat

theorem flat_readOnlyType {t : Node} (flat : t.Flat) : (Utility.readOnlyType t).Flat := by
  unfold Utility.readOnlyType
  split
  next members form =>
    refine flat_typeLiteral (List.forall_mem_map.mpr fun m member => flat_readOnlyMember ?_)
    refine flat.of_slot (s := (.typeMember, m)) ?_
    simpa [form, Form.slots, TsForm.slots, Role.forAll] using member
  next form => exact flat_ts (by simp) fun s slot => flat.of_slot (by rw [form]; exact slot)
  next => exact flat

theorem flat_ref {entity : Node} {targs : Option Node} (flat : entity.Flat)
    (arguments : ∀ t, targs = some t → t.Flat) : (Node.ts pos (.ref entity targs)).Flat :=
  flat_ts (by simp) (List.forall_mem_cons.mpr ⟨flat, Role.forall_mem_for?.mpr arguments⟩)

theorem flat_reference {entity : Node} (flat : entity.Flat) (arguments : ∀ t ∈ types, t.Flat) :
    (Utility.reference pos entity types).Flat := by
  refine flat_ref flat fun _ found => Option.some.inj found ▸ ?_
  exact flat_ts (by simp) (Role.forall_mem_forAll.mpr arguments)

theorem flat_uiEntity {name : String} : (Utility.uiEntity pos name).Flat :=
  flat_ts (by simp) (List.forall_mem_singleton.mpr flat_ident)

theorem flat_build {u : Utility} {copies : List Node} (flat : ∀ t ∈ types, t.Flat)
    (copied : ∀ t ∈ copies, t.Flat) : (u.build pos types copies).Flat := by
  have leaf (k : TsKeyword) : (Node.ts pos (.keyword k)).Flat :=
    flat_ts (by simp) (by simp [TsForm.slots])
  have keyOf {t : Node} (inner : t.Flat) : (Node.ts pos (.keyOf t)).Flat :=
    flat_ts (by simp) (List.forall_mem_singleton.mpr inner)
  have indexed {t k : Node} (object : t.Flat) (key : k.Flat) : (Node.ts pos (.indexed t k)).Flat :=
    flat_ts (by simp) (by simp [TsForm.slots, object, key])
  unfold Utility.build
  split
  · exact flat _ List.mem_cons_self
  · exact keyOf (flat _ List.mem_cons_self)
  · exact indexed (flat _ List.mem_cons_self) (keyOf (copied _ List.mem_cons_self))
  · exact indexed (flat _ List.mem_cons_self) (flat _ (List.mem_cons_of_mem _ List.mem_cons_self))
  · exact flat_readOnlyType (flat _ List.mem_cons_self)
  · exact flat_reference flat_ident flat
  · exact flat_reference flat_ident flat
  · exact leaf _
  · exact flat_ref flat_uiEntity (by simp)
  · exact flat_reference flat_uiEntity flat
  · exact leaf _

theorem flat_tsParams {params : List Node} {names : List String} (flat : ∀ t ∈ types, t.Flat) :
    ∀ p ∈ tsParams params names types, p.Flat := by
  fun_induction tsParams params names types with
  | case1 p ps name names type types optional ih =>
    obtain ⟨first, rest⟩ := List.forall_mem_cons.mp flat
    refine List.forall_mem_cons.mpr ⟨?_, ih rest⟩
    exact flat_ts (by simp) (List.forall_mem_singleton.mpr first)
  | case2 => simp

theorem flat_tsRest {rest type : Option Node} {others : List String}
    (flat : ∀ t, type = some t → t.Flat) : ∀ p, tsRest rest type others = some p → p.Flat := by
  intro p found
  unfold tsRest at found
  split at found
  next r t =>
    cases found
    exact flat_ts (by simp) (List.forall_mem_singleton.mpr (flat t rfl))
  next => cases found

end Build

theorem flat_entity {n u : Node} (flat : n.Flat) (result : entity id n = .ok u) : u.Flat := by
  induction n using Node.childInduction generalizing u with
  | step n ih =>
    unfold entity at result
    split at result
    next => exact Except.ok.inj result ▸ flat
    next => exact Except.ok.inj result ▸ flat
    next i left name =>
      have child : left ∈ Node.children ⟨i, .flow (.qualified left name)⟩ := by
        simp [Node.children, Form.children, Form.parts, FlowForm.parts]
      cases found : entity id left with
      | error e => rw [found] at result; cases result
      | ok v =>
        rw [found] at result
        cases result
        exact flat_ts (by simp)
          (List.forall_mem_singleton.mpr (ih left child (flat.of_child child) found))
    next => cases result

theorem flat_referenceEntity {n u : Node} {targs : Option Node} (flat : n.Flat)
    (result : referenceEntity id n targs = .ok u) : u.Flat := by
  unfold referenceEntity at result
  split at result
  next =>
    split at result
    next =>
      split at result
      next => exact Except.ok.inj result ▸ flat_uiEntity
      next => exact flat_entity flat result
    next => exact flat_entity flat result
  next => exact flat_entity flat result

/-! ## Conversions of flat trees -/

/-- A type is converted to a flat type, if it can be converted. -/
def Node.TurnsFlat (n : Node) : Prop := (convertType id n).Gives Flat

section Rows

variable {types : List Node}

theorem gives_convertTypes (each : ∀ t ∈ types, t.TurnsFlat) :
    (convertTypes id types).Gives (∀ u ∈ ·, u.Flat) := by
  induction types with
  | nil => exact gives_pure (by simp)
  | cons t ts ih =>
    obtain ⟨first, rest⟩ := List.forall_mem_cons.mp each
    rw [convertTypes]
    exact Gives.bind first fun u flat => (ih rest).map fun us others =>
      List.forall_mem_cons.mpr ⟨flat, others⟩

theorem gives_convertEach (each : ∀ t ∈ types, t.TurnsFlat) :
    (convertEach id types).Gives (∀ u ∈ ·, u.Flat) := by
  induction types with
  | nil => exact gives_pure (by simp)
  | cons t ts ih =>
    obtain ⟨first, rest⟩ := List.forall_mem_cons.mp each
    have tried : ((convertType id t).attempt .typeArgument t.pos).Gives (∀ u ∈ ·, u.Flat) := by
      intro found result u member
      unfold attempt at result
      split at result
      next v converted =>
        cases result
        cases member
        exact first u converted
      next => cases result; cases member
    rw [convertEach]
    refine tried.bind fun found flat => (ih rest).map fun us others u member => ?_
    rcases List.mem_append.mp member with here | behind
    · exact flat u (Option.mem_toList.mp here)
    · exact others u behind

theorem gives_convertArguments {targs : Option Node} {first : Bool}
    (each : ∀ t ∈ argumentsOf targs, t.TurnsFlat) :
    (convertArguments id first targs).Gives (∀ u ∈ ·, u.Flat) := by
  have row : ∀ types : List Node, (∀ t ∈ types, t.TurnsFlat) →
      (if first then convertFirst id types else convertTypes id types).Gives (∀ u ∈ ·, u.Flat) := by
    intro types each
    split
    · rw [convertFirst_eq]
      exact gives_convertTypes fun t member => each t (List.mem_of_mem_take member)
    · exact gives_convertTypes each
  unfold convertArguments
  split
  · exact row _ each
  · exact row _ each
  · exact gives_pure (by simp)

theorem gives_convertType? {type : Option Node} (each : ∀ t, type = some t → t.TurnsFlat) :
    (convertType? id type).Gives (∀ u, · = some u → u.Flat) := by
  cases type with
  | none => exact gives_pure (by simp)
  | some t =>
    rw [convertType?]
    exact Gives.map (each t rfl) fun u flat => by simpa using flat

end Rows

section Layers

/-- The parts of a node are converted to flat types, as far as they are types. -/
def Node.PartsTurnFlat (n : Node) : Prop := ∀ s ∈ n.form.slots, s.2.TurnsFlat

theorem gives_convertParams {params : List Node} (each : ∀ p ∈ params, p.PartsTurnFlat) :
    (convertParams id params).Gives (∀ u ∈ ·, u.Flat) := by
  induction params with
  | nil => exact gives_pure (by simp)
  | cons p ps ih =>
    obtain ⟨first, rest⟩ := List.forall_mem_cons.mp each
    have typed {type : Node} (slot : (.type, type) ∈ p.form.slots) :
        (convertType id type >>= fun u => convertParams id ps >>= fun us => pure (u :: us)).Gives
          (∀ u ∈ ·, u.Flat) :=
      Gives.bind (first _ slot) fun u flat => (ih rest).map fun us others =>
        List.forall_mem_cons.mpr ⟨flat, others⟩
    unfold convertParams
    split
    next => exact gives_pure (by simp)
    next found =>
      cases found
      exact typed List.mem_cons_self
    next found =>
      cases found
      exact typed List.mem_cons_self
    next => exact gives_fail

theorem gives_convertRest {rest : Option Node} (each : ∀ p, rest = some p → p.PartsTurnFlat) :
    (convertRest id rest).Gives (∀ u, · = some u → u.Flat) := by
  have typed {p type : Node} (found : rest = some p) (slot : (.type, type) ∈ p.form.slots) :
      (convertType id type >>= fun u => pure (some u)).Gives (∀ u, · = some u → u.Flat) :=
    Gives.map (each p found _ slot) fun u flat => by simpa using flat
  unfold convertRest
  split
  next => exact gives_pure (by simp)
  next => exact typed rfl List.mem_cons_self
  next => exact typed rfl List.mem_cons_self
  next => exact gives_fail

theorem gives_convertTparamList {params : List Node} (each : ∀ p ∈ params, p.PartsTurnFlat) :
    (convertTparamList id params).Gives (∀ u ∈ ·, u.Flat) := by
  induction params with
  | nil => exact gives_pure (by simp)
  | cons p ps ih =>
    obtain ⟨first, rest⟩ := List.forall_mem_cons.mp each
    unfold convertTparamList
    split
    next => exact gives_pure (by simp)
    next i name bound default variance qs found =>
      cases found
      simp only [Node.PartsTurnFlat, Form.slots, FlowForm.slots, List.forall_mem_append,
        Role.forall_mem_for?] at first
      refine gives_then (Gives.bind (gives_convertType? first.1) fun b flatBound =>
        Gives.bind (gives_convertType? first.2) fun d flatDefault =>
        (ih rest).map fun us others => List.forall_mem_cons.mpr ⟨flat_ts (by simp) ?_, others⟩)
      simp only [TsForm.slots, List.forall_mem_append, Role.forall_mem_for?]
      exact ⟨flatBound, flatDefault⟩
    next => exact gives_fail

theorem gives_convertTparams {tparams : Option Node} (flat : ∀ t, tparams = some t → t.Flat)
    (each : ∀ t, tparams = some t → ∀ p ∈ t.children, p.PartsTurnFlat) :
    (convertTparams id tparams).Gives (∀ u, · = some u → u.Flat) := by
  unfold convertTparams
  split
  next => exact gives_pure (by simp)
  next => exact gives_pure flat
  next i params =>
    refine Gives.map (gives_convertTparamList fun p member => each _ rfl p ?_) fun us others => ?_
    · simpa [Node.children, Form.children, Form.parts, FlowForm.parts] using member
    · rintro u ⟨⟩
      exact flat_ts (by simp) (Role.forall_mem_forAll.mpr others)
  next =>
    split
    · exact gives_pure flat
    · exact gives_fail

theorem gives_convertTargs {targs : Option Node} (flat : ∀ t, targs = some t → t.Flat)
    (each : ∀ t, targs = some t → t.PartsTurnFlat) :
    (convertTargs id targs).Gives (∀ u, · = some u → u.Flat) := by
  unfold convertTargs
  split
  next => exact gives_pure (by simp)
  next => exact gives_pure flat
  next i types =>
    have turns := Role.forall_mem_forAll.mp (each _ rfl)
    refine Gives.map (gives_convertEach turns) fun us others => ?_
    intro u found
    split at found
    · cases found
    · cases found
      exact flat_ts (by simp) (Role.forall_mem_forAll.mpr others)
  next =>
    split
    · exact gives_pure flat
    · exact gives_fail

theorem gives_convertFunction {n : Node} (flat : n.Flat) (turns : n.TurnsFlat) :
    (convertFunction id n).Gives Flat := by
  unfold convertFunction
  split
  next => exact gives_pure flat
  next =>
    rw [Node.TurnsFlat, convertType] at turns
    exact turns
  next =>
    split
    · exact gives_pure flat
    · exact gives_fail

theorem gives_convertMember {n : Node} (flat : n.Flat) (parts : n.PartsTurnFlat) :
    (convertMember id n).Gives Flat := by
  unfold convertMember
  split
  next => exact gives_pure flat
  next i key value optional variance method =>
    have turns : value.TurnsFlat := parts _ List.mem_cons_self
    refine gives_then ?_
    split
    · have flatValue : value.Flat := flat.of_slot List.mem_cons_self
      refine (gives_convertFunction flatValue turns).map fun u inner => ?_
      exact flat_ts (by simp) (List.forall_mem_singleton.mpr inner)
    · refine Gives.map turns fun u inner => ?_
      exact flat_ts (by simp) (List.forall_mem_singleton.mpr inner)
  next i name key value variance =>
    simp only [Node.PartsTurnFlat, Form.slots, FlowForm.slots, List.forall_mem_cons] at parts
    refine gives_then (Gives.bind parts.1 fun k flatKey => Gives.map parts.2.1 fun v flatValue => ?_)
    exact flat_ts (by simp) (by simp [TsForm.slots, flatKey, flatValue])
  next i type => exact parts _ List.mem_cons_self
  next =>
    split
    · exact gives_pure flat
    · exact gives_fail

theorem gives_convertMapped {pos : Int} {members : List Node}
    (each : ∀ m ∈ members, m.PartsTurnFlat) : (convertMapped id pos members).Gives Flat := by
  induction members with
  | nil => exact gives_pure (flat_typeLiteral (by simp))
  | cons m ms ih =>
    obtain ⟨first, rest⟩ := List.forall_mem_cons.mp each
    unfold convertMapped
    split
    next i name key value variance ns found =>
      cases found
      simp only [Node.PartsTurnFlat, Form.slots, FlowForm.slots, List.forall_mem_cons] at first
      refine gives_then (Gives.bind first.1 fun k flatKey =>
        Gives.map first.2.1 fun v flatValue => ?_)
      exact flat_ts (by simp) (by simp [TsForm.slots, flatKey, flatValue])
    next found =>
      cases found
      exact ih rest
    next found => cases found

theorem gives_convertFields {seen : Bool} {members : List Node} (flat : ∀ m ∈ members, m.Flat)
    (each : ∀ m ∈ members, m.PartsTurnFlat) :
    (convertFields id seen members).Gives
      fun parts => (∀ u ∈ parts.1, u.Flat) ∧ ∀ u ∈ parts.2, u.Flat := by
  induction members generalizing seen with
  | nil => exact gives_pure (by simp)
  | cons m ms ih =>
    obtain ⟨flatFirst, flatRest⟩ := List.forall_mem_cons.mp flat
    obtain ⟨first, rest⟩ := List.forall_mem_cons.mp each
    have member := gives_convertMember flatFirst first
    rw [convertFields]
    split
    · exact member.bind fun u flatSpread => (ih flatRest rest).map fun parts others =>
        ⟨others.1, List.forall_mem_cons.mpr ⟨flatSpread, others.2⟩⟩
    split
    · exact gives_then (ih flatRest rest)
    · refine member.bind fun u flatField => (ih flatRest rest).map fun parts others =>
        ⟨List.forall_mem_cons.mpr ⟨?_, others.1⟩, others.2⟩
      unfold withCommentsOf
      split
      · exact flatField
      · exact flatField.keepComments

end Layers

/-- All types below a flat node are converted to flat types. -/
structure Node.FlatBelow (n : Node) : Prop where
  flat : n.Flat
  turns : ∀ m ∈ n.descendants, m.TurnsFlat

namespace Node.FlatBelow

variable {n : Node}

theorem of_child {c : Node} (below : n.FlatBelow) (child : c ∈ n.children) : c.FlatBelow where
  flat := below.flat.of_child child
  turns m lower := below.turns m (descendants_trans (descendants_subset_preorder lower)
    (child_mem_descendants child))

theorem parts (below : n.FlatBelow) : n.PartsTurnFlat := fun _ slot =>
  below.turns _ (child_mem_descendants (mem_children_of_slot slot))

theorem of_slot {s : Role × Node} (below : n.FlatBelow) (slot : s ∈ n.form.slots) : s.2.FlatBelow :=
  below.of_child (mem_children_of_slot slot)

end Node.FlatBelow

section Types

variable {i : Info}

theorem turnsFlat_object {members : List Node} {exact : Bool}
    (below : Node.FlatBelow ⟨i, .flow (.object members exact)⟩) :
    Node.TurnsFlat ⟨i, .flow (.object members exact)⟩ := by
  have member : ∀ m ∈ members, m.FlatBelow :=
    fun m among => below.of_slot (s := (.typeMember, m)) (List.mem_map_of_mem among)
  rw [Node.TurnsFlat, convertType]
  split
  · exact gives_then (gives_convertMapped fun m among => (member m among).parts)
  · refine Gives.map (gives_convertFields (fun m among => (member m among).flat)
      fun m among => (member m among).parts) fun parts flat => ?_
    exact flat_objectOf flat.1 flat.2

theorem turnsFlat_function {tparams rest : Option Node} {params : List Node} {ret : Node}
    (below : Node.FlatBelow ⟨i, .flow (.function tparams params rest ret)⟩) :
    Node.TurnsFlat ⟨i, .flow (.function tparams params rest ret)⟩ := by
  have slots : ∀ s ∈ (FlowForm.function tparams params rest ret).slots, s.2.FlatBelow :=
    fun _ => below.of_slot
  have turns : ret.TurnsFlat := below.parts (.type, ret) (by simp [Form.slots, FlowForm.slots])
  simp only [FlowForm.slots, List.forall_mem_append, Role.forall_mem_for?, Role.forall_mem_forAll]
    at slots
  obtain ⟨⟨⟨isTparams, areParams⟩, isRest⟩, -⟩ := slots
  rw [Node.TurnsFlat, convertType]
  refine Gives.bind (gives_convertParams fun p among => (areParams p among).parts)
    fun types flatTypes => ?_
  refine Gives.bind (gives_convertRest fun p found => (isRest p found).parts)
    fun restType flatRest => ?_
  refine Gives.bind (gives_convertTparams (fun t found => (isTparams t found).flat)
    fun t found p child => ((isTparams t found).of_child child).parts) fun new flatTparams => ?_
  refine Gives.map turns fun u flatRet => flat_ts (by simp) ?_
  simp only [TsForm.slots, List.forall_mem_append, Role.forall_mem_for?, Role.forall_mem_forAll,
    List.forall_mem_singleton]
  exact ⟨⟨⟨flatTparams, flat_tsParams flatTypes⟩, flat_tsRest flatRest⟩, flatRet⟩

theorem turnsFlat_generic {name : Node} {targs : Option Node}
    (below : Node.FlatBelow ⟨i, .flow (.generic name targs)⟩) :
    Node.TurnsFlat ⟨i, .flow (.generic name targs)⟩ := by
  have slots : ∀ s ∈ (FlowForm.generic name targs).slots, s.2.FlatBelow := fun _ => below.of_slot
  simp only [FlowForm.slots, List.forall_mem_cons, Role.forall_mem_for?] at slots
  obtain ⟨isName, areTargs⟩ := slots
  have each : ∀ t ∈ argumentsOf targs, t.TurnsFlat := by
    intro t member
    unfold argumentsOf at member
    split at member
    next => exact Role.forall_mem_forAll.mp (areTargs _ rfl).parts t member
    next => exact Role.forall_mem_forAll.mp (areTargs _ rfl).parts t member
    next => cases member
  rw [Node.TurnsFlat, convertType]
  split
  next u _ =>
    refine Gives.map (gives_convertArguments each) fun args flat => flat_build flat ?_
    -- the copies are the converted arguments once more, or none
    intro t copied
    split at copied
    · cases found : (convertArguments id u.usesFirst targs).result with
      | error e => simp [Outcome.toOption, found, Except.toOption] at copied
      | ok copies =>
        rw [Outcome.toOption, found] at copied
        exact gives_convertArguments each copies found t copied
    · cases copied
  next =>
    refine Gives.bind (P := Flat) (fun u found => flat_referenceEntity isName.flat found)
      fun u flat => ?_
    exact Gives.map (gives_convertTargs (fun t found => (areTargs t found).flat)
      fun t found => (areTargs t found).parts) fun us arguments => flat_ref flat arguments

theorem turnsFlat_typeOf {arg : Node} (below : Node.FlatBelow ⟨i, .flow (.typeOf arg)⟩) :
    Node.TurnsFlat ⟨i, .flow (.typeOf arg)⟩ := by
  have inner : arg.FlatBelow := below.of_slot List.mem_cons_self
  have turns : arg.TurnsFlat := below.parts _ List.mem_cons_self
  by_cases reference : ∃ j name targs, arg = ⟨j, .flow (.generic name targs)⟩
  · obtain ⟨j, name, targs, rfl⟩ := reference
    have isName : name.Flat := inner.flat.of_slot List.mem_cons_self
    rw [Node.TurnsFlat, convertType]
    refine Gives.map (P := Flat) (fun u found => flat_entity isName found) fun u flat => ?_
    exact flat_ts (by simp) (List.forall_mem_singleton.mpr flat)
  · rw [Node.TurnsFlat, convertType]
    · exact gives_then turns
    · exact fun j name targs same => reference ⟨j, name, targs, same⟩

end Types

/-- The conversion of a flat tree is flat. -/
theorem Node.Flat.turnsFlat {n : Node} (flat : n.Flat) : n.TurnsFlat := by
  induction n using Node.descend with
  | step n ih =>
    have below : n.FlatBelow := ⟨flat, fun m lower =>
      ih m lower (flat.of_mem (Node.descendants_subset_preorder lower))⟩
    have parts := below.parts
    have leaf {f : TsForm Node} (empty : f.slots = []) (other : ∀ types, f ≠ .union types) :
        (pure (.ts n.pos f) : Outcome Node).Gives Flat :=
      gives_pure (flat_ts other (by simp [empty]))
    rcases n with ⟨i, f⟩
    cases f with
    | ts f => exact gives_pure flat
    | flow f =>
      cases f with
      | primitive p => exact leaf rfl (by simp)
      | stringLit raw => exact leaf rfl (by simp)
      | numberLit raw => exact leaf rfl (by simp)
      | booleanLit raw => exact leaf rfl (by simp)
      | object members exact => exact turnsFlat_object below
      | function tparams params rest ret => exact turnsFlat_function below
      | generic name targs => exact turnsFlat_generic below
      | typeOf arg => exact turnsFlat_typeOf below
      | annot type =>
        rw [TurnsFlat, convertType]
        exact Gives.map (parts _ List.mem_cons_self) fun u inner =>
          flat_ts (by simp) (List.forall_mem_singleton.mpr inner)
      | nullable inner =>
        rw [TurnsFlat, convertType]
        refine Gives.map (parts _ List.mem_cons_self) fun u inner => flat_unionOf ?_
        have null : (Node.ts i.pos (.keyword .null)).Flat := flat_ts (by simp) (by simp [TsForm.slots])
        exact List.forall_mem_cons.mpr ⟨inner, List.forall_mem_singleton.mpr null⟩
      | array elem =>
        rw [TurnsFlat, convertType]
        exact Gives.map (parts _ List.mem_cons_self) fun u inner =>
          flat_ts (by simp) (List.forall_mem_singleton.mpr inner)
      | tuple types =>
        rw [TurnsFlat, convertType]
        exact Gives.map (gives_convertTypes (Role.forall_mem_forAll.mp parts)) fun us inner =>
          flat_ts (by simp) (Role.forall_mem_forAll.mpr inner)
      | union types =>
        rw [TurnsFlat, convertType]
        exact Gives.map (gives_convertTypes (Role.forall_mem_forAll.mp parts)) fun us inner =>
          flat_unionOf inner
      | intersection types =>
        rw [TurnsFlat, convertType]
        exact Gives.map (gives_convertTypes (Role.forall_mem_forAll.mp parts)) fun us inner =>
          flat_intersection inner
      | _ => exact gives_fail
    | expr f => exact gives_fail
    | stmt f => exact gives_fail
    | foreign kind ps =>
      change (if _ then _ else _ : Outcome Node).Gives Flat
      split
      · exact gives_pure flat
      · exact gives_fail

end Retype
