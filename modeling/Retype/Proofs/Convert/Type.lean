import Retype.Proofs.Convert.Helper

/-!
# Every type of the source converts

A type of the source converts without failure, and to the same TypeScript type at every
stage of the passes.  The same holds of the members of object types, of type parameters,
of type arguments and of annotations.  The last three are layers that a pass converts in
their place: after that pass, the conversion around them finds what it would have made
of them itself.

The proof goes down the tree.  A lemma says for each layer how its conversion follows
from those of the layers below it.
-/

namespace Retype.Convert

open Node (Converted Parsed after)
open Outcome (fail warn warnIf ofExcept attempt)

/-- A type converts to one and the same type, and a function type to a function type. -/
def TypeYields (n : Node) : Prop :=
  Yields (fun keep S => convertType keep (n.after S)) fun u =>
    u.Plays Converted .type ∧ (isFunctionType n → isFunctionType u)

/-- A converted type is kept. -/
theorem convertType_converted {keep : Node → Node} (fixes : Fixes keep) {u : Node}
    (plays : u.Plays Converted .type) : (convertType keep u).result = .ok u := by
  rcases u with ⟨i, f⟩
  rcases Form.dialect_of_type plays.1 with ⟨g, rfl⟩ | ⟨g, rfl⟩
  · rcases plays.2.extra with ⟨_, absurdForm⟩ | ⟨_, absurdForm⟩ | ⟨_, _, absurdForm⟩ <;>
      cases absurdForm
  · rw [convertType]
    exact congrArg Except.ok (fixes _ plays.2)

theorem convertTypes_converted {keep : Node → Node} (fixes : Fixes keep) {us : List Node}
    (areTypes : ∀ u ∈ us, u.Plays Converted .type) :
    (convertTypes keep us).result = .ok us ∧ (convertFirst keep us).result = .ok (us.take 1) := by
  induction us with
  | nil => exact ⟨rfl, rfl⟩
  | cons u us ih =>
    obtain ⟨isType, rest⟩ := List.forall_mem_cons.mp areTypes
    have first := convertType_converted fixes isType
    constructor
    · rw [convertTypes, Outcome.bind_of_ok first, Outcome.bind_of_ok (ih rest).1]
      rfl
    · rw [convertFirst, Outcome.bind_of_ok first]
      rfl

/-! ## Rows of types -/

/-- Types in a row convert to types in a row.  None of them is dropped. -/
theorem types_yield {types : List Node} (each : ∀ t ∈ types, TypeYields t) :
    ∃ us : List Node, us.length = types.length ∧ (∀ u ∈ us, u.Plays Converted .type)
      ∧ ∀ keep S, Fixes keep →
        (convertTypes keep (types.map (after S))).result = .ok us
          ∧ (convertEach keep (types.map (after S))).result = .ok us
          ∧ (convertFirst keep (types.map (after S))).result = .ok (us.take 1) := by
  induction types with
  | nil => exact ⟨[], rfl, by simp, fun _ _ _ => ⟨rfl, rfl, rfl⟩⟩
  | cons t ts ih =>
    obtain ⟨u, ⟨isType, -⟩, first⟩ := each t List.mem_cons_self
    obtain ⟨us, length, areTypes, rest⟩ := ih fun s member => each s (List.mem_cons_of_mem t member)
    refine ⟨u :: us, by simp [length], List.forall_mem_cons.mpr ⟨isType, areTypes⟩, ?_⟩
    intro keep S fixes
    obtain ⟨all, some, -⟩ := rest keep S fixes
    have head := first keep S fixes
    have tried : ((convertType keep (t.after S)).attempt .typeArgument (t.after S).pos).result
        = .ok (Option.some u) := by
      rw [attempt, head]
    refine ⟨?_, ?_, ?_⟩
    · rw [List.map_cons, convertTypes, Outcome.bind_of_ok head, Outcome.bind_of_ok all]
      rfl
    · rw [List.map_cons, convertEach, Outcome.bind_of_ok tried, Outcome.bind_of_ok some]
      rfl
    · rw [List.map_cons, convertFirst, Outcome.bind_of_ok head]
      rfl

theorem type?_yields {type : Option Node} (each : ∀ t, type = some t → TypeYields t) :
    Yields (fun keep S => convertType? keep (type.map (after S)))
      fun u => ∀ t, u = some t → t.Plays Converted .type := by
  cases type with
  | none => exact ⟨none, by simp, fun _ _ _ => rfl⟩
  | some t =>
    refine yields_of_eq (yields_map (f := some) (each t rfl) ?_) fun _ _ => by
      rw [Option.map_some, convertType?]
    rintro u ⟨isType, -⟩ _ ⟨⟩
    exact isType

theorem params_yield {params : List Node} (fits : ∀ p ∈ params, p.Plays Parsed .fnParam)
    (each : ∀ p ∈ params, ∀ t ∈ p.children, t.Plays Parsed .type → TypeYields t) :
    Yields (fun keep S => convertParams keep (params.map (after S)))
      fun us => ∀ u ∈ us, u.Plays Converted .type := by
  induction params with
  | nil => exact ⟨[], by simp, fun _ _ _ => rfl⟩
  | cons p ps ih =>
    obtain ⟨i, name, type, optional, rfl, isType⟩ := param_cases (fits p List.mem_cons_self)
    have first := each _ List.mem_cons_self type
      (by simp [Node.children, Form.children, Form.parts, FlowForm.parts]) isType
    have rest := ih (fun q member => fits q (List.mem_cons_of_mem _ member))
      fun q member => each q (List.mem_cons_of_mem _ member)
    refine yields_of_eq (yields_bind first fun u converted =>
      yields_map (f := (u :: ·)) rest fun us areTypes =>
        List.forall_mem_cons.mpr ⟨converted.1, areTypes⟩) fun keep S => ?_
    rw [List.map_cons, Node.after_of_topic_none rfl]
    exact convertParams.eq_2 ..

theorem rest_yields {rest : Option Node} (fits : ∀ r, rest = some r → r.Plays Parsed .fnParam)
    (each : ∀ r, rest = some r → ∀ t ∈ r.children, t.Plays Parsed .type → TypeYields t) :
    Yields (fun keep S => convertRest keep (rest.map (after S)))
      fun u => ∀ t, u = some t → t.Plays Converted .type := by
  cases rest with
  | none => exact ⟨none, by simp, fun _ _ _ => rfl⟩
  | some r =>
    obtain ⟨i, name, type, optional, rfl, isType⟩ := param_cases (fits r rfl)
    have only := each _ rfl type
      (by simp [Node.children, Form.children, Form.parts, FlowForm.parts]) isType
    refine yields_of_eq (yields_map (f := some) only ?_) fun keep S => ?_
    · rintro u ⟨converted, -⟩ _ ⟨⟩
      exact converted
    · rw [Option.map_some, Node.after_of_topic_none rfl]
      exact convertRest.eq_2 ..

/-! ## Layers that are converted in their place -/

section Holders

/-- The types below a node convert. -/
def TypesYieldBelow (n : Node) : Prop :=
  ∀ t ∈ n.descendants, t.Plays Parsed .type → TypeYields t

theorem TypesYieldBelow.child {c n : Node} (below : TypesYieldBelow n) (child : c ∈ n.children) :
    TypesYieldBelow c := fun t lower =>
  below t (Node.descendants_trans (Node.descendants_subset_preorder lower)
    (Node.child_mem_descendants child))

theorem TypesYieldBelow.type {t n : Node} (below : TypesYieldBelow n) (child : t ∈ n.children)
    (plays : t.Plays Parsed .type) : TypeYields t :=
  below t (Node.child_mem_descendants child) plays

theorem tparam_cases {n : Node} (plays : n.Plays Parsed .tparam) :
    ∃ i name bound default variance, n = ⟨i, .flow (.tparam name bound default variance)⟩
      ∧ (∀ t, bound = some t → t.Plays Parsed .type)
      ∧ ∀ t, default = some t → t.Plays Parsed .type := by
  obtain ⟨i, f, rfl, role, -, slots, -⟩ := Node.flow_of_typing plays rfl
  cases f with
  | tparam name bound default variance =>
    simp only [FlowForm.slots, List.forall_mem_append, Role.forall_mem_for?] at slots
    exact ⟨i, name, bound, default, variance, rfl, slots⟩
  | _ => simp [FlowForm.roles, Role.ofExpr] at role

theorem tparamList_yields {params : List Node} (fits : ∀ p ∈ params, p.Plays Parsed .tparam)
    (each : ∀ p ∈ params, ∀ t ∈ p.children, t.Plays Parsed .type → TypeYields t) :
    Yields (fun keep S => convertTparamList keep (params.map (after S)))
      fun us => ∀ u ∈ us, u.Plays Converted .tparam := by
  induction params with
  | nil => exact ⟨[], by simp, fun _ _ _ => rfl⟩
  | cons p ps ih =>
    obtain ⟨i, name, bound, default, variance, rfl, boundType, defaultType⟩ :=
      tparam_cases (fits p List.mem_cons_self)
    have child : ∀ t, bound = some t ∨ default = some t →
        t ∈ (⟨i, .flow (.tparam name bound default variance)⟩ : Node).children := by
      simp [Node.children, Form.children, Form.parts, FlowForm.parts, Part.ofVariance?]
    have boundYields := type?_yields fun t found =>
      each _ List.mem_cons_self t (child t (.inl found)) (boundType t found)
    have defaultYields := type?_yields fun t found =>
      each _ List.mem_cons_self t (child t (.inr found)) (defaultType t found)
    have rest := ih (fun q member => fits q (List.mem_cons_of_mem _ member))
      fun q member => each q (List.mem_cons_of_mem _ member)
    refine yields_of_eq (yields_after_warning
      (fun _ => warnIf (isMarked variance) (.parameterVariance name) i.pos)
      (fun _ => warnIf_result ..)
      (yields_bind boundYields fun b isBound => yields_bind defaultYields fun d isDefault =>
        yields_map (f := (Node.ts i.pos (.tparam name b d) :: ·)) rest fun us areTparams => ?_))
      fun keep S => ?_
    · refine List.forall_mem_cons.mpr ⟨?_, areTparams⟩
      rw [plays_ts_iff]
      simp only [TsForm.slots, List.forall_mem_append, Role.forall_mem_for?]
      exact ⟨by simp [TsForm.roles], trivial, isBound, isDefault⟩
    · have same : (⟨i, .flow (.tparam name bound default variance)⟩ : Node).after S
          = ⟨i, .flow (.tparam name (bound.map (after S)) (default.map (after S)) variance)⟩ := by
        rw [Node.after_of_topic_none rfl]
        simp [Node.layer, Node.withForm, FlowForm.map, FlowForm.mapM]
      rw [List.map_cons, same]
      exact convertTparamList.eq_2 ..

/-- A rule makes one and the same converted node of a node, at every stage. -/
structure Settles (t : Topic) (r : Role) (n new : Node) : Prop where
  topic : n.form.topic? = some t
  plays : new.Plays Converted r
  apply : ∀ keep S, Fixes keep → (t.apply keep (n.layer S)).result = .ok new

theorem Settles.after {t : Topic} {r : Role} {n new : Node} (settles : Settles t r n new)
    (S : List Topic) : n.after S = if t ∈ S then new else n.layer S := by
  split
  next member => exact Node.after_of_apply settles.topic member (settles.apply id S fixes_id)
  next absent =>
    refine Node.after_of_topic fun u member other => absent ?_
    rw [settles.topic] at other
    exact Option.some.inj other ▸ member

/-- What holds of the layer and of the new node holds after all topics. -/
theorem Settles.of_both {t : Topic} {r : Role} {n new : Node} {P : Node → Prop}
    (settles : Settles t r n new) (S : List Topic) (onLayer : P (n.layer S)) (onNew : P new) :
    P (n.after S) := by
  rw [settles.after]
  split
  · exact onNew
  · exact onLayer

/-- Type parameters before and after their own pass. -/
theorem tparams_yield {n : Node} (plays : n.Plays Parsed .tparams) (below : TypesYieldBelow n) :
    ∃ f, Settles .parameters .tparams n (.ts n.pos f)
      ∧ ∀ keep S, Fixes keep →
        (convertTparams keep (some (n.after S))).result = .ok (some (.ts n.pos f)) := by
  obtain ⟨i, f, rfl, role, -, slots, holder⟩ := Node.flow_of_typing plays rfl
  cases f with
  | tparams params =>
    simp only [FlowForm.slots, Role.forall_mem_forAll] at slots
    obtain ⟨us, areTparams, result⟩ := tparamList_yields slots fun p member t child isType =>
      below t (Node.mem_descendants_iff.mpr ⟨p, by simpa [Node.children, Form.children, Form.parts,
        FlowForm.parts] using member, Node.descendants_subset_preorder
          (Node.child_mem_descendants child)⟩) isType
    have core : ∀ keep S, Fixes keep → (convertTparams keep
        (some (Node.layer S ⟨i, .flow (.tparams params)⟩))).result
          = .ok (some (.ts i.pos (.tparams us))) := by
      intro keep S fixes
      have same : Node.layer S ⟨i, .flow (.tparams params)⟩
          = ⟨i, .flow (.tparams (params.map (after S)))⟩ := by
        simp [Node.layer, Node.withForm, FlowForm.map, FlowForm.mapM]
      rw [same, convertTparams, Outcome.bind_of_ok (result keep S fixes)]
      rfl
    have new : (Node.ts i.pos (.tparams us)).Plays Converted .tparams := by
      rw [plays_ts_iff]
      simp only [TsForm.slots, Role.forall_mem_forAll]
      exact ⟨by simp [TsForm.roles], trivial, areTparams⟩
    have settles : Settles .parameters .tparams ⟨i, .flow (.tparams params)⟩
        (.ts i.pos (.tparams us)) := by
      refine ⟨rfl, new, fun keep S fixes => ?_⟩
      change (convertTparams keep (some (Node.layer S ⟨i, .flow (.tparams params)⟩)) >>= _).result = _
      rw [Outcome.bind_of_ok (core keep S fixes)]
      exact congrArg Except.ok (become_ts (n := Node.layer S _) (holder rfl))
    refine ⟨_, settles, fun keep S fixes => ?_⟩
    refine settles.of_both (P := fun m => (convertTparams keep (some m)).result = _) S
      (core keep S fixes) ?_
    rw [Node.ts, Node.plain, convertTparams]
    exact congrArg (fun m => Except.ok (some m)) (fixes _ new.2)
  | _ => simp [FlowForm.roles, Role.ofExpr] at role

/-- Type arguments before and after their own pass. -/
theorem targs_yield {n : Node} (plays : n.Plays Parsed .targs) (below : TypesYieldBelow n) :
    ∃ types us, n.form = .flow (.targs types) ∧ us.length = types.length
      ∧ (∀ u ∈ us, u.Plays Converted .type)
      ∧ Settles .arguments .targs n (.ts n.pos (.targs us))
      ∧ ∀ keep S, Fixes keep →
        (convertTargs keep (some (n.after S))).result = .ok (some (.ts n.pos (.targs us)))
          ∧ ∀ first, (convertArguments keep first (some (n.after S))).result
            = .ok (if first then us.take 1 else us) := by
  obtain ⟨i, f, rfl, role, sound, slots, holder⟩ := Node.flow_of_typing plays rfl
  cases f with
  | targs types =>
    simp only [FlowForm.slots, Role.forall_mem_forAll] at slots
    obtain ⟨us, length, areTypes, result⟩ := types_yield fun t member =>
      below t (Node.child_mem_descendants (by simpa [Node.children, Form.children, Form.parts,
        FlowForm.parts] using member)) (slots t member)
    have filled : us.isEmpty = false := by
      cases us with
      | nil => exact absurd (List.length_eq_zero_iff.mp length.symm) sound
      | cons u us => rfl
    have same : ∀ S, Node.layer S ⟨i, .flow (.targs types)⟩
        = ⟨i, .flow (.targs (types.map (after S)))⟩ := by
      intro S
      simp [Node.layer, Node.withForm, FlowForm.map, FlowForm.mapM]
    have core : ∀ keep S, Fixes keep → (convertTargs keep
        (some (Node.layer S ⟨i, .flow (.targs types)⟩))).result
          = .ok (some (.ts i.pos (.targs us))) := by
      intro keep S fixes
      rw [same, convertTargs, Outcome.bind_of_ok (result keep S fixes).2.1]
      simp [filled]
    have new : (Node.ts i.pos (.targs us)).Plays Converted .targs := targs_plays areTypes
    have settles : Settles .arguments .targs ⟨i, .flow (.targs types)⟩ (.ts i.pos (.targs us)) := by
      refine ⟨rfl, new, fun keep S fixes => ?_⟩
      change (convertTargs keep (some (Node.layer S ⟨i, .flow (.targs types)⟩)) >>= _).result = _
      rw [Outcome.bind_of_ok (core keep S fixes)]
      exact congrArg Except.ok (become_ts (n := Node.layer S _) (holder rfl))
    refine ⟨types, us, rfl, length, areTypes, settles, fun keep S fixes => ⟨?_, fun first => ?_⟩⟩
    · refine settles.of_both (P := fun m => (convertTargs keep (some m)).result = _) S
        (core keep S fixes) ?_
      rw [Node.ts, Node.plain, convertTargs]
      exact congrArg (fun m => Except.ok (some m)) (fixes _ new.2)
    · refine settles.of_both (P := fun m => (convertArguments keep first (some m)).result = _) S ?_ ?_
      · rw [same, convertArguments]
        cases first with
        | false => exact (result keep S fixes).1
        | true => exact (result keep S fixes).2.2
      · rw [Node.ts, Node.plain, convertArguments]
        cases first with
        | false => exact (convertTypes_converted fixes areTypes).1
        | true => exact (convertTypes_converted fixes areTypes).2
  | _ => simp [FlowForm.roles, Role.ofExpr] at role

/-- An annotation before and after its own pass. -/
theorem annot_yields {n : Node} (plays : n.Plays Parsed .annot) (below : TypesYieldBelow n) :
    ∃ t u, n.form = .flow (.annot t) ∧ t.Plays Parsed .type ∧ u.Plays Converted .type
      ∧ (isFunctionType t → isFunctionType u)
      ∧ Settles .annotations .annot n (.ts n.pos (.annot u))
      ∧ ∀ keep S, Fixes keep →
        (convertType keep (n.after S)).result = .ok (.ts n.pos (.annot u))
          ∧ (convertType keep (t.after S)).result = .ok u := by
  obtain ⟨i, f, rfl, role, -, slots, holder⟩ := Node.flow_of_typing plays rfl
  cases f with
  | annot t =>
    simp only [FlowForm.slots, List.forall_mem_singleton] at slots
    obtain ⟨u, ⟨isType, function⟩, result⟩ := below t (Node.child_mem_descendants
      (by simp [Node.children, Form.children, Form.parts, FlowForm.parts])) slots
    have core : ∀ keep S, Fixes keep → (convertType keep
        (Node.layer S ⟨i, .flow (.annot t)⟩)).result = .ok (.ts i.pos (.annot u)) := by
      intro keep S fixes
      change (convertType keep ⟨i, .flow (.annot (t.after S))⟩).result = _
      rw [convertType, Outcome.bind_of_ok (result keep S fixes)]
      rfl
    have new : (Node.ts i.pos (.annot u)).Plays Converted .annot := by
      rw [plays_ts_iff]
      simp [TsForm.roles, TsForm.Sound, TsForm.slots, isType]
    have settles : Settles .annotations .annot ⟨i, .flow (.annot t)⟩ (.ts i.pos (.annot u)) := by
      refine ⟨rfl, new, fun keep S fixes => ?_⟩
      change (convertType keep (Node.layer S ⟨i, .flow (.annot t)⟩) >>= _).result = _
      rw [Outcome.bind_of_ok (core keep S fixes)]
      exact congrArg Except.ok (become_ts (n := Node.layer S _) (holder rfl))
    refine ⟨t, u, rfl, slots, isType, function, settles, fun keep S fixes => ⟨?_, result keep S fixes⟩⟩
    refine settles.of_both (P := fun m => (convertType keep m).result = _) S (core keep S fixes) ?_
    rw [Node.ts, Node.plain, convertType]
    exact congrArg Except.ok (fixes _ new.2)
  | _ => simp [FlowForm.roles, Role.ofExpr] at role

end Holders

/-! ## Members -/

theorem isFunctionType_of_fnType {n : Node} (plays : n.Plays Parsed .fnType) :
    n.Plays Parsed .type ∧ isFunctionType n ∧ (∀ S, isFunctionType (n.after S))
      ∧ ∀ keep S, convertFunction keep (n.after S) = convertType keep (n.after S) := by
  have formed := plays.2
  obtain ⟨i, f, rfl, role, -, -, -⟩ := Node.flow_of_typing plays rfl
  cases f with
  | function tparams params rest ret =>
    refine ⟨⟨by simp [Form.roles, FlowForm.roles], formed⟩, rfl, fun S => ?_, fun keep S => ?_⟩
    · rw [Node.after_of_topic_none rfl]
      rfl
    rw [Node.after_of_topic_none rfl]
    exact (convertFunction.eq_2 ..).trans (convertType.eq_13 ..).symm
  | _ => simp [FlowForm.roles, Role.ofExpr] at role

/-- A function type plays its role. -/
theorem fnType_of_isFunctionType {E : Node → Prop} {u : Node} (plays : u.Plays E .type)
    (function : isFunctionType u) : u.Plays E .fnType := by
  refine ⟨?_, plays.2⟩
  rw [isFunctionType] at function
  split at function
  next form => simp [form, Form.roles, FlowForm.roles]
  next form => simp [form, Form.roles, TsForm.roles]
  next => cases function

theorem function_yields {n : Node} (plays : n.Plays Parsed .fnType) (each : TypeYields n) :
    Yields (fun keep S => convertFunction keep (n.after S)) (Node.Plays Converted .fnType) := by
  obtain ⟨-, isFunction, -, same⟩ := isFunctionType_of_fnType plays
  refine yields_of_eq (yields_mono each fun u converted => ?_) same
  exact fnType_of_isFunctionType converted.1 (converted.2 isFunction)

/-- A member of an object type converts to a member, and a spread to a type. -/
theorem member_yields {n : Node} (plays : n.Plays Parsed .typeMember) (below : TypesYieldBelow n) :
    Yields (fun keep S => convertMember keep (n.after S))
      (Node.Plays Converted (if isSpread n then .type else .typeMember)) := by
  rcases member_cases plays with ⟨i, key, value, optional, variance, method, rfl, fits⟩
    | ⟨i, id, key, value, variance, rfl, isKey, isValue⟩ | ⟨i, type, rfl, isType⟩
  · have child : value ∈ (⟨i, .flow (.prop key value optional variance method)⟩ : Node).descendants :=
      Node.child_mem_descendants
        (by simp [Node.children, Form.children, Form.parts, FlowForm.parts])
    cases method with
    | true =>
      have fn := function_yields fits (below value child (isFunctionType_of_fnType fits).1)
      refine yields_of_eq (yields_after_warning
        (fun _ => warnIf (isContravariant variance) (.contravariantField key) i.pos)
        (fun _ => warnIf_result ..)
        (yields_map (f := fun u => Node.ts i.pos (.methodSig key u optional)) fn fun u isFn => ?_))
        fun keep S => ?_
      · rw [plays_ts_iff]
        simp [TsForm.roles, TsForm.Sound, TsForm.slots, isFn, isSpread]
      · rw [Node.after_of_topic_none rfl]
        exact convertMember.eq_2 ..
    | false =>
      refine yields_of_eq (yields_after_warning
        (fun _ => warnIf (isContravariant variance) (.contravariantField key) i.pos)
        (fun _ => warnIf_result ..)
        (yields_map (f := fun u => Node.ts i.pos (.propSig key u optional (isCovariant variance)))
          (below value child fits) fun u isType => ?_))
        fun keep S => ?_
      · rw [plays_ts_iff]
        simp [TsForm.roles, TsForm.Sound, TsForm.slots, isType, isSpread]
      · rw [Node.after_of_topic_none rfl]
        exact convertMember.eq_2 ..
  · have child : ∀ t, t = key ∨ t = value →
        t ∈ (⟨i, .flow (.indexer id key value variance)⟩ : Node).descendants := by
      intro t either
      refine Node.child_mem_descendants ?_
      rcases either with rfl | rfl <;>
        simp [Node.children, Form.children, Form.parts, FlowForm.parts]
    refine yields_of_eq (yields_after_warning
      (fun _ => warnIf (isContravariant variance) .contravariantIndexer i.pos)
      (fun _ => warnIf_result ..)
      (yields_bind (below key (child key (.inl rfl)) isKey) fun k converted =>
        yields_map (f := fun v => Node.ts i.pos
            (.indexSig (indexKeyName id key) k v (isCovariant variance)))
          (below value (child value (.inr rfl)) isValue) fun v convertedValue => ?_))
      fun keep S => ?_
    · rw [plays_ts_iff]
      simp [TsForm.roles, TsForm.Sound, TsForm.slots, converted, convertedValue, isSpread]
    · rw [Node.after_of_topic_none rfl, ← indexKeyName_after (S := S) isKey]
      exact convertMember.eq_3 ..
  · have child : type ∈ (⟨i, .flow (.spread type)⟩ : Node).descendants :=
      Node.child_mem_descendants
        (by simp [Node.children, Form.children, Form.parts, FlowForm.parts])
    refine yields_of_eq (yields_mono (below type child isType) fun u converted => converted.1)
      fun keep S => ?_
    rw [Node.after_of_topic_none rfl]
    exact convertMember.eq_4 ..

/-- Comments move from a member to what it becomes. -/
theorem withCommentsOf_after {S : List Topic} {m : Node} (plays : m.Plays Parsed .typeMember)
    (new : Node) : withCommentsOf (m.after S) new = m.keepComments new := by
  obtain ⟨-, -, info, dialect, -⟩ := member_after (S := S) plays
  simp [withCommentsOf, dialect, Node.keepComments, Node.comments, Node.trailing, info]

theorem fields_yield {members : List Node} (seen : Bool)
    (fits : ∀ m ∈ members, m.Plays Parsed .typeMember) (below : ∀ m ∈ members, TypesYieldBelow m) :
    Yields (fun keep S => convertFields keep seen (members.map (after S))) fun parts =>
      (∀ m ∈ parts.1, m.Plays Converted .typeMember) ∧ ∀ t ∈ parts.2, t.Plays Converted .type := by
  induction members generalizing seen with
  | nil => exact ⟨([], []), by simp, fun _ _ _ => rfl⟩
  | cons m ms ih =>
    have isMember := fits m List.mem_cons_self
    have first := member_yields isMember (below m List.mem_cons_self)
    have rest := fun seen => ih seen (fun p member => fits p (List.mem_cons_of_mem m member))
      fun p member => below p (List.mem_cons_of_mem m member)
    have indexer := fun S => (member_after (S := S) isMember).1
    have spread := fun S => (member_after (S := S) isMember).2.1
    cases isSpreadMember : isSpread m with
    | true =>
      rw [isSpreadMember] at first
      refine yields_of_eq (yields_bind first fun t isType => yields_map
        (f := fun parts => (parts.1, t :: parts.2)) (rest seen) fun parts ⟨areFields, areSpreads⟩ =>
          ⟨areFields, List.forall_mem_cons.mpr ⟨isType, areSpreads⟩⟩) fun keep S => ?_
      rw [List.map_cons, convertFields, spread, if_pos isSpreadMember]
    | false =>
      rw [isSpreadMember] at first
      cases dropped : isIndexer m && seen with
      | true =>
        refine yields_of_eq (yields_after_warning (fun S => warn .extraIndexer (m.after S).pos)
          (fun _ => rfl) (rest seen)) fun keep S => ?_
        rw [List.map_cons, convertFields, spread, indexer, if_neg (by simp [isSpreadMember]),
          if_pos dropped]
      | false =>
        refine yields_of_eq (yields_bind first fun u isField => yields_map
          (f := fun parts => (m.keepComments u :: parts.1, parts.2)) (rest (seen || isIndexer m))
            fun parts ⟨areFields, areSpreads⟩ =>
              ⟨List.forall_mem_cons.mpr ⟨plays_of_form isField rfl, areFields⟩, areSpreads⟩)
          fun keep S => ?_
        rw [List.map_cons, convertFields, spread, indexer, if_neg (by simp [isSpreadMember]),
          if_neg (by simp [dropped])]
        simp only [withCommentsOf_after isMember]

theorem mapped_yields (pos : Int) {members : List Node}
    (fits : ∀ m ∈ members, m.Plays Parsed .typeMember) (below : ∀ m ∈ members, TypesYieldBelow m) :
    Yields (fun keep S => convertMapped keep pos (members.map (after S)))
      (Node.Plays Converted .type) := by
  induction members with
  | nil =>
    refine ⟨.ts pos (.typeLiteral []), ?_, fun _ _ _ => rfl⟩
    rw [plays_ts_iff]
    simp [TsForm.roles, TsForm.Sound, TsForm.slots, Role.forAll]
  | cons m ms ih =>
    have rest := ih (fun p member => fits p (List.mem_cons_of_mem m member))
      fun p member => below p (List.mem_cons_of_mem m member)
    rcases member_cases (fits m List.mem_cons_self) with ⟨i, key, value, optional, variance, method, rfl, -⟩
      | ⟨i, id, key, value, variance, rfl, isKey, isValue⟩ | ⟨i, type, rfl, -⟩
    · refine yields_of_eq rest fun keep S => ?_
      rw [List.map_cons, Node.after_of_topic_none rfl]
      exact convertMapped.eq_2 _ _ _ _ (by rintro _ _ _ _ _ ⟨⟩)
    · have child : ∀ t, t = key ∨ t = value →
          t ∈ (⟨i, .flow (.indexer id key value variance)⟩ : Node).descendants := by
        intro t either
        refine Node.child_mem_descendants ?_
        rcases either with rfl | rfl <;>
          simp [Node.children, Form.children, Form.parts, FlowForm.parts]
      have inside := below _ List.mem_cons_self
      refine yields_of_eq (yields_after_warning
        (fun _ => warnIf (isContravariant variance) .contravariantIndexer i.pos)
        (fun _ => warnIf_result ..)
        (yields_bind (inside key (child key (.inl rfl)) isKey) fun k converted =>
          yields_map (f := fun v => Node.ts pos (.mapped mappedName k v (isCovariant variance)))
            (inside value (child value (.inr rfl)) isValue) fun v convertedValue => ?_))
        fun keep S => ?_
      · rw [plays_ts_iff]
        simp [TsForm.roles, TsForm.Sound, TsForm.slots, converted, convertedValue]
      · rw [List.map_cons, Node.after_of_topic_none rfl]
        exact convertMapped.eq_1 ..
    · refine yields_of_eq rest fun keep S => ?_
      rw [List.map_cons, Node.after_of_topic_none rfl]
      exact convertMapped.eq_2 _ _ _ _ (by rintro _ _ _ _ _ ⟨⟩)

/-! ## References -/

section References

variable {id : Node} {targs : Option Node}

/-- The number of type arguments is known at every stage. -/
theorem argumentsOf_after (fits : ∀ t, targs = some t → t.Plays Parsed .targs)
    (below : ∀ t, targs = some t → TypesYieldBelow t) (S : List Topic) :
    (argumentsOf (targs.map (after S))).length = (argumentsOf targs).length := by
  cases targs with
  | none => rfl
  | some t =>
    obtain ⟨types, us, form, length, -, settles, -⟩ := targs_yield (fits t rfl) (below t rfl)
    rcases t with ⟨i, f⟩
    cases form
    refine settles.of_both (P := fun m => (argumentsOf (some m)).length = _) S ?_ length
    simp [Node.layer, Node.withForm, FlowForm.map, FlowForm.mapM, argumentsOf]

theorem utilityOf?_after (isName : id.Plays Parsed .name)
    (fits : ∀ t, targs = some t → t.Plays Parsed .targs)
    (below : ∀ t, targs = some t → TypesYieldBelow t) (S : List Topic) :
    utilityOf? (id.after S) (targs.map (after S)) = utilityOf? id targs := by
  rw [utilityOf?, utilityOf?, after_name isName, argumentsOf_after fits below]

theorem referenceEntity_spec (isName : id.Plays Parsed .name)
    (fits : ∀ t, targs = some t → t.Plays Parsed .targs)
    (below : ∀ t, targs = some t → TypesYieldBelow t) :
    ∃ u : Node, u.Plays Converted .name ∧ ∀ keep S, Fixes keep →
      referenceEntity keep (id.after S) (targs.map (after S)) = .ok u := by
  obtain ⟨u, -, converted, -, entity, -⟩ := entity_spec isName
  have plain : ∃ u : Node, u.Plays Converted .name ∧ ∀ keep S, Fixes keep →
      (referenceEntity keep id (targs.map (after S)) = .ok u) := by
    simp only [referenceEntity, argumentsOf_after fits below, entity]
    split
    next space name form =>
      split
      next other found =>
        split
        · exact ⟨_, uiEntity_plays, fun _ _ _ => rfl⟩
        · exact ⟨u, converted, fun _ _ _ => rfl⟩
      next => exact ⟨u, converted, fun _ _ _ => rfl⟩
    next => exact ⟨u, converted, fun _ _ _ => rfl⟩
  simpa only [after_name isName] using plain

theorem arguments_yield (first : Bool) (fits : ∀ t, targs = some t → t.Plays Parsed .targs)
    (below : ∀ t, targs = some t → TypesYieldBelow t) :
    Yields (fun keep S => convertArguments keep first (targs.map (after S)))
      fun us => ∀ u ∈ us, u.Plays Converted .type := by
  cases targs with
  | none => exact ⟨[], by simp, fun _ _ _ => rfl⟩
  | some t =>
    obtain ⟨types, us, -, -, areTypes, -, result⟩ := targs_yield (fits t rfl) (below t rfl)
    refine ⟨if first then us.take 1 else us, ?_, fun keep S fixes => (result keep S fixes).2 first⟩
    intro u member
    split at member
    · exact areTypes u (List.mem_of_mem_take member)
    · exact areTypes u member

theorem targs?_yield (fits : ∀ t, targs = some t → t.Plays Parsed .targs)
    (below : ∀ t, targs = some t → TypesYieldBelow t) :
    Yields (fun keep S => convertTargs keep (targs.map (after S)))
      fun u => ∀ t, u = some t → t.Plays Converted .targs := by
  cases targs with
  | none => exact ⟨none, by simp, fun _ _ _ => rfl⟩
  | some t =>
    obtain ⟨types, us, -, -, areTypes, -, result⟩ := targs_yield (fits t rfl) (below t rfl)
    refine ⟨some (.ts t.pos (.targs us)), ?_, fun keep S fixes => (result keep S fixes).1⟩
    rintro _ ⟨⟩
    exact targs_plays areTypes

theorem tparams?_yield {tparams : Option Node}
    (fits : ∀ t, tparams = some t → t.Plays Parsed .tparams)
    (below : ∀ t, tparams = some t → TypesYieldBelow t) :
    Yields (fun keep S => convertTparams keep (tparams.map (after S)))
      fun u => ∀ t, u = some t → t.Plays Converted .tparams := by
  cases tparams with
  | none => exact ⟨none, by simp, fun _ _ _ => rfl⟩
  | some t =>
    obtain ⟨f, settles, result⟩ := tparams_yield (fits t rfl) (below t rfl)
    refine ⟨some (.ts t.pos f), ?_, result⟩
    rintro _ ⟨⟩
    exact settles.plays

end References

/-! ## Types -/

section Types

variable {i : Info}

/-- A type that is built of types in a row. -/
theorem row_yields {f : FlowForm Node} (types : List Node) (build : List Node → Node)
    (other : isFunctionType ⟨i, .flow f⟩ = false) (each : ∀ t ∈ types, TypeYields t)
    (plays : ∀ us : List Node, (∀ u ∈ us, u.Plays Converted .type) →
      (build us).Plays Converted .type)
    (same : ∀ keep S, convertType keep (Node.after S ⟨i, .flow f⟩) = do
      return build (← convertTypes keep (types.map (after S)))) :
    TypeYields ⟨i, .flow f⟩ := by
  obtain ⟨us, -, areTypes, result⟩ := types_yield each
  refine ⟨build us, ⟨plays us areTypes, by rw [other]; rintro ⟨⟩⟩, fun keep S fixes => ?_⟩
  dsimp only
  rw [same, Outcome.bind_of_ok (result keep S fixes).1]
  rfl

theorem function_type_yields {tparams : Option Node} {params : List Node} {rest : Option Node}
    {ret : Node}
    (slots : ∀ s ∈ (FlowForm.function tparams params rest ret).slots, s.2.Plays Parsed s.1)
    (below : TypesYieldBelow ⟨i, .flow (.function tparams params rest ret)⟩) :
    TypeYields ⟨i, .flow (.function tparams params rest ret)⟩ := by
  simp only [FlowForm.slots, List.forall_mem_append, Role.forall_mem_for?, Role.forall_mem_forAll,
    List.forall_mem_singleton] at slots
  obtain ⟨⟨⟨areTparams, areParams⟩, isRest⟩, isRet⟩ := slots
  have child : ∀ c, tparams = some c ∨ c ∈ params ∨ rest = some c ∨ c = ret →
      c ∈ (⟨i, .flow (.function tparams params rest ret)⟩ : Node).children := by
    simp [Node.children, Form.children, Form.parts, FlowForm.parts]
  have paramTypes := params_yield areParams fun p member t inner =>
    (below.child (child p (.inr (.inl member)))).type inner
  have restType := rest_yields isRest fun r found t inner =>
    (below.child (child r (.inr (.inr (.inl found))))).type inner
  have tparamsNode := tparams?_yield areTparams fun t found => below.child (child t (.inl found))
  have retType := below.type (child ret (.inr (.inr (.inr rfl)))) isRet
  refine yields_of_eq (yields_bind paramTypes fun types areTypes =>
    yields_bind restType fun restType isRestType => yields_bind tparamsNode fun tps areTps =>
      yields_map (f := fun u => Node.ts i.pos (.function tps
        (tsParams params (paramNames params) types) (tsRest rest restType (paramNames params)) u))
        retType fun u converted => ⟨?_, fun _ => rfl⟩) fun keep S => ?_
  · rw [plays_ts_iff]
    simp only [TsForm.slots, List.forall_mem_append, Role.forall_mem_for?, Role.forall_mem_forAll,
      List.forall_mem_singleton]
    exact ⟨by simp [TsForm.roles], trivial,
      ⟨⟨areTps, tsParams_plays areTypes⟩, tsRest_plays isRestType⟩, converted.1⟩
  · have same : (⟨i, .flow (.function tparams params rest ret)⟩ : Node).after S
        = ⟨i, .flow (.function (tparams.map (after S)) (params.map (after S)) (rest.map (after S))
          (ret.after S))⟩ := by
      rw [Node.after_of_topic_none rfl]
      simp [Node.layer, Node.withForm, FlowForm.map, FlowForm.mapM]
    rw [same, convertType]
    simp only [paramNames_after areParams, tsParams_after areParams, tsRest_after isRest]

theorem generic_yields {name : Node} {targs : Option Node}
    (slots : ∀ s ∈ (FlowForm.generic name targs).slots, s.2.Plays Parsed s.1)
    (below : TypesYieldBelow ⟨i, .flow (.generic name targs)⟩) :
    TypeYields ⟨i, .flow (.generic name targs)⟩ := by
  simp only [FlowForm.slots, List.forall_mem_cons, Role.forall_mem_for?] at slots
  obtain ⟨isName, fits⟩ := slots
  have inside : ∀ t, targs = some t → TypesYieldBelow t := fun t found =>
    below.child (by simp [Node.children, Form.children, Form.parts, FlowForm.parts, found])
  have same : ∀ S, (⟨i, .flow (.generic name targs)⟩ : Node).after S
      = ⟨i, .flow (.generic (name.after S) (targs.map (after S)))⟩ := by
    intro S
    rw [Node.after_of_topic_none rfl]
    simp [Node.layer, Node.withForm, FlowForm.map, FlowForm.mapM]
  cases operation : utilityOf? name targs with
  | some u =>
    obtain ⟨args, areTypes, result⟩ := arguments_yield u.usesFirst fits inside
    have copied : ∀ t ∈ (if u.usesCopy then args else []), t.Plays Converted .type := by
      split
      · exact areTypes
      · simp
    refine ⟨u.build i.pos args (if u.usesCopy then args else []),
      ⟨build_plays areTypes copied, by rintro ⟨⟩⟩, fun keep S fixes => ?_⟩
    dsimp only at result ⊢
    rw [same, convertType, utilityOf?_after isName fits inside, operation]
    dsimp only
    rw [Outcome.bind_of_ok (result keep S fixes)]
    cases u.usesCopy with
    | false => rfl
    | true => simp only [if_true, Outcome.toOption, result id S fixes_id]; rfl
  | none =>
    obtain ⟨entity, isEntity, found⟩ := referenceEntity_spec isName fits inside
    have core : Yields (fun keep S => do
        let name ← ofExcept (referenceEntity keep (name.after S) (targs.map (after S)))
        return Node.ts i.pos (.ref name (← convertTargs keep (targs.map (after S)))))
        fun u => u.Plays Converted .type ∧
          (isFunctionType ⟨i, .flow (.generic name targs)⟩ → isFunctionType u) := by
      refine yields_bind (P := (· = entity)) ⟨entity, rfl, found⟩ ?_
      rintro _ rfl
      exact yields_map (targs?_yield fits inside) fun t isTargs =>
        ⟨ref_plays isEntity isTargs, by rintro ⟨⟩⟩
    refine yields_of_eq core fun keep S => ?_
    rw [same, convertType, utilityOf?_after isName fits inside, operation]

theorem object_yields {members : List Node} {exact : Bool}
    (slots : ∀ s ∈ (FlowForm.object members exact).slots, s.2.Plays Parsed s.1)
    (below : TypesYieldBelow ⟨i, .flow (.object members exact)⟩) :
    TypeYields ⟨i, .flow (.object members exact)⟩ := by
  simp only [FlowForm.slots, Role.forall_mem_forAll] at slots
  have inside : ∀ m ∈ members, TypesYieldBelow m := fun m member =>
    below.child (by simp [Node.children, Form.children, Form.parts, FlowForm.parts, member])
  have same : ∀ S, (⟨i, .flow (.object members exact)⟩ : Node).after S
      = ⟨i, .flow (.object (members.map (after S)) exact)⟩ := by
    intro S
    rw [Node.after_of_topic_none rfl]
    simp [Node.layer, Node.withForm, FlowForm.map, FlowForm.mapM]
  cases mapped : isMapped members with
  | true =>
    refine yields_of_eq (yields_after_warning (fun S => warnUnmapped (members.map (after S)))
      (fun _ => warnUnmapped_result _)
      (yields_mono (mapped_yields i.pos slots inside) fun u isType => ⟨isType, by rintro ⟨⟩⟩))
      fun keep S => ?_
    rw [same, convertType, isMapped_after slots, if_pos mapped]
  | false =>
    refine yields_of_eq (yields_map (f := fun parts => objectOf i.pos parts.1 parts.2)
      (fields_yield false slots inside) fun parts fit =>
        ⟨objectOf_plays fit.1 fit.2, by rintro ⟨⟩⟩) fun keep S => ?_
    rw [same, convertType, isMapped_after slots, if_neg (by simp [mapped])]

theorem typeOf_yields {arg : Node} (isType : arg.Plays Parsed .type)
    (below : TypesYieldBelow ⟨i, .flow (.typeOf arg)⟩) :
    TypeYields ⟨i, .flow (.typeOf arg)⟩ := by
  have each := below.type (by simp [Node.children, Form.children, Form.parts, FlowForm.parts]) isType
  have same : ∀ S, (⟨i, .flow (.typeOf arg)⟩ : Node).after S = ⟨i, .flow (.typeOf (arg.after S))⟩ :=
    fun S => Node.after_of_topic_none rfl
  have warned (notGeneric : ∀ S j name targs, arg.after S ≠ ⟨j, .flow (.generic name targs)⟩) :
      TypeYields ⟨i, .flow (.typeOf arg)⟩ := by
    refine yields_of_eq (yields_after_warning (fun _ => warn .typeOfType i.pos) (fun _ => rfl)
      (yields_mono each fun u converted => ⟨converted.1, by rintro ⟨⟩⟩)) fun keep S => ?_
    rw [same, convertType]
    intro info name targs equal
    exact notGeneric S info name targs equal
  obtain ⟨j, g, rfl, role, -, slots, -⟩ := Node.flow_of_typing isType rfl
  cases g with
  | generic name targs =>
    simp only [FlowForm.slots, List.forall_mem_cons] at slots
    obtain ⟨u, -, converted, -, entity, -⟩ := entity_spec slots.1
    have new : (Node.ts i.pos (.typeOf u)).Plays Converted .type := by
      rw [plays_ts_iff]
      simp [TsForm.roles, TsForm.Sound, TsForm.slots, converted]
    refine ⟨.ts i.pos (.typeOf u), ⟨new, by rintro ⟨⟩⟩, fun keep S fixes => ?_⟩
    dsimp only
    rw [same, Node.after_of_topic_none rfl]
    change (convertType keep ⟨i, .flow (.typeOf ⟨j, .flow (.generic (name.after S) _)⟩)⟩).result = _
    rw [convertType, after_name slots.1, entity]
    rfl
  | _ =>
    refine warned fun S k name targs equal => ?_
    rw [Node.after_of_topic_none (topic?_of_type role)] at equal
    cases equal

end Types

/-- Every type of the source converts, and to the same type at every stage. -/
theorem type_yields {n : Node} (plays : n.Plays Parsed .type) : TypeYields n := by
  induction n using Node.descend with
  | step n ih =>
    have below : TypesYieldBelow n := ih
    obtain ⟨i, f, rfl, role, sound, slots, -⟩ := Node.flow_of_typing plays rfl
    have leaf (f : TsForm Node) (isType : .type ∈ f.roles) (sound : f.Sound) (bare : f.slots = []) :
        (Node.ts i.pos f).Plays Converted .type := by
      rw [plays_ts_iff, bare]
      exact ⟨isType, sound, by simp⟩
    cases f with
    | primitive p =>
      refine ⟨.ts i.pos (.keyword p.toTs), ⟨leaf _ (by simp [TsForm.roles]) trivial rfl, by rintro ⟨⟩⟩, ?_⟩
      exact fun _ _ _ => rfl
    | stringLit raw | numberLit raw | booleanLit raw =>
      refine ⟨.ts i.pos (.literal raw), ⟨leaf _ (by simp [TsForm.roles]) trivial rfl, by rintro ⟨⟩⟩, ?_⟩
      exact fun _ _ _ => rfl
    | nullable inner =>
      simp only [FlowForm.slots, List.forall_mem_singleton] at slots
      have null := leaf (.keyword .null) (by simp [TsForm.roles]) trivial rfl
      have each := below.type
        (by simp [Node.children, Form.children, Form.parts, FlowForm.parts]) slots
      refine yields_of_eq (yields_map (f := fun u => unionOf i.pos [u, .ts i.pos (.keyword .null)])
        each fun u converted => ⟨unionOf_plays ?_, by rintro ⟨⟩⟩) fun keep S => ?_
      · simp [converted.1, null]
      · rw [Node.after_of_topic_none rfl]
        exact convertType.eq_7 ..
    | array elem =>
      simp only [FlowForm.slots, List.forall_mem_singleton] at slots
      have each := below.type
        (by simp [Node.children, Form.children, Form.parts, FlowForm.parts]) slots
      refine yields_of_eq (yields_map (f := fun u => Node.ts i.pos (.array u)) each
        fun u converted => ⟨?_, by rintro ⟨⟩⟩) fun keep S => ?_
      · rw [plays_ts_iff]
        simp [TsForm.roles, TsForm.Sound, TsForm.slots, converted.1]
      · rw [Node.after_of_topic_none rfl]
        exact convertType.eq_8 ..
    | tuple types =>
      simp only [FlowForm.slots, Role.forall_mem_forAll] at slots
      refine row_yields types (fun us => .ts i.pos (.tuple us)) rfl
        (fun t member => below.type ?_ (slots t member)) (fun us areTypes => ?_) fun keep S => ?_
      · simp [Node.children, Form.children, Form.parts, FlowForm.parts, member]
      · rw [plays_ts_iff]
        simp only [TsForm.slots, Role.forall_mem_forAll]
        exact ⟨by simp [TsForm.roles], trivial, areTypes⟩
      · rw [Node.after_of_topic_none rfl]
        simp [Node.layer, Node.withForm, FlowForm.map, FlowForm.mapM, convertType]
    | union types =>
      simp only [FlowForm.slots, Role.forall_mem_forAll] at slots
      refine row_yields types (unionOf i.pos) rfl
        (fun t member => below.type ?_ (slots t member)) (fun us => unionOf_plays) fun keep S => ?_
      · simp [Node.children, Form.children, Form.parts, FlowForm.parts, member]
      · rw [Node.after_of_topic_none rfl]
        simp [Node.layer, Node.withForm, FlowForm.map, FlowForm.mapM, convertType]
    | intersection types =>
      simp only [FlowForm.slots, Role.forall_mem_forAll] at slots
      refine row_yields types (fun us => .ts i.pos (.intersection us)) rfl
        (fun t member => below.type ?_ (slots t member)) (fun us areTypes => ?_) fun keep S => ?_
      · simp [Node.children, Form.children, Form.parts, FlowForm.parts, member]
      · rw [plays_ts_iff]
        simp only [TsForm.slots, Role.forall_mem_forAll]
        exact ⟨by simp [TsForm.roles], trivial, areTypes⟩
      · rw [Node.after_of_topic_none rfl]
        simp [Node.layer, Node.withForm, FlowForm.map, FlowForm.mapM, convertType]
    | object members exact => exact object_yields slots below
    | function tparams params rest ret => exact function_type_yields slots below
    | generic name targs => exact generic_yields slots below
    | typeOf arg => exact typeOf_yields (slots _ List.mem_cons_self) below
    | _ => simp [FlowForm.roles, Role.ofExpr] at role

end Retype.Convert
