import Retype.Proofs.Convert.Step
import Retype.Proofs.Parse.Grid

/-!
# Object types lose nothing silently

An object type whose first indexer is named becomes a mapped type over that indexer, and each other
member of it is reported as dropped, once and at its place.  Any other object type keeps its fields
in order and is intersected with its spreads.  What it drops are the indexers behind the first, and
each of them is reported once.  In the body of an interface the spreads are dropped as well.

A type literal has at most one index signature, wherever it comes from: from the members of an
object type, from its only spread, or from an argument that an operation hands on.
-/

namespace Retype.Convert

open Node (Parsed)
open Outcome (warn warnIf)

/-! ## Index signatures -/

/-- The index signatures among the members of a type literal. -/
def isIndexSig (m : Node) : Bool :=
  match m.form with
  | .ts (.indexSig ..) => true
  | _ => false

/-- A type that is no type literal with more than one index signature. -/
def OneIndex (t : Node) : Prop :=
  ∀ members, t.form = .ts (.typeLiteral members) → members.countP isIndexSig ≤ 1

/-- A member becomes an index signature exactly if it is an indexer. -/
theorem isIndexSig_of_memberStep {R : Node → Node → Prop} {m u : Node} (step : MemberStep R m u)
    (field : isSpread m = false) : isIndexSig u = isIndexer m := by
  cases step with
  | field | method | indexer => rfl
  | spread => cases field

theorem isIndexSig_readOnlyMember {m : Node} :
    isIndexSig (Utility.readOnlyMember m) = isIndexSig m := by
  unfold Utility.readOnlyMember
  split
  next form => simp [isIndexSig, form, Node.keepComments, Node.ts, Node.plain]
  next form => simp [isIndexSig, form, Node.keepComments, Node.ts, Node.plain]
  next => rfl

section Fields

variable {R : Node → Node → Prop} {members : List Node} {value : Node → Node}

/-- The kept members hold at most one index signature. -/
theorem countP_isIndexSig_fields (each : ∀ m ∈ members, MemberStep R m (value m)) :
    (fieldsOf value false members).countP isIndexSig ≤ 1 := by
  have same : (fieldsOf value false members).countP isIndexSig
      = (keptMembers false members).countP isIndexer := by
    rw [fieldsOf, List.countP_map]
    refine List.countP_congr fun m kept => ?_
    have field : isSpread m = false := by simpa using (List.mem_filter.mp kept).2
    have sig := isIndexSig_of_memberStep (each m (mem_of_mem_keptMembers kept)) field
    rw [← sig]
    exact Iff.rfl
  rw [same]
  exact countP_isIndexer_keptMembers

theorem oneIndex_objectOf {pos : Int} {fields spreads : List Node}
    (one : fields.countP isIndexSig ≤ 1) (parts : ∀ t ∈ spreads, OneIndex t) :
    OneIndex (objectOf pos fields spreads) := by
  unfold objectOf
  split
  · rintro _ ⟨⟩
    exact one
  · exact parts _ List.mem_cons_self
  · nofun
  · nofun

end Fields

theorem oneIndex_readOnlyType {t : Node} (one : OneIndex t) : OneIndex (Utility.readOnlyType t) := by
  unfold Utility.readOnlyType
  split
  next members form =>
    rintro _ ⟨⟩
    rw [List.countP_map]
    exact Nat.le_trans (Nat.le_of_eq (List.countP_congr fun m _ => by
      rw [Function.comp_apply, isIndexSig_readOnlyMember])) (one members form)
  next => nofun
  next => exact one

/-- No type of the source becomes a type literal with two index signatures. -/
theorem oneIndex_of_convertType {n u : Node} (plays : n.Plays Parsed .type)
    (result : (convertType id n).result = .ok u) : OneIndex u := by
  refine holds_of_convertType (R := fun _ u => OneIndex u) (fun n u step => ?_) plays result
  cases step with
  | object plain each =>
    refine oneIndex_objectOf (countP_isIndexSig_fields each) (List.forall_mem_map.mpr fun m among => ?_)
    obtain ⟨member, spread⟩ := List.mem_filter.mp among
    obtain ⟨t, -, turned⟩ := (each m member).of_spread spread
    exact turned
  | operation found types =>
    have args : ∀ a ∈ _, OneIndex a := fun a member => (exists_of_forall₂ types member).elim
      fun _ turned => turned.2
    -- only two operations hand on an argument
    unfold Utility.build
    split
    case h_1 => exact args _ List.mem_cons_self
    case h_5 => exact oneIndex_readOnlyType (args _ List.mem_cons_self)
    all_goals nofun
  | typeOfType other type => exact type
  | _ => nofun

/-! ## Object types -/

/-- The types that an object type is the intersection of.  A type literal without fields is left out
if there is anything else. -/
def objectParts (pos : Int) (fields spreads : List Node) : List Node :=
  (if fields.isEmpty && !spreads.isEmpty then [] else [.ts pos (.typeLiteral fields)]) ++ spreads

/-- The intersection of types.  A single type stands for itself. -/
def intersectionOf (pos : Int) : List Node → Node
  | [t] => t
  | ts => .ts pos (.intersection ts)

theorem objectOf_eq (pos : Int) (fields spreads : List Node) :
    objectOf pos fields spreads = intersectionOf pos (objectParts pos fields spreads) := by
  cases fields <;> rcases spreads with _ | ⟨s, _ | ⟨t, ts⟩⟩ <;> rfl

theorem convertObject_eq {n : Node} {members : List Node} {exact : Bool}
    (form : n.form = .flow (.object members exact)) : convertObject id n = convertType id n := by
  rcases n with ⟨i, f⟩
  cases form
  have same : (Part.ofChildren members).children = some members := by
    rw [Part.ofChildren, Part.children, List.mapM_map]
    change members.mapM (fun m => (pure (id m) : Option Node)) = some members
    rw [List.mapM_pure, List.map_id]
    rfl
  simp only [convertObject, Form.parts, FlowForm.parts, same]
  rw [Node.flow, Node.plain, convertType, convertType]
  rfl

/-- The members of an object type of the source. -/
theorem members_of_built {n : Node} {members : List Node} {exact : Bool} (built : n.GrammarBuilt)
    (form : n.form = .flow (.object members exact)) : ∀ m ∈ members, m.Plays Parsed .typeMember := by
  have slots := (Node.formed_iff.mp built.formed).2.2
  rw [form] at slots
  exact Role.forall_mem_forAll.mp slots

/-- What a named indexer becomes, and what is reported on the way. -/
theorem convertObject_of_named {n : Node} {before after : List Node} {exact : Bool} {j : Info}
    {name : Option String} {key type : Node} {variance : Option Variance}
    (form : n.form = .flow (.object (before ++ ⟨j, .flow (.indexer name key type variance)⟩ :: after)
      exact))
    (first : ∀ m ∈ before, isIndexer m = false) (named : (declared name).isSome) {k v : Node}
    (keyType : (convertType id key).result = .ok k)
    (valueType : (convertType id type).result = .ok v) :
    ∃ drops : List Warning, drops.Perm ((before ++ after).map dropWarning)
      ∧ convertObject id n
        = ⟨drops ++ ((warnIf (isContravariant variance) .contravariantIndexer j.pos).warnings
              ++ ((convertType id key).warnings ++ (convertType id type).warnings)),
            .ok (.ts n.pos (.mapped mappedName k v (isCovariant variance)))⟩ := by
  refine ⟨(warnUnmapped (before ++ ⟨j, .flow (.indexer name key type variance)⟩ :: after)).warnings,
    warnings_warnUnmapped first, ?_⟩
  rw [convertObject_eq form]
  rcases n with ⟨i, f⟩
  cases form
  rw [convertType, isMapped_append first, if_pos named, convertMapped_append first, convertMapped,
    Outcome.bind_of_ok (warnUnmapped_result _), Outcome.bind_of_ok (warnIf_result _ _ _),
    Outcome.bind_of_ok keyType, Outcome.bind_of_ok valueType]
  simp
  rfl

/-- Object types lose nothing silently.  If the first indexer is named, the object type becomes a
mapped type over it, and each other member is reported once.  Otherwise the fields are the members
that are no spreads and no indexers behind the first, the spreads are intersected with them, and each
indexer behind the first is reported once.  The same holds of the body of an interface, where each
spread is reported once.  No part of the result has more than one index signature. -/
theorem convertObject_reports_losses {n : Node} {members : List Node} {exact : Bool}
    (built : n.GrammarBuilt) (form : n.form = .flow (.object members exact)) :
    ∃ value : Node → Node, (∀ m ∈ members, (convertMember id m).result = .ok (value m))
      ∧ (∀ before j name key type variance after,
          members = before ++ ⟨j, .flow (.indexer name key type variance)⟩ :: after →
          (∀ m ∈ before, isIndexer m = false) → (declared name).isSome →
          ∃ k v drops, ConvertsTo key k ∧ ConvertsTo type v
            ∧ drops.Perm ((before ++ after).map dropWarning)
            ∧ convertObject id n
              = ⟨drops ++ ((warnIf (isContravariant variance) .contravariantIndexer j.pos).warnings
                    ++ ((convertType id key).warnings ++ (convertType id type).warnings)),
                  .ok (.ts n.pos (.mapped mappedName k v (isCovariant variance)))⟩)
      ∧ (isMapped members = false →
          convertObject id n
              = ⟨reports memberWarnings false members,
                  .ok (intersectionOf n.pos (objectParts n.pos (fieldsOf value false members)
                    ((members.filter isSpread).map value)))⟩
            ∧ ∀ t ∈ objectParts n.pos (fieldsOf value false members)
                ((members.filter isSpread).map value), OneIndex t)
      ∧ convertBody id false members
          = ⟨reports bodyWarnings false members, .ok (fieldsOf value false members)⟩
      ∧ (fieldsOf value false members).countP isIndexSig ≤ 1 := by
  have fits := members_of_built built form
  have plain : ∀ m ∈ members, m.isTs = false := fun m member => isTs_of_typeMember (fits m member)
  have each : ∀ m ∈ members, (convertMember id m).result = .ok (memberValue m) :=
    fun m member => convertMember_result (fits m member)
  have steps : ∀ m ∈ members, MemberStep (fun _ u => OneIndex u) m (memberValue m) :=
    fun m member => gives_convertMember_step (fits m member)
      (fun t _ plays u found => oneIndex_of_convertType plays found) _ (each m member)
  have one := countP_isIndexSig_fields steps
  refine ⟨memberValue, each, ?_, ?_, convertBody_eq false plain each, one⟩
  · rintro before j name key type variance after rfl first named
    have slots := (Node.formed_iff.mp (fits ⟨j, .flow (.indexer name key type variance)⟩
      (by simp)).2).2.2
    simp only [Form.slots, FlowForm.slots, List.forall_mem_cons] at slots
    obtain ⟨k, keyTo, -⟩ := convertsTo_of_plays slots.1
    obtain ⟨v, typeTo, -⟩ := convertsTo_of_plays slots.2.1
    obtain ⟨drops, once, result⟩ :=
      convertObject_of_named form first named keyTo.result typeTo.result
    exact ⟨k, v, drops, keyTo, typeTo, once, result⟩
  · intro unnamed
    refine ⟨?_, ?_⟩
    · rw [convertObject_eq form]
      rcases n with ⟨i, f⟩
      cases form
      rw [convertType, if_neg (by simp [unnamed]), convertFields_eq false plain each, ← objectOf_eq]
      exact congrArg (Outcome.mk · _) (List.append_nil _)
    · intro t part
      unfold objectParts at part
      rcases List.mem_append.mp part with literal | spread
      · split at literal
        · cases literal
        · cases List.mem_singleton.mp literal
          rintro _ ⟨⟩
          exact one
      · obtain ⟨m, among, rfl⟩ := List.mem_map.mp spread
        obtain ⟨member, isSpread⟩ := List.mem_filter.mp among
        obtain ⟨t, -, oneIndex⟩ := (steps m member).of_spread isSpread
        exact oneIndex

/-- Whether a node is an object type with a named indexer behind another member. -/
def isBehindOther (n : Node) : Bool :=
  match n.form with
  | .flow (.object [m, ⟨_, .flow (.indexer name _ _ _)⟩] _) =>
    !isIndexer m && (declared name).isSome
  | _ => false

theorem convertObject_reports_losses_spread : ∃ tree n m j name key type variance exact,
    Source.parse { text := "type A = \x7b...B, [k: C]: D\x7d" } = .ok tree ∧ n ∈ tree.preorder
      ∧ n.form = .flow (.object [m, ⟨j, .flow (.indexer name key type variance)⟩] exact)
      ∧ ∃ k v drops, ConvertsTo key k ∧ ConvertsTo type v ∧ drops.Perm [dropWarning m]
        ∧ convertObject id n
          = ⟨drops ++ ((warnIf (isContravariant variance) .contravariantIndexer j.pos).warnings
                ++ ((convertType id key).warnings ++ (convertType id type).warnings)),
              .ok (.ts n.pos (.mapped mappedName k v (isCovariant variance)))⟩ := by
  have found : ((Source.parse { text := "type A = \x7b...B, [k: C]: D\x7d" }).toOption.bind fun tree =>
      tree.preorder.find? isBehindOther).isSome := by
    rw [Source.parse_eq_parseByGrids]
    decide +kernel
  obtain ⟨n, found⟩ := Option.isSome_iff_exists.mp found
  obtain ⟨tree, parsed, found⟩ := Option.bind_eq_some_iff.mp found
  have parsed := ok_of_toOption parsed
  have member := List.mem_of_find?_eq_some found
  have behind := List.find?_some found
  unfold isBehindOther at behind
  split at behind
  next m j name key type variance exact form =>
    obtain ⟨other, named⟩ := (Bool.and_eq_true _ _).mp behind
    obtain ⟨-, -, mapped, -⟩ := convertObject_reports_losses (.inr ⟨_, tree, parsed, member⟩) form
    exact ⟨tree, n, m, j, name, key, type, variance, exact, parsed, member, form,
      mapped [m] j name key type variance [] rfl (by simpa using other) named⟩
  next => cases behind

end Retype.Convert
