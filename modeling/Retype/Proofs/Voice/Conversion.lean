import Retype.Proofs.Voice.Basic

/-!
# Comments of types

A conversion keeps the comments of the types that it shows.  Each member of a type body hands its
comments to the field that it becomes, and each type is somewhere in the type that it is converted
to.
-/

namespace Retype

open Node (Parsed)
open Retype.Convert
open Outcome (fail warn warnIf ofExcept attempt)

variable {α β : Type} {c : String}

/-- What an outcome that succeeded was made from. -/
theorem Outcome.ok_of_bind {x : Outcome α} {f : α → Outcome β} {b : β}
    (result : (x >>= f).result = .ok b) : ∃ a, x.result = .ok a ∧ (f a).result = .ok b := by
  cases found : x.result with
  | error e =>
    rw [Outcome.bind_of_error found] at result
    cases result
  | ok a =>
    rw [Outcome.bind_of_ok found] at result
    exact ⟨a, rfl, result⟩

theorem Outcome.ok_of_map {x : Outcome α} {f : α → β} {b : β}
    (result : (x >>= fun a => pure (f a)).result = .ok b) : ∃ a, x.result = .ok a ∧ b = f a := by
  obtain ⟨a, found, value⟩ := Outcome.ok_of_bind result
  exact ⟨a, found, (Except.ok.inj value).symm⟩

/-! ## What is built of converted parts -/

section Build

variable {pos : Int} {i : Info}

/-- A layer of the TypeScript dialect shows all its children. -/
theorem voiced_ts {f : TsForm Node} {u : Node} (part : u ∈ f.slots.map (·.2)) (voiced : Voiced c u) :
    Voiced c ⟨i, .ts f⟩ := by
  refine .within ?_ voiced
  change u ∈ Node.children ⟨i, .ts f⟩
  rw [Node.children, Form.children_eq_slots (by simp)]
  exact part

theorem voiced_unionOf {types : List Node} {u : Node} (member : u ∈ types) (voiced : Voiced c u) :
    Voiced c (unionOf pos types) := by
  cases union : u.form with
  | ts f =>
    cases f with
    | union inner =>
      obtain ⟨v, among, innerVoiced⟩ := voiced.exists_shown (by simp [Node.rows, union])
        (by simp [Node.branches, union])
      have part : v ∈ inner := by
        simpa [Node.shown, union, Node.children, Form.children, Form.parts, TsForm.parts] using among
      refine voiced_ts ?_ innerVoiced
      simp only [TsForm.slots, Role.forAll_snd, List.mem_flatMap]
      exact ⟨u, member, by simp [union, part]⟩
    | _ =>
      refine voiced_ts ?_ voiced
      simp only [TsForm.slots, Role.forAll_snd, List.mem_flatMap]
      exact ⟨u, member, by simp [union]⟩
  | _ =>
    refine voiced_ts ?_ voiced
    simp only [TsForm.slots, Role.forAll_snd, List.mem_flatMap]
    exact ⟨u, member, by simp [union]⟩

theorem voiced_typeLiteral {fields : List Node} {m : Node} (member : m ∈ fields)
    (voiced : (c ∈ m.comments ∨ c ∈ m.trailing) ∨ Voiced c m) :
    Voiced c (.ts pos (.typeLiteral fields)) := by
  rcases voiced with own | inner
  · exact .row (n := .ts pos (.typeLiteral fields)) member own
  · exact voiced_ts (by simpa [TsForm.slots] using member) inner

theorem voiced_objectOf {fields spreads : List Node}
    (voiced : (∃ m ∈ fields, (c ∈ m.comments ∨ c ∈ m.trailing) ∨ Voiced c m)
      ∨ ∃ t ∈ spreads, Voiced c t) : Voiced c (objectOf pos fields spreads) := by
  unfold objectOf
  split
  · rcases voiced with ⟨m, member, said⟩ | ⟨t, member, -⟩
    · exact voiced_typeLiteral member said
    · exact absurd member List.not_mem_nil
  next s =>
    rcases voiced with ⟨m, member, -⟩ | ⟨t, member, said⟩
    · exact absurd member List.not_mem_nil
    · exact List.mem_singleton.mp member ▸ said
  · rcases voiced with ⟨m, member, -⟩ | ⟨t, member, said⟩
    · exact absurd member List.not_mem_nil
    · exact voiced_ts (by simpa [TsForm.slots] using member) said
  · rcases voiced with ⟨m, member, said⟩ | ⟨t, member, said⟩
    · exact voiced_ts (u := .ts pos (.typeLiteral fields)) (by simp [TsForm.slots])
        (voiced_typeLiteral member said)
    · exact voiced_ts (by simp [TsForm.slots, member]) said

theorem voiced_readOnlyMember {m : Node}
    (voiced : (c ∈ m.comments ∨ c ∈ m.trailing) ∨ Voiced c m) :
    (c ∈ (Utility.readOnlyMember m).comments ∨ c ∈ (Utility.readOnlyMember m).trailing)
      ∨ Voiced c (Utility.readOnlyMember m) := by
  rcases voiced with own | inner
  · left
    unfold Utility.readOnlyMember
    split
    · exact own.imp (List.mem_append_left _) (List.mem_append_left _)
    · exact own.imp (List.mem_append_left _) (List.mem_append_left _)
    · exact own
  · right
    unfold Utility.readOnlyMember
    split
    next key type optional readonly form =>
      obtain ⟨u, among, said⟩ := inner.exists_shown (by simp [Node.rows, form])
        (by simp [Node.branches, form])
      refine voiced_ts ?_ said
      simpa [Node.shown, form, Node.children, Form.children, Form.parts, TsForm.parts,
        TsForm.slots] using among
    next name key value readonly form =>
      obtain ⟨u, among, said⟩ := inner.exists_shown (by simp [Node.rows, form])
        (by simp [Node.branches, form])
      refine voiced_ts ?_ said
      simpa [Node.shown, form, Node.children, Form.children, Form.parts, TsForm.parts,
        TsForm.slots] using among
    · exact inner

theorem voiced_readOnlyType {t : Node} (voiced : Voiced c t) : Voiced c (Utility.readOnlyType t) := by
  unfold Utility.readOnlyType
  split
  next members form =>
    have said : ∃ m ∈ members, (c ∈ m.comments ∨ c ∈ m.trailing) ∨ Voiced c m := by
      cases voiced with
      | row row own => exact ⟨_, by simpa [Node.rows, form] using row, .inl own⟩
      | branch branch => exact absurd branch (by simp [Node.branches, form])
      | within shown inner =>
        exact ⟨_, by simpa [Node.shown, form, Node.children, Form.children, Form.parts,
          TsForm.parts] using shown, .inr inner⟩
    obtain ⟨m, member, said⟩ := said
    exact voiced_typeLiteral (List.mem_map_of_mem member) (voiced_readOnlyMember said)
  next name constraint value readonly form =>
    obtain ⟨u, among, said⟩ := voiced.exists_shown (by simp [Node.rows, form])
      (by simp [Node.branches, form])
    refine voiced_ts ?_ said
    simpa [Node.shown, form, Node.children, Form.children, Form.parts, TsForm.parts,
      TsForm.slots] using among
  · exact voiced

theorem voiced_reference {entity : Node} {args : List Node} {u : Node} (member : u ∈ args)
    (voiced : Voiced c u) : Voiced c (Utility.reference pos entity args) :=
  voiced_ts (u := .ts pos (.targs args)) (by simp [TsForm.slots, Role.for?])
    (voiced_ts (by simpa [TsForm.slots] using member) voiced)

/-- The numbers of arguments that an operation takes, if it does not take any number. -/
def Utility.Takes (count : Nat) : Utility → Prop
  | .exact | .keys | .values | .readOnly => count = 1
  | .element => count = 2
  | .timer => count = 0
  | _ => True

theorem of?_takes {name : String} {count : Nat} {u : Utility} (found : Utility.of? name count = some u) :
    Utility.Takes count u := by
  unfold Utility.of? at found
  split at found <;> cases found <;> trivial

/-- An operation uses all its arguments. -/
theorem voiced_build {u : Utility} {args copies : List Node} {a : Node}
    (takes : Utility.Takes args.length u) (copied : u.usesCopy → copies = args) (member : a ∈ args)
    (voiced : Voiced c a) : Voiced c (u.build pos args copies) := by
  have single (one : args.length = 1) : args = [a] := by
    obtain ⟨b, rfl⟩ := List.length_eq_one_iff.mp one
    rw [List.mem_singleton.mp member]
  cases u with
  | exact =>
    rw [single takes]
    exact voiced
  | keys =>
    rw [single takes]
    exact voiced_ts (by simp [TsForm.slots]) voiced
  | values =>
    rw [copied rfl, single takes]
    exact voiced_ts (u := a) (by simp [TsForm.slots]) voiced
  | readOnly =>
    rw [single takes]
    exact voiced_readOnlyType voiced
  | element =>
    obtain ⟨first, second, rfl⟩ := List.length_eq_two.mp takes
    exact voiced_ts (by simpa [TsForm.slots] using member) voiced
  | call => exact voiced_reference member voiced
  | renamed name => exact voiced_reference member voiced
  | timer => exact absurd member (by simp [List.length_eq_zero_iff.mp takes])
  | event name =>
    cases args with
    | nil => exact absurd member List.not_mem_nil
    | cons b bs => exact voiced_reference member voiced

end Build

/-! ## Types in a row -/

section Rows

/-- The comments of a type are kept when it is converted. -/
def Node.Speaks (t : Node) : Prop :=
  ∀ c u, Voiced c t → (convertType id t).result = .ok u → Voiced c u

variable {types us : List Node} {t u : Node}

theorem voiced_convertTypes (each : ∀ t ∈ types, t.Speaks)
    (result : (convertTypes id types).result = .ok us) (member : t ∈ types) (voiced : Voiced c t) :
    ∃ u ∈ us, Voiced c u := by
  induction types generalizing us with
  | nil => exact absurd member List.not_mem_nil
  | cons t' ts ih =>
    rw [convertTypes] at result
    obtain ⟨u, first, result⟩ := Outcome.ok_of_bind result
    obtain ⟨us, rest, rfl⟩ := Outcome.ok_of_map result
    rcases List.mem_cons.mp member with rfl | later
    · exact ⟨u, List.mem_cons_self, each t List.mem_cons_self c u voiced first⟩
    · obtain ⟨v, among, said⟩ := ih (fun s member => each s (List.mem_cons_of_mem t' member)) rest later
      exact ⟨v, List.mem_cons_of_mem u among, said⟩

theorem length_convertTypes (result : (convertTypes id types).result = .ok us) :
    us.length = types.length := by
  induction types generalizing us with
  | nil =>
    cases result
    rfl
  | cons t ts ih =>
    rw [convertTypes] at result
    obtain ⟨u, -, result⟩ := Outcome.ok_of_bind result
    obtain ⟨us, rest, rfl⟩ := Outcome.ok_of_map result
    rw [List.length_cons, List.length_cons, ih rest]

theorem convertFirst_eq : convertFirst id types = convertTypes id (types.take 1) := by
  cases types with
  | nil => rw [convertFirst, List.take_nil, convertTypes]
  | cons t ts =>
    rw [convertFirst, List.take_succ_cons, List.take_zero, convertTypes, convertTypes]
    rfl

/-- If each type can be converted, no type argument is dropped. -/
theorem convertEach_eq (each : ∀ t ∈ types, ∃ u, (convertType id t).result = .ok u) :
    (convertEach id types).result = (convertTypes id types).result := by
  induction types with
  | nil => rfl
  | cons t ts ih =>
    obtain ⟨u, first⟩ := each t List.mem_cons_self
    have rest := ih fun s member => each s (List.mem_cons_of_mem t member)
    have tried : ((convertType id t).attempt .typeArgument t.pos).result = .ok (some u) := by
      rw [attempt, first]
    rw [convertEach, convertTypes, Outcome.bind_of_ok tried, Outcome.bind_of_ok first]
    cases found : (convertTypes id ts).result with
    | error e => rw [Outcome.bind_of_error (rest.trans found), Outcome.bind_of_error found]
    | ok us =>
      rw [Outcome.bind_of_ok (rest.trans found), Outcome.bind_of_ok found]
      rfl

end Rows

/-! ## Types below a node -/

section Below

variable {n p : Node}

/-- The comments of the types below a node are kept. -/
def SpeaksBelow (n : Node) : Prop := ∀ t ∈ n.descendants, t.Plays Parsed .type → t.Speaks

theorem SpeaksBelow.child (below : SpeaksBelow n) (child : p ∈ n.children) : SpeaksBelow p :=
  fun t lower => below t (Node.descendants_trans (Node.descendants_subset_preorder lower)
    (Node.child_mem_descendants child))

/-- The parts of types whose own parts are types. -/
def Role.holdsTypes : Role → Bool
  | .fnParam | .tparam | .typeMember | .targs | .annot => true
  | _ => false

theorem FlowForm.slots_of_holdsTypes {α : Type} {f : FlowForm α} {r : Role} (role : r ∈ f.roles)
    (holds : r.holdsTypes) : ∀ s ∈ f.slots, s.1 = .type ∨ s.1 = .fnType := by
  cases f with
  | prop key value optional variance method => cases method <;> simp [FlowForm.slots]
  | param | tparam | indexer | spread | targs | annot =>
    simp only [FlowForm.slots, List.forall_mem_append, List.forall_mem_cons,
      Role.forall_mem_forAll, Role.forall_mem_for?]
    simp
  | _ =>
    simp only [FlowForm.roles, Role.ofExpr, List.mem_cons, List.not_mem_nil, or_false] at role
    rcases role with rfl | rfl | rfl | rfl <;> cases holds

theorem SpeaksBelow.types {r : Role} (below : SpeaksBelow p) (plays : p.Plays Parsed r)
    (holds : r.holdsTypes) : ∀ t ∈ p.children, t.Speaks := by
  have typing : r.isTyping := by cases r <;> first | rfl | cases holds
  obtain ⟨i, f, rfl, role, -, slots, -⟩ := Node.flow_of_typing plays typing
  intro t child
  have lower := Node.child_mem_descendants child
  rw [Node.children, Form.children_eq_slots (by simp)] at child
  obtain ⟨s, slot, rfl⟩ := List.mem_map.mp child
  have isPart := slots s slot
  rcases f.slots_of_holdsTypes role holds s slot with same | same
  all_goals rw [same] at isPart
  · exact below s.2 lower isPart
  · exact below s.2 lower (isFunctionType_of_fnType isPart).1

end Below

/-! ## Parts of types -/

section Parts

variable {t u : Node}

theorem converts_of_plays (plays : t.Plays Parsed .type) : ∃ u, (convertType id t).result = .ok u := by
  obtain ⟨u, -, result⟩ := type_yields plays
  have found := result id [] fixes_id
  dsimp only at found
  rw [Node.after_nil] at found
  exact ⟨u, found⟩

theorem shown_flow {i : Info} {f : FlowForm Node}
    (plain : Node.shown ⟨i, .flow f⟩ = Node.children ⟨i, .flow f⟩) {m : Node} :
    m ∈ Node.shown ⟨i, .flow f⟩ ↔ m ∈ f.slots.map (·.2) := by
  rw [plain, Node.children, Form.children_eq_slots (by simp)]
  rfl

theorem children_targs {i : Info} {types : List Node} :
    Node.children ⟨i, .flow (.targs types)⟩ = types := by
  simp [Node.children, Form.children, Form.parts, FlowForm.parts]

theorem voiced_convertTargs (plays : t.Plays Parsed .targs) (below : SpeaksBelow t)
    {new : Option Node} (result : (convertTargs id (some t)).result = .ok new) (voiced : Voiced c t) :
    ∃ u, new = some u ∧ Voiced c u := by
  have each := below.types plays rfl
  obtain ⟨i, f, rfl, role, -, slots, -⟩ := Node.flow_of_typing plays rfl
  cases f with
  | targs types =>
    simp only [FlowForm.slots, Role.forall_mem_forAll] at slots
    obtain ⟨s, among, said⟩ := voiced.exists_shown rfl rfl
    rw [shown_flow rfl, FlowForm.slots, Role.forAll_snd] at among
    rw [convertTargs] at result
    obtain ⟨us, converted, value⟩ := Outcome.ok_of_map result
    rw [convertEach_eq fun s member => converts_of_plays (slots s member)] at converted
    rw [children_targs] at each
    obtain ⟨u, member, inner⟩ := voiced_convertTypes each converted among said
    rw [if_neg (by simp [List.ne_nil_of_mem member])] at value
    exact ⟨_, value, voiced_ts (by simpa [TsForm.slots] using member) inner⟩
  | _ => simp [FlowForm.roles, Role.ofExpr] at role

theorem voiced_convertTparamList {params us : List Node} {p : Node}
    (fits : ∀ p ∈ params, p.Plays Parsed .tparam) (below : ∀ p ∈ params, SpeaksBelow p)
    (result : (convertTparamList id params).result = .ok us) (member : p ∈ params)
    (voiced : Voiced c p) : ∃ u ∈ us, Voiced c u := by
  induction params generalizing us with
  | nil => exact absurd member List.not_mem_nil
  | cons q qs ih =>
    have each := (below q List.mem_cons_self).types (fits q List.mem_cons_self) rfl
    obtain ⟨i, name, bound, default, variance, rfl, -, -⟩ := tparam_cases (fits q List.mem_cons_self)
    rw [convertTparamList] at result
    obtain ⟨-, -, result⟩ := Outcome.ok_of_bind result
    obtain ⟨b, isBound, result⟩ := Outcome.ok_of_bind result
    obtain ⟨d, isDefault, result⟩ := Outcome.ok_of_bind result
    obtain ⟨us, rest, rfl⟩ := Outcome.ok_of_map result
    rcases List.mem_cons.mp member with rfl | later
    · obtain ⟨s, among, said⟩ := voiced.exists_shown rfl rfl
      have speaks := each s among c
      rw [shown_flow rfl] at among
      have option {a : Option Node} {b : Option Node} (found : a = some s)
          (converts : (convertType? id a).result = .ok b) : ∃ v, b = some v ∧ Voiced c v := by
        rw [found, convertType?] at converts
        obtain ⟨v, type, rfl⟩ := Outcome.ok_of_map converts
        exact ⟨v, rfl, speaks v said type⟩
      simp only [FlowForm.slots, List.map_append, Role.for?_snd, List.mem_append,
        Option.mem_toList] at among
      refine ⟨_, List.mem_cons_self, ?_⟩
      rcases among with found | found
      · obtain ⟨v, rfl, inner⟩ := option found isBound
        exact voiced_ts (by simp [TsForm.slots]) inner
      · obtain ⟨v, rfl, inner⟩ := option found isDefault
        exact voiced_ts (by simp [TsForm.slots]) inner
    · obtain ⟨u, among, said⟩ := ih (fun q member => fits q (List.mem_cons_of_mem _ member))
        (fun q member => below q (List.mem_cons_of_mem _ member)) rest later
      exact ⟨u, List.mem_cons_of_mem _ among, said⟩

theorem voiced_convertTparams (plays : t.Plays Parsed .tparams) (below : SpeaksBelow t) {new : Option Node}
    (result : (convertTparams id (some t)).result = .ok new) (voiced : Voiced c t) :
    ∃ u, new = some u ∧ Voiced c u := by
  obtain ⟨i, f, rfl, role, -, slots, -⟩ := Node.flow_of_typing plays rfl
  cases f with
  | tparams params =>
    simp only [FlowForm.slots, Role.forall_mem_forAll] at slots
    obtain ⟨p, among, said⟩ := voiced.exists_shown rfl rfl
    have inside : ∀ p ∈ params, SpeaksBelow p := fun p member =>
      below.child (by simp [Node.children, Form.children, Form.parts, FlowForm.parts, member])
    rw [shown_flow rfl, FlowForm.slots, Role.forAll_snd] at among
    rw [convertTparams] at result
    obtain ⟨us, converted, rfl⟩ := Outcome.ok_of_map result
    obtain ⟨u, member, inner⟩ := voiced_convertTparamList slots inside converted among said
    exact ⟨_, rfl, voiced_ts (by simpa [TsForm.slots] using member) inner⟩
  | _ => simp [FlowForm.roles, Role.ofExpr] at role

theorem voiced_convertParams {params us : List Node} {p : Node}
    (fits : ∀ p ∈ params, p.Plays Parsed .fnParam) (below : ∀ p ∈ params, SpeaksBelow p)
    (result : (convertParams id params).result = .ok us) :
    us.length = params.length ∧ (p ∈ params → Voiced c p → ∃ u ∈ us, Voiced c u) := by
  induction params generalizing us with
  | nil =>
    cases result
    exact ⟨rfl, fun member => absurd member List.not_mem_nil⟩
  | cons q qs ih =>
    have each := (below q List.mem_cons_self).types (fits q List.mem_cons_self) rfl
    obtain ⟨i, name, type, optional, rfl, -⟩ := param_cases (fits q List.mem_cons_self)
    rw [convertParams] at result
    obtain ⟨u, converted, result⟩ := Outcome.ok_of_bind result
    obtain ⟨us, rest, rfl⟩ := Outcome.ok_of_map result
    obtain ⟨length, inner⟩ := ih (fun q member => fits q (List.mem_cons_of_mem _ member))
      (fun q member => below q (List.mem_cons_of_mem _ member)) rest
    refine ⟨by simp [length], fun member voiced => ?_⟩
    rcases List.mem_cons.mp member with rfl | later
    · obtain ⟨s, among, said⟩ := voiced.exists_shown rfl rfl
      have speaks := each s among c u said
      obtain rfl : s = type := by simpa [shown_flow, FlowForm.slots] using (shown_flow rfl).mp among
      exact ⟨u, List.mem_cons_self, speaks converted⟩
    · obtain ⟨v, among, said⟩ := inner later voiced
      exact ⟨v, List.mem_cons_of_mem u among, said⟩

theorem length_paramNamesFrom (used : List String) (place : Nat) (params : List Node) :
    (paramNamesFrom used place params).length = params.length := by
  induction params generalizing used place with
  | nil => rfl
  | cons p ps ih =>
    rw [paramNamesFrom]
    split <;> simp [ih]

theorem length_paramNames (params : List Node) : (paramNames params).length = params.length :=
  length_paramNamesFrom ..

theorem voiced_tsParams {params types : List Node} {names : List String}
    (typed : types.length = params.length) (named : names.length = params.length) (member : u ∈ types)
    (voiced : Voiced c u) : ∃ p ∈ tsParams params names types, Voiced c p := by
  induction params generalizing types names with
  | nil => exact absurd member (by simp [List.length_eq_zero_iff.mp typed])
  | cons p ps ih =>
    cases types with
    | nil => exact absurd member List.not_mem_nil
    | cons type types =>
      cases names with
      | nil => cases named
      | cons name names =>
        rw [tsParams]
        rcases List.mem_cons.mp member with rfl | later
        · exact ⟨_, List.mem_cons_self, voiced_ts (by simp [TsForm.slots]) voiced⟩
        · obtain ⟨q, among, said⟩ := ih (Nat.succ.inj typed) (Nat.succ.inj named) later
          exact ⟨q, List.mem_cons_of_mem _ among, said⟩

theorem voiced_convertRest {rest : Node} (plays : rest.Plays Parsed .fnParam)
    (below : SpeaksBelow rest) {type : Option Node}
    (result : (convertRest id (some rest)).result = .ok type) (voiced : Voiced c rest)
    (others : List String) : ∃ p, tsRest (some rest) type others = some p ∧ Voiced c p := by
  have each := below.types plays rfl
  obtain ⟨i, name, inner, optional, rfl, -⟩ := param_cases plays
  rw [convertRest] at result
  obtain ⟨u, converted, rfl⟩ := Outcome.ok_of_map result
  obtain ⟨s, among, said⟩ := voiced.exists_shown rfl rfl
  have speaks := each s among c u said
  obtain rfl : s = inner := by simpa [FlowForm.slots] using (shown_flow rfl).mp among
  exact ⟨_, rfl, voiced_ts (by simp [TsForm.slots]) (speaks converted)⟩

end Parts

/-! ## Type bodies -/

section Members

variable {m u : Node}

theorem isIndexer_of_isSpread (spread : isSpread m) : isIndexer m = false := by
  unfold isSpread at spread
  split at spread
  next type form => simp [isIndexer, form]
  next => cases spread

theorem voiced_convertMember (plays : m.Plays Parsed .typeMember) (below : SpeaksBelow m)
    (result : (convertMember id m).result = .ok u) (voiced : Voiced c m) : Voiced c u := by
  have each := below.types plays rfl
  rcases member_cases plays with ⟨i, key, value, optional, variance, method, rfl, fits⟩
    | ⟨i, id, key, value, variance, rfl, -, -⟩ | ⟨i, type, rfl, -⟩
  all_goals
    obtain ⟨s, among, said⟩ := voiced.exists_shown rfl rfl
    have speaks := fun v => each s among c v said
    rw [shown_flow rfl] at among
    rw [convertMember] at result
  · obtain ⟨-, -, result⟩ := Outcome.ok_of_bind result
    obtain rfl : s = value := by simpa [FlowForm.slots] using among
    cases method with
    | true =>
      obtain ⟨v, converted, rfl⟩ := Outcome.ok_of_map result
      have same := (isFunctionType_of_fnType fits).2.2.2 id []
      rw [Node.after_nil] at same
      exact voiced_ts (by simp [TsForm.slots]) (speaks v (same ▸ converted))
    | false =>
      obtain ⟨v, converted, rfl⟩ := Outcome.ok_of_map result
      exact voiced_ts (by simp [TsForm.slots]) (speaks v converted)
  · obtain ⟨-, -, result⟩ := Outcome.ok_of_bind result
    obtain ⟨k, isKey, result⟩ := Outcome.ok_of_bind result
    obtain ⟨v, isValue, rfl⟩ := Outcome.ok_of_map result
    simp only [FlowForm.slots, List.map_cons, List.map_nil, List.mem_cons, List.not_mem_nil,
      or_false] at among
    rcases among with rfl | rfl
    · exact voiced_ts (by simp [TsForm.slots]) (speaks k isKey)
    · exact voiced_ts (by simp [TsForm.slots]) (speaks v isValue)
  · obtain rfl : s = type := by simpa [FlowForm.slots] using among
    exact speaks u result

theorem voiced_withCommentsOf (plays : m.Plays Parsed .typeMember) (below : SpeaksBelow m)
    (result : (convertMember id m).result = .ok u)
    (voiced : (c ∈ m.comments ∨ c ∈ m.trailing) ∨ Voiced c m) :
    (c ∈ (withCommentsOf m u).comments ∨ c ∈ (withCommentsOf m u).trailing)
      ∨ Voiced c (withCommentsOf m u) := by
  have same := withCommentsOf_after (S := []) plays u
  rw [Node.after_nil] at same
  rw [same]
  rcases voiced with own | inner
  · exact .inl (own.imp (List.mem_append_left _) (List.mem_append_left _))
  · exact .inr ((voiced_convertMember plays below result inner).of_form rfl)

/-- The fields and the spreads of an object type keep their comments. -/
theorem voiced_convertFields {members : List Node} {seen : Bool} {parts : List Node × List Node}
    (fits : ∀ m ∈ members, m.Plays Parsed .typeMember) (below : ∀ m ∈ members, SpeaksBelow m)
    (result : (convertFields id seen members).result = .ok parts) (member : m ∈ Node.lasting seen members)
    (voiced : (isSpread m = false ∧ (c ∈ m.comments ∨ c ∈ m.trailing)) ∨ Voiced c m) :
    (∃ f ∈ parts.1, (c ∈ f.comments ∨ c ∈ f.trailing) ∨ Voiced c f) ∨ ∃ t ∈ parts.2, Voiced c t := by
  induction members generalizing seen parts with
  | nil => exact absurd member List.not_mem_nil
  | cons p ps ih =>
    obtain ⟨isMember, areMembers⟩ := List.forall_mem_cons.mp fits
    obtain ⟨inside, rest⟩ := List.forall_mem_cons.mp below
    rw [convertFields] at result
    rw [Node.lasting] at member
    split at result
    next spread =>
      rw [isIndexer_of_isSpread spread, Bool.false_and, if_neg (by simp), Bool.or_false] at member
      obtain ⟨u, converted, result⟩ := Outcome.ok_of_bind result
      obtain ⟨parts, later, rfl⟩ := Outcome.ok_of_map result
      rcases List.mem_cons.mp member with rfl | inRest
      · have inner := voiced.resolve_left fun own => by simp [spread] at own
        exact .inr ⟨u, List.mem_cons_self, voiced_convertMember isMember inside converted inner⟩
      · obtain fields | ⟨t, among, said⟩ := ih areMembers rest later inRest
        · exact .inl fields
        · exact .inr ⟨t, List.mem_cons_of_mem u among, said⟩
    next =>
      split at result
      next dropped =>
        rw [if_pos dropped] at member
        obtain ⟨-, -, later⟩ := Outcome.ok_of_bind result
        exact ih areMembers rest later member
      next kept =>
        rw [if_neg kept] at member
        obtain ⟨u, converted, result⟩ := Outcome.ok_of_bind result
        obtain ⟨parts, later, rfl⟩ := Outcome.ok_of_map result
        rcases List.mem_cons.mp member with rfl | inRest
        · exact .inl ⟨_, List.mem_cons_self,
            voiced_withCommentsOf isMember inside converted (voiced.imp_left And.right)⟩
        · obtain ⟨f, among, said⟩ | spreads := ih areMembers rest later inRest
          · exact .inl ⟨f, List.mem_cons_of_mem _ among, said⟩
          · exact .inr spreads

/-- The members of an interface keep their comments. -/
theorem voiced_convertBody {members us : List Node} {seen : Bool}
    (fits : ∀ m ∈ members, m.Plays Parsed .typeMember) (below : ∀ m ∈ members, SpeaksBelow m)
    (result : (convertBody id seen members).result = .ok us) (member : m ∈ Node.lasting seen members)
    (field : isSpread m = false) (voiced : (c ∈ m.comments ∨ c ∈ m.trailing) ∨ Voiced c m) :
    ∃ u ∈ us, (c ∈ u.comments ∨ c ∈ u.trailing) ∨ Voiced c u := by
  induction members generalizing seen us with
  | nil => exact absurd member List.not_mem_nil
  | cons p ps ih =>
    obtain ⟨isMember, areMembers⟩ := List.forall_mem_cons.mp fits
    obtain ⟨inside, rest⟩ := List.forall_mem_cons.mp below
    rw [convertBody] at result
    rw [Node.lasting] at member
    split at result
    next spread =>
      obtain ⟨-, -, later⟩ := Outcome.ok_of_bind result
      split at member
      · exact ih areMembers rest later member
      · rcases List.mem_cons.mp member with rfl | inRest
        · rw [field] at spread
          cases spread
        · rw [isIndexer_of_isSpread spread, Bool.or_false] at inRest
          exact ih areMembers rest later inRest
    next =>
      split at result
      next dropped =>
        rw [if_pos dropped] at member
        obtain ⟨-, -, later⟩ := Outcome.ok_of_bind result
        exact ih areMembers rest later member
      next kept =>
        rw [if_neg kept] at member
        obtain ⟨u, converted, result⟩ := Outcome.ok_of_bind result
        obtain ⟨us, later, rfl⟩ := Outcome.ok_of_map result
        rcases List.mem_cons.mp member with rfl | inRest
        · exact ⟨_, List.mem_cons_self, voiced_withCommentsOf isMember inside converted voiced⟩
        · obtain ⟨u, among, said⟩ := ih areMembers rest later inRest
          exact ⟨u, List.mem_cons_of_mem _ among, said⟩

theorem voiced_convertMapped {members : List Node} {pos : Int}
    (fits : ∀ m ∈ members, m.Plays Parsed .typeMember) (below : ∀ m ∈ members, SpeaksBelow m)
    (result : (convertMapped id pos members).result = .ok u) (found : members.find? isIndexer = some m)
    (voiced : Voiced c m) : Voiced c u := by
  induction members with
  | nil => cases found
  | cons p ps ih =>
    obtain ⟨isMember, areMembers⟩ := List.forall_mem_cons.mp fits
    obtain ⟨inside, rest⟩ := List.forall_mem_cons.mp below
    rcases member_cases isMember with ⟨i, key, value, optional, variance, method, rfl, -⟩
      | ⟨i, id, key, value, variance, rfl, -, -⟩ | ⟨i, type, rfl, -⟩
    · rw [convertMapped] at result
      · exact ih areMembers rest result found
      · rintro _ _ _ _ _ ⟨⟩
    · obtain rfl := Option.some.inj found
      rw [convertMapped] at result
      obtain ⟨-, -, result⟩ := Outcome.ok_of_bind result
      obtain ⟨k, isKey, result⟩ := Outcome.ok_of_bind result
      obtain ⟨v, isValue, rfl⟩ := Outcome.ok_of_map result
      obtain ⟨s, among, said⟩ := voiced.exists_shown rfl rfl
      have spoken := fun v => inside.types isMember rfl s among c v said
      rw [shown_flow rfl] at among
      simp only [FlowForm.slots, List.map_cons, List.map_nil, List.mem_cons, List.not_mem_nil,
        or_false] at among
      rcases among with rfl | rfl
      · exact voiced_ts (by simp [TsForm.slots]) (spoken k isKey)
      · exact voiced_ts (by simp [TsForm.slots]) (spoken v isValue)
    · rw [convertMapped] at result
      · exact ih areMembers rest result found
      · rintro _ _ _ _ _ ⟨⟩

end Members

/-! ## Types -/

section Types

variable {i : Info} {n p u : Node}

theorem speaks_function {tps rest : Option Node} {params : List Node} {ret : Node}
    (slots : ∀ s ∈ (FlowForm.function tps params rest ret).slots, s.2.Plays Parsed s.1)
    (below : SpeaksBelow ⟨i, .flow (.function tps params rest ret)⟩) :
    Node.Speaks ⟨i, .flow (.function tps params rest ret)⟩ := by
  intro c u voiced result
  obtain ⟨s, among, said⟩ := voiced.exists_shown rfl rfl
  have inside := fun p child => below.child (p := p) child
  simp only [Node.children, Form.children_eq_slots (f := .flow (.function tps params rest ret)) (by simp),
    Form.slots] at inside
  rw [shown_flow rfl] at among
  simp only [FlowForm.slots, List.forall_mem_append, Role.forall_mem_for?, Role.forall_mem_forAll,
    List.forall_mem_singleton] at slots
  simp only [FlowForm.slots, List.map_append, Role.for?_snd, Role.forAll_snd, List.map_cons,
    List.map_nil, List.mem_append, Option.mem_toList, List.mem_singleton] at among inside
  obtain ⟨⟨⟨areTparams, areParams⟩, isRest⟩, isRet⟩ := slots
  rw [convertType] at result
  obtain ⟨types, paramTypes, result⟩ := Outcome.ok_of_bind result
  obtain ⟨restType, isRestType, result⟩ := Outcome.ok_of_bind result
  obtain ⟨newTps, newTparams, result⟩ := Outcome.ok_of_bind result
  obtain ⟨newRet, converted, rfl⟩ := Outcome.ok_of_map result
  rcases among with ((found | member) | found) | rfl
  · subst found
    obtain ⟨v, rfl, inner⟩ := voiced_convertTparams (areTparams s rfl) (inside s (by simp))
      newTparams said
    exact voiced_ts (by simp [TsForm.slots]) inner
  · obtain ⟨length, spoken⟩ := voiced_convertParams (p := s) (c := c) areParams
      (fun p among => inside p (by simp [among])) paramTypes
    obtain ⟨v, among, inner⟩ := spoken member said
    obtain ⟨q, isParam, inner⟩ := voiced_tsParams length (length_paramNames params) among inner
    exact voiced_ts (by simp [TsForm.slots, isParam]) inner
  · subst found
    obtain ⟨q, isParam, inner⟩ := voiced_convertRest (isRest s rfl) (inside s (by simp))
      isRestType said (paramNames params)
    exact voiced_ts (by simp [TsForm.slots, isParam]) inner
  · exact voiced_ts (by simp [TsForm.slots])
      (below s (Node.child_mem_descendants (by simp [Node.children, Form.children, Form.parts,
        FlowForm.parts])) isRet c newRet said converted)

theorem speaks_object {members : List Node} {exact : Bool}
    (slots : ∀ s ∈ (FlowForm.object members exact).slots, s.2.Plays Parsed s.1)
    (below : SpeaksBelow ⟨i, .flow (.object members exact)⟩) :
    Node.Speaks ⟨i, .flow (.object members exact)⟩ := by
  intro c u voiced result
  simp only [FlowForm.slots, Role.forall_mem_forAll] at slots
  have inside : ∀ m ∈ members, SpeaksBelow m := fun m member =>
    below.child (by simp [Node.children, Form.children, Form.parts, FlowForm.parts, member])
  rw [convertType] at result
  cases mapped : isMapped members with
  | true =>
    rw [if_pos mapped] at result
    obtain ⟨-, -, result⟩ := Outcome.ok_of_bind result
    obtain ⟨m, among, said⟩ := voiced.exists_shown (by simp [Node.rows, mapped]) rfl
    simp only [Node.shown, mapped, if_true, Option.mem_toList] at among
    exact voiced_convertMapped slots inside result among said
  | false =>
    rw [if_neg (by simp [mapped])] at result
    obtain ⟨parts, converted, rfl⟩ := Outcome.ok_of_map result
    refine voiced_objectOf ?_
    cases voiced with
    | row row own =>
      simp only [Node.rows, mapped, Bool.false_eq_true, if_false, Node.fields, List.mem_filter,
        Bool.not_eq_true'] at row
      exact voiced_convertFields slots inside converted row.1 (.inl ⟨row.2, own⟩)
    | branch branch => exact absurd branch List.not_mem_nil
    | within shown inner =>
      simp only [Node.shown, mapped, Bool.false_eq_true, if_false] at shown
      exact voiced_convertFields slots inside converted shown (.inr inner)

/-- The type arguments of a reference, in the form in which the source has them. -/
theorem convertArguments_eq {targs : Option Node} (fits : ∀ t, targs = some t → t.Plays Parsed .targs)
    (u : Utility) : convertArguments id u.usesFirst targs = convertTypes id (Node.operands u targs) := by
  cases targs with
  | none =>
    rw [convertArguments, Node.operands, argumentsOf]
    · cases u.usesFirst <;> rfl
    all_goals simp
  | some t =>
    obtain ⟨i, f, rfl, role, -⟩ := Node.flow_of_typing (fits t rfl) rfl
    cases f with
    | targs types =>
      rw [convertArguments, Node.operands, argumentsOf]
      split
      · rw [convertFirst_eq]
      · rfl
    | _ => simp [FlowForm.roles, Role.ofExpr] at role

theorem speaks_generic {name : Node} {targs : Option Node}
    (slots : ∀ s ∈ (FlowForm.generic name targs).slots, s.2.Plays Parsed s.1)
    (below : SpeaksBelow ⟨i, .flow (.generic name targs)⟩) :
    Node.Speaks ⟨i, .flow (.generic name targs)⟩ := by
  intro c u voiced result
  simp only [FlowForm.slots, List.forall_mem_cons, Role.forall_mem_for?] at slots
  obtain ⟨-, fits⟩ := slots
  have inside : ∀ t, targs = some t → SpeaksBelow t := fun t found =>
    below.child (by simp [Node.children, Form.children, Form.parts, FlowForm.parts, found])
  obtain ⟨s, among, said⟩ := voiced.exists_shown rfl rfl
  rw [convertType] at result
  cases operation : utilityOf? name targs with
  | some op =>
    simp only [operation] at result
    simp only [Node.shown, operation] at among
    obtain ⟨args, converted, rfl⟩ := Outcome.ok_of_map result
    have copied : op.usesCopy →
        ((if op.usesCopy then convertArguments id op.usesFirst targs else pure []).toOption.getD [])
          = args := by
      intro copies
      rw [if_pos copies, Outcome.toOption, converted]
      rfl
    rw [convertArguments_eq fits] at converted
    have each : ∀ t ∈ argumentsOf targs, t.Speaks := by
      intro t member
      cases targs with
      | none => exact absurd member List.not_mem_nil
      | some a =>
        have types := (inside a rfl).types (fits a rfl) rfl
        obtain ⟨j, f, rfl, role, -⟩ := Node.flow_of_typing (fits a rfl) rfl
        cases f with
        | targs ts =>
          rw [children_targs] at types
          exact types t member
        | _ => simp [FlowForm.roles, Role.ofExpr] at role
    have eachOperand : ∀ t ∈ Node.operands op targs, t.Speaks := by
      intro t member
      rw [Node.operands] at member
      split at member
      · exact each t (List.mem_of_mem_take member)
      · exact each t member
    obtain ⟨v, member, inner⟩ := voiced_convertTypes eachOperand converted among said
    refine voiced_build ?_ copied member inner
    have takes : Utility.Takes (argumentsOf targs).length op := by
      unfold utilityOf? at operation
      split at operation
      · exact of?_takes operation
      · cases operation
    rw [length_convertTypes converted, Node.operands]
    cases first : op.usesFirst with
    | false => exact takes
    | true => cases op <;> trivial
  | none =>
    simp only [operation] at result
    simp only [Node.shown, operation, Option.mem_toList] at among
    subst among
    obtain ⟨entity, -, result⟩ := Outcome.ok_of_bind result
    obtain ⟨new, converted, rfl⟩ := Outcome.ok_of_map result
    obtain ⟨v, rfl, inner⟩ := voiced_convertTargs (fits s rfl) (inside s rfl) converted said
    exact voiced_ts (by simp [TsForm.slots, Role.for?]) inner

/-- The comments of every type of the source are kept. -/
theorem speaks_of_plays {t : Node} (plays : t.Plays Parsed .type) : t.Speaks := by
  induction t using Node.descend with
  | step t ih =>
    have below : SpeaksBelow t := ih
    obtain ⟨i, f, rfl, role, -, slots, -⟩ := Node.flow_of_typing plays rfl
    have leaf (bare : Node.shown ⟨i, .flow f⟩ = []) (rows : Node.rows ⟨i, .flow f⟩ = []) :
        Node.Speaks ⟨i, .flow f⟩ := by
      intro c u voiced
      obtain ⟨s, among, -⟩ := voiced.exists_shown rows rfl
      rw [bare] at among
      exact absurd among List.not_mem_nil
    have each : ∀ s ∈ f.slots, s.1 = .type → s.2.Speaks := fun s slot same =>
      below s.2 (Node.child_mem_descendants (Node.mem_children_of_slot (n := ⟨i, .flow f⟩) slot))
        (same ▸ slots s slot)
    cases f with
    | primitive | stringLit | numberLit | booleanLit => exact leaf rfl rfl
    | nullable inner =>
      intro c u voiced result
      obtain ⟨s, among, said⟩ := voiced.exists_shown rfl rfl
      obtain rfl : s = inner := by simpa [FlowForm.slots] using (shown_flow rfl).mp among
      rw [convertType] at result
      obtain ⟨v, converted, rfl⟩ := Outcome.ok_of_map result
      exact voiced_unionOf List.mem_cons_self (each (_, s) List.mem_cons_self rfl c v said converted)
    | array inner =>
      intro c u voiced result
      obtain ⟨s, among, said⟩ := voiced.exists_shown rfl rfl
      obtain rfl : s = inner := by simpa [FlowForm.slots] using (shown_flow rfl).mp among
      rw [convertType] at result
      obtain ⟨v, converted, rfl⟩ := Outcome.ok_of_map result
      exact voiced_ts (by simp [TsForm.slots])
        (each (_, s) List.mem_cons_self rfl c v said converted)
    | tuple types | union types | intersection types =>
      intro c u voiced result
      obtain ⟨s, among, said⟩ := voiced.exists_shown rfl rfl
      rw [shown_flow rfl, FlowForm.slots, Role.forAll_snd] at among
      rw [convertType] at result
      obtain ⟨us, converted, rfl⟩ := Outcome.ok_of_map result
      obtain ⟨v, member, inner⟩ := voiced_convertTypes
        (fun t member => each (.type, t) (List.mem_map_of_mem member) rfl) converted among said
      first
      | exact voiced_unionOf member inner
      | exact voiced_ts (by simpa [TsForm.slots] using member) inner
    | object members exact => exact speaks_object slots below
    | function tps params rest ret => exact speaks_function slots below
    | generic name targs => exact speaks_generic slots below
    | typeOf arg =>
      intro c u voiced result
      obtain ⟨s, among, said⟩ := voiced.exists_shown rfl rfl
      by_cases reference : ∃ j name targs, arg = ⟨j, .flow (.generic name targs)⟩
      · obtain ⟨j, name, targs, rfl⟩ := reference
        exact absurd among List.not_mem_nil
      · have only : Node.shown ⟨i, .flow (.typeOf arg)⟩ = [arg] := by
          unfold Node.shown
          split <;> simp_all [Node.children, Form.children, Form.parts, FlowForm.parts]
        obtain rfl : s = arg := by simpa [only] using among
        rw [convertType] at result
        · obtain ⟨-, -, converted⟩ := Outcome.ok_of_bind result
          exact each (_, s) List.mem_cons_self rfl c u said converted
        · exact fun j name targs same => reference ⟨j, name, targs, same⟩
    | _ => simp [FlowForm.roles, Role.ofExpr] at role

end Types

end Retype
