import Retype.Proofs.Voice.Conversion

/-!
# Comments and passes

Every rule leaves the comments of a node where they are, and what it makes of the node shows all
that the node showed.  So the comments that are kept in a tree of the source are kept in the tree
after all topics, if there are no strays.
-/

namespace Retype

open Node (Converted Parsed)
open Retype.Convert
open Passes (isDeclaration replacement)
open Outcome (fail warn warnIf ofExcept)

variable {c : String} {S : List Topic}

/-! ## Places -/

section Places

variable {n : Node}

theorem cleared?_info {size place : Nat} {keep : Node → Node} :
    ((Passes.cleared? n size place keep).getD n).info = n.info := by
  unfold Passes.cleared?
  dsimp only
  split <;> rfl

theorem become_plain_info {pos : Int} {f : Form Node} : (n.become (.plain pos f)).info = n.info := by
  rw [become_plain]
  rfl

/-- A rule leaves a node at its place, with its comments. -/
theorem info_apply {t : Topic} {keep : Node → Node} {new : Node}
    (result : (t.apply keep n).result = .ok new) : new.info = n.info := by
  rw [Topic.apply] at result
  split at result
  next change found =>
    cases t with
    | imports =>
      simp only [Topic.rule, Passes.importRule] at found
      split at found <;> cases found
      all_goals obtain ⟨_, -, rfl⟩ := Outcome.ok_of_map result
      · rfl
      · rfl
      · exact cleared?_info
    | exports =>
      simp only [Topic.rule, Passes.exportRule] at found
      split at found <;> cases found
      all_goals cases result
      · rfl
      · exact cleared?_info
    | declarations =>
      simp only [Topic.rule, Passes.declarationRule] at found
      split at found <;> cases found
      all_goals
        obtain ⟨_, -, rfl⟩ := Outcome.ok_of_map result
        rfl
    | interfaces =>
      simp only [Topic.rule, Passes.interfaceRule] at found
      split at found <;> cases found
      obtain ⟨_, -, result⟩ := Outcome.ok_of_bind result
      obtain ⟨_, -, result⟩ := Outcome.ok_of_bind result
      obtain ⟨_, -, rfl⟩ := Outcome.ok_of_map result
      exact become_plain_info
    | aliases =>
      simp only [Topic.rule, Passes.aliasRule] at found
      split at found <;> cases found
      · obtain ⟨_, -, result⟩ := Outcome.ok_of_bind result
        obtain ⟨_, -, rfl⟩ := Outcome.ok_of_map result
        exact become_plain_info
      · obtain ⟨_, -, result⟩ := Outcome.ok_of_bind result
        obtain ⟨_, -, result⟩ := Outcome.ok_of_bind result
        obtain ⟨_, -, rfl⟩ := Outcome.ok_of_map result
        exact become_plain_info
    | casts =>
      simp only [Topic.rule, Passes.castRule] at found
      split at found <;> cases found
      split at result
      · obtain ⟨_, -, rfl⟩ := Outcome.ok_of_map result
        exact become_plain_info
      · cases result
    | annotations =>
      simp only [Topic.rule, Passes.annotationRule] at found
      split at found
      next type form =>
        cases found
        rcases n with ⟨i, f⟩
        cases form
        obtain ⟨u, converted, rfl⟩ := Outcome.ok_of_map result
        rw [convertType] at converted
        obtain ⟨_, -, rfl⟩ := Outcome.ok_of_map converted
        exact become_plain_info
      next =>
        split at found <;> cases found
        obtain ⟨_, -, rfl⟩ := Outcome.ok_of_map result
        rfl
      next =>
        cases found
        obtain ⟨_, -, rfl⟩ := Outcome.ok_of_map result
        exact cleared?_info
      next => cases found
    | parameters =>
      simp only [Topic.rule, Passes.parameterRule] at found
      split at found <;> cases found
      next params form =>
        rcases n with ⟨i, f⟩
        cases form
        obtain ⟨u, converted, rfl⟩ := Outcome.ok_of_map result
        rw [convertTparams] at converted
        obtain ⟨_, -, rfl⟩ := Outcome.ok_of_map converted
        exact become_plain_info
    | heritage =>
      simp only [Topic.rule, Passes.heritageRule] at found
      split at found <;> cases found
      obtain ⟨_, -, rfl⟩ := Outcome.ok_of_map result
      exact become_plain_info
    | arguments =>
      simp only [Topic.rule, Passes.argumentRule] at found
      split at found <;> cases found
      next types form =>
        rcases n with ⟨i, f⟩
        cases form
        obtain ⟨u, converted, rfl⟩ := Outcome.ok_of_map result
        rw [convertTargs] at converted
        obtain ⟨us, -, rfl⟩ := Outcome.ok_of_map converted
        split <;> exact become_plain_info
  next => cases result; rfl

theorem info_after (S : List Topic) (n : Node) : (n.after S).info = n.info := by
  rw [Node.after_eq, Node.settleAt]
  split
  next t topic =>
    split
    · cases result : (t.apply id (n.layer S)).result with
      | error e =>
        rw [Outcome.toOption, result]
        rfl
      | ok new =>
        rw [Outcome.toOption, result]
        exact (info_apply result).trans rfl
    · rfl
  next => rfl

end Places

/-! ## Types -/

section Types

variable {n : Node}

theorem speaksBelow (n : Node) : SpeaksBelow n := fun _ _ => speaks_of_plays

theorem layer_nil (n : Node) : n.layer [] = n := by
  rw [Node.layer, Form.map_eq_self fun m _ => m.after_nil, Node.withForm_self]

/-- A rule turns a node of the source into what it makes of it. -/
theorem Turns.apply_id {t : Topic} {new : Node} (turns : Turns t n new) :
    (t.apply id n).result = .ok new := by
  have result := turns.apply id [] [] (carries_id [] n)
  rwa [layer_nil, layer_nil] at result

theorem after_nil_eq : Node.after [] = id := funext Node.after_nil

/-- The value that a conversion yields is the one it gives on the source. -/
theorem Convert.Yields.of_result {α : Type} {convert : (Node → Node) → List Topic → Outcome α}
    {P : α → Prop} {a : α} (yields : Yields convert P) (result : (convert id []).result = .ok a) :
    P a := by
  obtain ⟨b, holds, found⟩ := yields
  rw [found id [] fixes_id] at result
  exact Except.ok.inj result ▸ holds

theorem converted_of_convertType {t u : Node} (plays : t.Plays Parsed .type)
    (result : (convertType id t).result = .ok u) : u.Plays Converted .type :=
  ((type_yields plays).of_result (by rwa [Node.after_nil])).1

theorem converted_of_convertTparams {tps new : Option Node}
    (fits : ∀ t, tps = some t → t.Plays Parsed .tparams)
    (result : (convertTparams id tps).result = .ok new) :
    ∀ t, new = some t → t.Plays Converted .tparams :=
  (tparams?_yield fits fun t _ => typesYieldBelow t).of_result (by rwa [after_nil_eq, Option.map_id])

/-- A rule whose result is converted keeps comments if the conversion does. -/
theorem voiced_of_turns {t : Topic} {new : Node} (turns : Turns t n new) (settled : t ∈ S)
    (formed : new.Formed Converted) (voiced : Voiced c new) : Voiced c (n.after S) := by
  rw [turns.after settled, Node.after_of_converted formed]
  exact voiced

theorem voiced_after_tparams (plays : n.Plays Parsed .tparams) (settled : .parameters ∈ S)
    (voiced : Voiced c n) : Voiced c (n.after S) := by
  obtain ⟨new, formed, turns⟩ := turns_tparams plays
  refine voiced_of_turns turns settled formed ?_
  have result := turns.apply_id
  obtain ⟨i, f, rfl, role, -⟩ := Node.flow_of_typing plays rfl
  cases f with
  | tparams params =>
    obtain ⟨u, converted, rfl⟩ := Outcome.ok_of_map
      (f := fun u : Option Node =>
        Node.become ⟨i, .flow (.tparams params)⟩ (u.getD ⟨i, .flow (.tparams params)⟩)) result
    obtain ⟨v, rfl, said⟩ := voiced_convertTparams plays (speaksBelow _) converted voiced
    exact said.of_form rfl
  | _ => simp [FlowForm.roles, Role.ofExpr] at role

theorem voiced_after_targs (plays : n.Plays Parsed .targs) (settled : .arguments ∈ S)
    (voiced : Voiced c n) : Voiced c (n.after S) := by
  obtain ⟨new, formed, turns⟩ := turns_targs plays
  refine voiced_of_turns turns settled formed ?_
  have result := turns.apply_id
  obtain ⟨i, f, rfl, role, -⟩ := Node.flow_of_typing plays rfl
  cases f with
  | targs types =>
    obtain ⟨u, converted, rfl⟩ := Outcome.ok_of_map
      (f := fun u : Option Node =>
        Node.become ⟨i, .flow (.targs types)⟩ (u.getD (.ts i.pos (.targs [])))) result
    obtain ⟨v, rfl, said⟩ := voiced_convertTargs plays (speaksBelow _) converted voiced
    exact said.of_form rfl
  | _ => simp [FlowForm.roles, Role.ofExpr] at role

theorem voiced_annot {i : Info} {type u : Node} (plays : type.Plays Parsed .type)
    (result : (convertType id ⟨i, .flow (.annot type)⟩).result = .ok u)
    (voiced : Voiced c ⟨i, .flow (.annot type)⟩) : Voiced c u := by
  obtain ⟨s, among, said⟩ := voiced.exists_shown rfl rfl
  obtain rfl : s = type := by simpa [FlowForm.slots] using (shown_flow rfl).mp among
  rw [convertType] at result
  obtain ⟨v, converted, rfl⟩ := Outcome.ok_of_map result
  exact voiced_ts (by simp [TsForm.slots]) (speaks_of_plays plays c v said converted)

theorem annot_cases (plays : n.Plays Parsed .annot) :
    ∃ i type, n = ⟨i, .flow (.annot type)⟩ ∧ type.Plays Parsed .type := by
  obtain ⟨i, f, rfl, role, -, slots, -⟩ := Node.flow_of_typing plays rfl
  cases f with
  | annot type => exact ⟨i, type, rfl, slots _ List.mem_cons_self⟩
  | _ => simp [FlowForm.roles, Role.ofExpr] at role

theorem voiced_after_annot (plays : n.Plays Parsed .annot) (settled : .annotations ∈ S)
    (voiced : Voiced c n) : Voiced c (n.after S) := by
  obtain ⟨new, formed, turns⟩ := turns_annot plays
  refine voiced_of_turns turns settled formed ?_
  have result := turns.apply_id
  obtain ⟨i, type, rfl, isType⟩ := annot_cases plays
  obtain ⟨u, converted, rfl⟩ := Outcome.ok_of_map
    (f := fun u => Node.become ⟨i, .flow (.annot type)⟩ u) result
  exact (voiced_annot isType converted voiced).of_form rfl

theorem voiced_after_heritage (plays : n.Plays Parsed .heritage) (settled : .heritage ∈ S)
    (arguments : .arguments ∈ S) (voiced : Voiced c n) : Voiced c (n.after S) := by
  obtain ⟨id, targs, entity, member, spec⟩ := supertype_spec plays
  obtain ⟨t, among, said⟩ := voiced.exists_shown (by simp [Node.rows, spec.form])
    (by simp [Node.branches, spec.form])
  simp only [Node.shown, spec.form, Option.mem_toList] at among
  rw [spec.turns.after settled, spec.turns.spent.after, layer_heritage, among]
  exact voiced_ts (by simp [TsForm.slots]) (voiced_after_targs (spec.isTargs t among) arguments said)

theorem speaks_ts {i : Info} {f : TsForm Node} : Node.Speaks ⟨i, .ts f⟩ := by
  intro c u voiced result
  rw [convertType] at result
  cases result
  exact voiced

/-- An alias from its converted parts. -/
theorem voiced_alias (i : Info) (name : String) (declare : Bool) {tps newTps : Option Node}
    {type u : Node} (areTparams : ∀ t, tps = some t → t.Plays Parsed .tparams)
    (speaks : type.Speaks) (isType : u.Plays Converted .type)
    (tparamsResult : (convertTparams id tps).result = .ok newTps)
    (typeResult : (convertType id type).result = .ok u)
    (voiced : ∃ m, (tps = some m ∨ m = type) ∧ Voiced c m) :
    (⟨i, .ts (.typeAlias name newTps u declare)⟩ : Node).Formed Converted
      ∧ Voiced c ⟨i, .ts (.typeAlias name newTps u declare)⟩ := by
  constructor
  · refine Node.formed_iff.mpr ⟨.inl ⟨_, rfl⟩, trivial, ?_⟩
    simp only [Form.slots, TsForm.slots, List.forall_mem_append, Role.forall_mem_for?,
      List.forall_mem_singleton]
    exact ⟨converted_of_convertTparams areTparams tparamsResult, isType⟩
  · obtain ⟨m, rfl | rfl, said⟩ := voiced
    · obtain ⟨v, rfl, inner⟩ :=
        voiced_convertTparams (areTparams m rfl) (speaksBelow m) tparamsResult said
      exact voiced_ts (by simp [TsForm.slots]) inner
    · exact voiced_ts (by simp [TsForm.slots]) (speaks c u said typeResult)

/-- The entries of an `extends` list keep their comments. -/
theorem voiced_convertHeritage {parents hs : List Node} {p : Node}
    (fits : ∀ p ∈ parents, p.Plays Parsed .heritage)
    (result : (mapChildren (Passes.convertHeritage id) parents).result = .ok hs) (member : p ∈ parents)
    (voiced : Voiced c p) : ∃ h ∈ hs, Voiced c h := by
  induction parents generalizing hs with
  | nil => exact absurd member List.not_mem_nil
  | cons q qs ih =>
    rw [mapChildren] at result
    obtain ⟨h, first, result⟩ := Outcome.ok_of_bind result
    obtain ⟨hs, rest, rfl⟩ := Outcome.ok_of_map result
    rcases List.mem_cons.mp member with rfl | later
    · obtain ⟨name, targs, entity, member, spec⟩ := supertype_spec (fits p List.mem_cons_self)
      obtain ⟨t, among, said⟩ := voiced.exists_shown (by simp [Node.rows, spec.form])
        (by simp [Node.branches, spec.form])
      simp only [Node.shown, spec.form, Option.mem_toList] at among
      subst among
      rw [Passes.convertHeritage, heritageParts?, spec.form] at first
      obtain ⟨e, -, first⟩ := Outcome.ok_of_bind first
      obtain ⟨new, converted, rfl⟩ := Outcome.ok_of_map first
      obtain ⟨v, rfl, inner⟩ := voiced_convertTargs (spec.isTargs t rfl) (speaksBelow t) converted said
      exact ⟨_, List.mem_cons_self, voiced_ts (by simp [TsForm.slots]) inner⟩
    · obtain ⟨h, among, said⟩ := ih (fun q member => fits q (List.mem_cons_of_mem _ member)) rest later
      exact ⟨h, List.mem_cons_of_mem _ among, said⟩

end Types

/-! ## Aliases and interfaces -/

section Statements

variable {i : Info} {name : String} {tps : Option Node} {declare : Bool}

theorem voiced_after_typeAlias {type : Node}
    (slots : ∀ s ∈ (FlowForm.typeAlias name tps type declare).slots, s.2.Plays Parsed s.1)
    (settled : .aliases ∈ S) (voiced : Voiced c ⟨i, .flow (.typeAlias name tps type declare)⟩) :
    Voiced c (Node.after S ⟨i, .flow (.typeAlias name tps type declare)⟩) := by
  obtain ⟨f, turns⟩ := turns_typeAlias (i := i) slots
  have result := turns.apply_id
  obtain ⟨m, among, said⟩ := voiced.exists_shown rfl rfl
  rw [shown_flow rfl] at among
  simp only [FlowForm.slots, List.map_append, Role.for?_snd, List.map_cons, List.map_nil,
    List.mem_append, Option.mem_toList, List.mem_singleton] at among
  simp only [FlowForm.slots, List.forall_mem_append, Role.forall_mem_for?,
    List.forall_mem_singleton] at slots
  obtain ⟨newTps, tparamsResult, result⟩ := Outcome.ok_of_bind result
  obtain ⟨u, typeResult, new⟩ := Outcome.ok_of_map result
  rw [Node.ts, become_plain] at new
  obtain ⟨formed, kept⟩ := voiced_alias i name declare slots.1 (speaks_of_plays slots.2)
    (converted_of_convertType slots.2 typeResult) tparamsResult typeResult ⟨m, among, said⟩
  exact voiced_of_turns turns settled (new ▸ formed) (new ▸ kept)

theorem voiced_after_opaqueType {supertype type : Option Node}
    (slots : ∀ s ∈ (FlowForm.opaqueType name tps supertype type declare).slots, s.2.Plays Parsed s.1)
    (settled : .aliases ∈ S)
    (voiced : Voiced c ⟨i, .flow (.opaqueType name tps supertype type declare)⟩) :
    Voiced c (Node.after S ⟨i, .flow (.opaqueType name tps supertype type declare)⟩) := by
  obtain ⟨f, turns⟩ := turns_opaqueType (i := i) slots
  have result := turns.apply_id
  obtain ⟨m, among, said⟩ := voiced.exists_shown rfl rfl
  simp only [Node.shown, List.mem_append, Option.mem_toList] at among
  simp only [FlowForm.slots, List.forall_mem_append, Role.forall_mem_for?] at slots
  obtain ⟨-, -, result⟩ := Outcome.ok_of_bind result
  obtain ⟨newTps, tparamsResult, result⟩ := Outcome.ok_of_bind result
  obtain ⟨u, typeResult, new⟩ := Outcome.ok_of_map result
  rw [Node.ts, become_plain] at new
  have isType : ∀ t, type.or supertype = some t → t.Plays Parsed .type := by
    intro t found
    cases type with
    | some t' => exact slots.2 t found
    | none => exact slots.1.2 t found
  have kept : Node.Formed Converted ⟨i, .ts (.typeAlias name newTps u declare)⟩
      ∧ Voiced c ⟨i, .ts (.typeAlias name newTps u declare)⟩ := by
    cases shown : type.or supertype with
    | some t =>
      rw [shown] at typeResult among
      refine voiced_alias i name declare slots.1.1 (speaks_of_plays (isType t shown))
        (converted_of_convertType (isType t shown) typeResult) tparamsResult typeResult ⟨m, ?_, said⟩
      exact among.imp_right fun found => (Option.some.inj found).symm
    | none =>
      rw [shown] at typeResult among
      refine voiced_alias i name declare slots.1.1 speaks_ts ?_ tparamsResult typeResult
        ⟨m, .inl (among.resolve_right (by simp)), said⟩
      cases typeResult
      exact plays_ts_iff.mpr ⟨by simp [TsForm.roles], trivial, by simp [TsForm.slots]⟩
  exact voiced_of_turns turns settled (new ▸ kept.1) (new ▸ kept.2)

theorem voiced_after_interface {parents : List Node} {body : Node}
    (slots : ∀ s ∈ (FlowForm.interface name tps parents body declare).slots, s.2.Plays Parsed s.1)
    (settled : .interfaces ∈ S)
    (voiced : Voiced c ⟨i, .flow (.interface name tps parents body declare)⟩) :
    Voiced c (Node.after S ⟨i, .flow (.interface name tps parents body declare)⟩) := by
  obtain ⟨f, turns⟩ := turns_interface (i := i) slots
  have result := turns.apply_id
  simp only [FlowForm.slots, List.forall_mem_append, Role.forall_mem_for?, Role.forall_mem_forAll,
    List.forall_mem_singleton] at slots
  obtain ⟨⟨areTparams, areParents⟩, isBody⟩ := slots
  obtain ⟨j, members, exact, rfl, areMembers⟩ := object_cases isBody
  obtain ⟨hs, parentsResult, result⟩ := Outcome.ok_of_bind result
  obtain ⟨newTps, tparamsResult, result⟩ := Outcome.ok_of_bind result
  obtain ⟨ms, bodyResult, new⟩ := Outcome.ok_of_map result
  rw [Node.ts, become_plain] at new
  have formed : (⟨i, .ts (.interface name newTps hs ms declare)⟩ : Node).Formed Converted := by
    refine Node.formed_iff.mpr ⟨.inl ⟨_, rfl⟩, trivial, ?_⟩
    simp only [Form.slots, TsForm.slots, List.forall_mem_append, Role.forall_mem_for?,
      Role.forall_mem_forAll]
    exact ⟨⟨converted_of_convertTparams areTparams tparamsResult,
      (heritage_yields areParents).of_result (by rwa [after_nil_eq, List.map_id])⟩,
      (body_yields false areMembers).of_result (by rwa [after_nil_eq, List.map_id])⟩
  have member {m : Node} (field : m ∈ Node.fields members)
      (said : (c ∈ m.comments ∨ c ∈ m.trailing) ∨ Voiced c m) :
      Voiced c ⟨i, .ts (.interface name newTps hs ms declare)⟩ := by
    rw [Node.fields, List.mem_filter, Bool.not_eq_true'] at field
    obtain ⟨u, among, kept⟩ := voiced_convertBody areMembers (fun m _ => speaksBelow m) bodyResult
      field.1 field.2 said
    rcases kept with own | inner
    · exact .row (n := ⟨i, .ts (.interface name newTps hs ms declare)⟩) among own
    · exact voiced_ts (by simp [TsForm.slots, among]) inner
  have kept : Voiced c ⟨i, .ts (.interface name newTps hs ms declare)⟩ := by
    cases voiced with
    | row row own => exact member row (.inl own)
    | branch branch => exact absurd branch List.not_mem_nil
    | @within _ m shown inner =>
      simp only [Node.shown, List.mem_append, Option.mem_toList] at shown
      rcases shown with (rfl | parent) | field
      · obtain ⟨v, rfl, said⟩ :=
          voiced_convertTparams (areTparams m rfl) (speaksBelow m) tparamsResult inner
        exact voiced_ts (by simp [TsForm.slots]) said
      · obtain ⟨h, among, said⟩ := voiced_convertHeritage areParents parentsResult parent inner
        exact voiced_ts (by simp [TsForm.slots, among]) said
      · exact member field (.inr inner)
  exact voiced_of_turns turns settled (new ▸ formed) (new ▸ kept)

end Statements

/-! ## Declarations -/

section Declarations

variable {d : Node} {h : TsForm Node}

theorem DeclarationTurns.convert_id (turns : DeclarationTurns d h) :
    (convertDeclaration id d).result = .ok (.ts d.pos h) := by
  have result := turns.convert id [] [] (carries_id [] d)
  rwa [Node.after_nil, layer_nil] at result

theorem layer_declareClass {i : Info} {name : String} {tps parent args : Option Node} :
    Node.layer S ⟨i, .ts (.declareClass name tps parent args)⟩
      = ⟨i, .ts (.declareClass name (tps.map (Node.after S)) (parent.map (Node.after S))
        (args.map (Node.after S)))⟩ := by
  simp [Node.layer, Node.withForm, TsForm.map, TsForm.mapM]

theorem voiced_declareVar {i j : Info} {kind : VarKind} {name : String} {annot : Option Node}
    (fits : ∀ a, annot = some a → a.Plays Parsed .annot)
    (result : (convertDeclaration id ⟨j, .flow (.declareVar kind name annot)⟩).result = .ok (.ts j.pos h))
    (voiced : Voiced c ⟨j, .flow (.declareVar kind name annot)⟩) :
    (⟨i, .ts h⟩ : Node).Formed Converted ∧ Voiced c ⟨i, .ts h⟩ := by
  obtain ⟨u, converted, same⟩ := Outcome.ok_of_map result
  cases same
  constructor
  · refine Node.formed_iff.mpr ⟨.inl ⟨_, rfl⟩, trivial, ?_⟩
    simp only [Form.slots, TsForm.slots, Role.forall_mem_for?]
    exact (annot?_yields fits).of_result (by rwa [after_nil_eq, Option.map_id])
  · obtain ⟨a, among, said⟩ := voiced.exists_shown rfl rfl
    rw [shown_flow rfl, FlowForm.slots, Role.for?_snd, Option.mem_toList] at among
    subst among
    obtain ⟨k, type, rfl, isType⟩ := annot_cases (fits a rfl)
    rw [convertType?] at converted
    obtain ⟨v, inner, rfl⟩ := Outcome.ok_of_map converted
    exact voiced_ts (by simp [TsForm.slots]) (voiced_annot isType inner said)

theorem voiced_declareFunction {i j : Info} {name : String} {annot : Option Node}
    (fits : ∀ a, annot = some a → a.Plays Parsed .annot)
    (sound : (FlowForm.declareFunction name annot).Sound)
    (result : (convertDeclaration id ⟨j, .flow (.declareFunction name annot)⟩).result = .ok (.ts j.pos h))
    (voiced : Voiced c ⟨j, .flow (.declareFunction name annot)⟩) :
    (⟨i, .ts h⟩ : Node).Formed Converted ∧ Voiced c ⟨i, .ts h⟩ := by
  obtain ⟨a, among, said⟩ := voiced.exists_shown rfl rfl
  rw [shown_flow rfl, FlowForm.slots, Role.for?_snd, Option.mem_toList] at among
  subst among
  obtain ⟨k, fn, rfl, isType⟩ := annot_cases (fits a rfl)
  obtain ⟨t, found, function⟩ := sound
  obtain rfl : fn = t := Option.some.inj found
  obtain ⟨s, among, inner⟩ := said.exists_shown rfl rfl
  obtain rfl : s = fn := by simpa [FlowForm.slots] using (shown_flow rfl).mp among
  simp only [convertDeclaration, Option.bind_some, annotatedType?, if_pos function] at result
  obtain ⟨u, converted, result⟩ := Outcome.ok_of_bind result
  have same := (isFunctionType_of_fnType (fnType_of_isFunctionType isType function)).2.2.2 id []
  rw [Node.after_nil] at same
  rw [same] at converted
  have kept := speaks_of_plays isType c u inner converted
  obtain ⟨-, -, slots⟩ := Node.formed_iff.mp (converted_of_convertType isType converted).2
  rw [declaredFunction] at result
  split at result
  next tparams params rest ret form =>
    cases result
    rw [form] at slots
    refine ⟨Node.formed_iff.mpr ⟨.inl ⟨_, rfl⟩, trivial, slots⟩, ?_⟩
    obtain ⟨v, among, said⟩ := kept.exists_shown (by simp [Node.rows, form])
      (by simp [Node.branches, form])
    refine voiced_ts ?_ said
    simpa [Node.shown, form, Node.children, Form.children, Form.parts, TsForm.parts,
      TsForm.slots] using among
  next => cases result

/-- A declared class keeps the comments of its type parameters and of its first supertype. -/
theorem voiced_declareClass {i j : Info} {name : String} {tps : Option Node} {parents : List Node}
    {body : Node} (areTparams : ∀ t, tps = some t → t.Plays Parsed .tparams)
    (areParents : ∀ p ∈ parents, p.Plays Parsed .heritage) (arguments : .arguments ∈ S)
    (result : (convertDeclaration id ⟨j, .flow (.declareClass name tps parents body)⟩).result
      = .ok (.ts j.pos h))
    (voiced : Voiced c ⟨j, .flow (.declareClass name tps parents body)⟩) :
    Voiced c (Node.layer S ⟨i, .ts h⟩) := by
  have parts : ∃ parent newTps, (firstSupertype id parents).result = .ok parent
      ∧ (convertTparams id tps).result = .ok newTps ∧ h = .declareClass name newTps parent.1 parent.2 := by
    rw [convertDeclaration] at result
    dsimp only at result
    split at result
    · obtain ⟨-, -, result⟩ := Outcome.ok_of_bind result
      obtain ⟨-, -, result⟩ := Outcome.ok_of_bind result
      obtain ⟨parent, first, result⟩ := Outcome.ok_of_bind result
      obtain ⟨newTps, converted, same⟩ := Outcome.ok_of_map result
      cases same
      exact ⟨parent, newTps, first, converted, rfl⟩
    · obtain ⟨-, -, result⟩ := Outcome.ok_of_bind result
      obtain ⟨parent, first, result⟩ := Outcome.ok_of_bind result
      obtain ⟨newTps, converted, same⟩ := Outcome.ok_of_map result
      cases same
      exact ⟨parent, newTps, first, converted, rfl⟩
  obtain ⟨parent, newTps, first, converted, rfl⟩ := parts
  obtain ⟨m, among, said⟩ := voiced.exists_shown rfl rfl
  simp only [Node.shown, List.mem_append, Option.mem_toList] at among
  rw [layer_declareClass]
  rcases among with rfl | isFirst
  · obtain ⟨v, rfl, inner⟩ := voiced_convertTparams (areTparams m rfl) (speaksBelow m) converted said
    rw [map_after_of_converted fun t found =>
      (converted_of_convertTparams areTparams converted t found).2]
    exact voiced_ts (by simp [TsForm.slots]) inner
  · cases parents with
    | nil => exact absurd isFirst List.not_mem_nil
    | cons p ps =>
      obtain rfl : m = p := by simpa using isFirst
      obtain ⟨id, targs, entity, member, spec⟩ := supertype_spec (areParents m List.mem_cons_self)
      obtain ⟨t, among, inner⟩ := said.exists_shown (by simp [Node.rows, spec.form])
        (by simp [Node.branches, spec.form])
      simp only [Node.shown, spec.form, Option.mem_toList] at among
      subst among
      simp only [firstSupertype, heritageParts?, spec.form] at first
      obtain ⟨e, -, rfl⟩ := Outcome.ok_of_map first
      exact voiced_ts (by simp [TsForm.slots]) (voiced_after_targs (spec.isTargs t rfl) arguments inner)

/-- A declaration keeps its comments in what it converts to. -/
theorem voiced_declaration (formed : d.Formed Parsed) (turns : DeclarationTurns d h)
    (arguments : .arguments ∈ S) (voiced : Voiced c d) (i : Info) :
    Voiced c (Node.after S ⟨i, .ts h⟩) := by
  have result := turns.convert_id
  have declares := turns.declares
  obtain ⟨-, sound, slots⟩ := Node.formed_iff.mp formed
  have converted (kept : (⟨i, .ts h⟩ : Node).Formed Converted ∧ Voiced c ⟨i, .ts h⟩) :
      Voiced c (Node.after S ⟨i, .ts h⟩) := by
    rw [Node.after_of_converted kept.1]
    exact kept.2
  rcases d with ⟨j, f⟩
  cases f with
  | flow f =>
    cases f with
    | declareVar kind name annot =>
      simp only [Form.slots, FlowForm.slots, Role.forall_mem_for?] at slots
      exact converted (voiced_declareVar slots result voiced)
    | declareFunction name annot =>
      simp only [Form.slots, FlowForm.slots, Role.forall_mem_for?] at slots
      exact converted (voiced_declareFunction slots sound result voiced)
    | declareClass name tps parents body =>
      simp only [Form.slots, FlowForm.slots, List.forall_mem_append, Role.forall_mem_for?,
        Role.forall_mem_forAll] at slots
      rw [spent_ts.after]
      exact voiced_declareClass slots.1.1 slots.1.2 arguments result voiced
    | _ => cases declares
  | _ => cases declares

theorem replacement_id {s : Node} (plays : s.Plays Parsed .stmt) (good : s.badExport? = none) :
    (replacement id s).result = .ok s.replaced := by
  have result := (statement_turns plays.2 plays.1 good).replace id [] [] fixes_id fun _ _ => rfl
  rwa [Node.after_nil, after_nil_eq, List.map_id] at result

/-- What takes the place of a declaration: its conversion, alone or exported. -/
theorem replaced_cases {s : Node} (plays : s.Plays Parsed .stmt) (good : s.badExport? = none)
    (declares : s.form.isDeclare) : ∃ d h, d.Formed Parsed ∧ DeclarationTurns d h
      ∧ (Voiced c s → Voiced c d)
      ∧ (s.replaced = [⟨s.info, .ts h⟩]
        ∨ s.replaced = [⟨s.info, .stmt (.exportNamed (some (.ts d.pos h)) [] none none)⟩]
        ∨ s.replaced = [⟨{ pos := d.pos, comments := s.comments, blankBefore := s.info.blankBefore }, .ts h⟩,
          ⟨{ pos := s.pos, trailing := s.trailing },
            .stmt (.exportDefault (.ident s.pos (Passes.declaredName (.ts d.pos h))))⟩]) := by
  have result := replacement_id plays good
  rcases s with ⟨i, f⟩
  have alone (declared : isDeclaration ⟨i, f⟩) : ∃ h, DeclarationTurns ⟨i, f⟩ h
      ∧ Node.replaced ⟨i, f⟩ = [⟨i, .ts h⟩] := by
    obtain ⟨h, turns⟩ := declaration_turns plays.2 declared
    rw [replacement, if_pos declared] at result
    obtain ⟨w, converted, same⟩ := Outcome.ok_of_map result
    rw [turns.convert_id] at converted
    cases converted
    rw [Node.ts, become_plain] at same
    exact ⟨h, turns, same⟩
  cases f with
  | flow f =>
    cases f with
    | declareVar | declareFunction | declareClass =>
      obtain ⟨h, turns, same⟩ := alone rfl
      exact ⟨_, h, plays.2, turns, id, .inl same⟩
    | declareExport decl isDefault =>
      have inner : decl.Formed Parsed := plays.2.of_child
        (by simp [Node.children, Form.children, Form.parts, FlowForm.parts])
      rw [replacement, if_neg (by simp [isDeclaration])] at result
      dsimp only at result
      split at result
      · cases result
      next fine =>
        have declared : isDeclaration decl := by
          simp only [Bool.or_eq_true, Bool.not_eq_true', not_or, Bool.not_eq_false] at fine
          exact fine.1
        obtain ⟨h, turns⟩ := declaration_turns inner declared
        obtain ⟨w, converted, result⟩ := Outcome.ok_of_bind result
        rw [turns.convert_id] at converted
        cases converted
        refine ⟨decl, h, inner, turns, fun voiced => ?_, ?_⟩
        · obtain ⟨m, among, said⟩ := voiced.exists_shown rfl rfl
          obtain rfl : m = decl := by simpa [FlowForm.slots] using (shown_flow rfl).mp among
          exact said
        · cases isDefault with
          | true => exact .inr (.inr (Except.ok.inj result).symm)
          | false =>
            have same := (Except.ok.inj result).symm
            rw [Node.stmt, become_plain] at same
            exact .inr (.inl same)
    | _ => cases declares
  | _ => cases declares

/-- What takes the place of a statement keeps its comments. -/
theorem voiced_replaced {s : Node} (plays : s.Plays Parsed .stmt) (good : s.badExport? = none)
    (arguments : .arguments ∈ S)
    (kept : s.form.isDeclare = false → Voiced c s → Voiced c (s.after S)) :
    ((c ∈ s.comments ∨ c ∈ s.trailing) →
        ∃ w ∈ s.replaced, c ∈ (w.after S).comments ∨ c ∈ (w.after S).trailing)
      ∧ (Voiced c s → ∃ w ∈ s.replaced, Voiced c (w.after S)) := by
  simp only [Node.comments, Node.trailing, info_after]
  cases declares : s.form.isDeclare with
  | false =>
    rw [replaced_of_isDeclare declares]
    exact ⟨fun own => ⟨s, List.mem_singleton_self _, own⟩,
      fun said => ⟨s, List.mem_singleton_self _, kept declares said⟩⟩
  | true =>
    obtain ⟨d, h, formed, turns, inner, shapes⟩ := replaced_cases (c := c) plays good declares
    have voiced (said : Voiced c s) (i : Info) : Voiced c (Node.after S ⟨i, .ts h⟩) :=
      voiced_declaration formed turns arguments (inner said) i
    rcases shapes with same | same | same
    all_goals rw [same]
    · exact ⟨fun own => ⟨_, List.mem_cons_self, own⟩,
        fun said => ⟨_, List.mem_cons_self, voiced said s.info⟩⟩
    · refine ⟨fun own => ⟨_, List.mem_cons_self, own⟩, fun said => ⟨_, List.mem_cons_self, ?_⟩⟩
      rw [spent_exportNamed.after, layer_exportNamed]
      exact .within List.mem_cons_self (voiced said { pos := d.pos })
    · refine ⟨fun own => ?_, fun said => ⟨_, List.mem_cons_self, voiced said _⟩⟩
      rcases own with leading | trailing
      · exact ⟨_, List.mem_cons_self, .inl leading⟩
      · exact ⟨_, List.mem_cons_of_mem _ List.mem_cons_self, .inr trailing⟩

end Declarations

/-! ## Layers of code -/

section Layers

variable {n : Node} {k : Node → Node}

/-- The layers of a program that stay in their place. -/
def Form.isCode {α : Type} : Form α → Bool
  | .expr _ | .stmt _ | .flow (.typecast ..) => true
  | _ => false

theorem rows_map (code : n.form.isCode) (k : Node → Node) :
    (n.withForm (n.form.map k)).rows = n.rows.map k := by
  rcases n with ⟨i, f⟩
  cases f with
  | expr f => cases f <;> simp [Node.withForm, Node.rows, ExprForm.map, ExprForm.mapM]
  | stmt f => cases f <;> simp [Node.withForm, Node.rows, StmtForm.map, StmtForm.mapM]
  | flow f => cases f <;> first | rfl | cases code
  | _ => cases code

theorem shown_map (code : n.form.isCode) (k : Node → Node) :
    (n.withForm (n.form.map k)).shown = n.shown.map k := by
  rcases n with ⟨i, f⟩
  cases f with
  | expr f =>
    cases f with
    | prop key value shorthand => cases shorthand <;> rfl
    | _ => exact Form.children_map k (.expr _)
  | stmt f =>
    cases f with
    | importDecl => rfl
    | exportNamed decl specs source kind => cases decl <;> rfl
    | _ => exact Form.children_map k (.stmt _)
  | flow f => cases f <;> first | exact Form.children_map k (.flow _) | cases code
  | _ => cases code

theorem shown_subset (code : n.form.isCode) : ∀ m ∈ n.shown, m ∈ n.children := by
  rcases n with ⟨i, f⟩
  cases f with
  | expr f =>
    cases f with
    | prop key value shorthand =>
      cases shorthand <;> simp [Node.shown, Node.children, Form.children, Form.parts, ExprForm.parts]
    | _ => exact fun m shown => shown
  | stmt f =>
    cases f with
    | importDecl => simp [Node.shown]
    | exportNamed decl specs source kind =>
      simp +contextual [Node.shown, Node.children, Form.children, Form.parts, StmtForm.parts]
    | _ => exact fun m shown => shown
  | flow f => cases f <;> first | exact fun m shown => shown | cases code
  | _ => cases code

/-- A layer of code keeps comments if its children do. -/
theorem voiced_map (code : n.form.isCode)
    (stay : ∀ m, m ∈ n.rows ∨ m ∈ n.branches → (k m).info = m.info)
    (each : ∀ m ∈ n.shown, Voiced c m → Voiced c (k m)) (voiced : Voiced c n) :
    Voiced c (n.withForm (n.form.map k)) := by
  cases voiced with
  | @row _ m row own =>
    refine .row (m := k m) ?_ ?_
    · rw [rows_map code]
      exact List.mem_map_of_mem row
    · rwa [Node.comments, Node.trailing, stay m (.inl row)]
  | @branch _ m branch own =>
    refine .branch (m := k m) ?_ ?_
    · rw [branches_map]
      exact List.mem_map_of_mem branch
    · rwa [Node.trailing, stay m (.inr branch)]
  | @within _ m shown inner =>
    refine .within (m := k m) ?_ (each m shown inner)
    rw [shown_map code]
    exact List.mem_map_of_mem shown

theorem shown_unmarked {i : Info} {f : StmtForm Node} :
    Node.shown ⟨i, .stmt f.unmarked⟩ = Node.shown ⟨i, .stmt f⟩ := by
  have children := children_of_slots (i := i) (j := i) f.slots_unmarked
  cases f <;> first | rfl | exact children

theorem voiced_unmarked {i : Info} {f : StmtForm Node} (voiced : Voiced c ⟨i, .stmt f⟩) :
    Voiced c ⟨i, .stmt f.unmarked⟩ := by
  have rows : Node.rows ⟨i, .stmt f.unmarked⟩ = Node.rows ⟨i, .stmt f⟩ := by cases f <;> rfl
  have branches : Node.branches ⟨i, .stmt f.unmarked⟩ = Node.branches ⟨i, .stmt f⟩ := by
    cases f <;> rfl
  cases voiced with
  | row row own => exact .row (rows ▸ row) own
  | branch branch own => exact .branch (branches ▸ branch) own
  | within inside inner => exact .within (shown_unmarked.symm ▸ inside) inner

end Layers

/-! ## Whole trees -/

section Trees

variable {n : Node}

theorem voiced_after_holder {r : Role} (plays : n.Plays Parsed r) (holder : r.isHolder)
    (every : ∀ t, t ∈ S) (voiced : Voiced c n) : Voiced c (n.after S) := by
  cases r with
  | tparams => exact voiced_after_tparams plays (every _) voiced
  | targs => exact voiced_after_targs plays (every _) voiced
  | annot => exact voiced_after_annot plays (every _) voiced
  | heritage => exact voiced_after_heritage plays (every _) (every _) voiced
  | _ => cases holder

theorem voiced_after_typecast {i : Info} {e a : Node} (isExpr : e.Plays Parsed .expr)
    (isAnnot : a.Plays Parsed .annot) (settled : .casts ∈ S)
    (inner : Voiced c e → Voiced c (e.after S)) (voiced : Voiced c ⟨i, .flow (.typecast e a)⟩) :
    Voiced c (Node.after S ⟨i, .flow (.typecast e a)⟩) := by
  obtain ⟨u, isType, turns⟩ := turns_typecast isAnnot
  have result := (turns i e isExpr.1).apply_id
  rw [(turns i e isExpr.1).after settled, spent_ts.after, layer_cast, Node.after_of_converted isType.2]
  obtain ⟨m, among, said⟩ := voiced.exists_shown rfl rfl
  have either : m = e ∨ m = a := by simpa [FlowForm.slots] using (shown_flow rfl).mp among
  rcases either with rfl | rfl
  · exact voiced_ts (by simp [TsForm.slots]) (inner said)
  · obtain ⟨j, type, rfl, typePlays⟩ := annot_cases isAnnot
    obtain ⟨v, converted, same⟩ := Outcome.ok_of_map
      (f := fun v => Node.become ⟨i, .flow (.typecast e ⟨j, .flow (.annot type)⟩)⟩ (.ts i.pos (.cast e v)))
      result
    obtain rfl : v = u := by
      rw [Node.ts, become_plain] at same
      cases same
      rfl
    obtain ⟨t, inside, spoken⟩ := said.exists_shown rfl rfl
    obtain rfl : t = type := by simpa [FlowForm.slots] using (shown_flow rfl).mp inside
    exact voiced_ts (by simp [TsForm.slots]) (speaks_of_plays typePlays c v spoken converted)

/-- What takes the place of statements keeps their comments. -/
theorem voiced_replacements {ss : List Node} {i j : Info} {f g : StmtForm Node}
    (before : (f = .program ss ∧ g = .program ((ss.flatMap Node.replaced).map (Node.after S)))
      ∨ (f = .block ss ∧ g = .block ((ss.flatMap Node.replaced).map (Node.after S))))
    (each : ∀ s ∈ ss, ((c ∈ s.comments ∨ c ∈ s.trailing) →
        ∃ w ∈ s.replaced, c ∈ (w.after S).comments ∨ c ∈ (w.after S).trailing)
      ∧ (Voiced c s → ∃ w ∈ s.replaced, Voiced c (w.after S)))
    (voiced : Voiced c ⟨i, .stmt f⟩) : Voiced c ⟨j, .stmt g⟩ := by
  have rows : Node.rows ⟨i, .stmt f⟩ = ss
      ∧ Node.rows ⟨j, .stmt g⟩ = (ss.flatMap Node.replaced).map (Node.after S) := by
    rcases before with ⟨rfl, rfl⟩ | ⟨rfl, rfl⟩ <;> exact ⟨rfl, rfl⟩
  have shown : Node.shown ⟨i, .stmt f⟩ = ss
      ∧ Node.shown ⟨j, .stmt g⟩ = (ss.flatMap Node.replaced).map (Node.after S) := by
    rcases before with ⟨rfl, rfl⟩ | ⟨rfl, rfl⟩
    · exact ⟨children_program, children_program⟩
    · exact ⟨children_block, children_block⟩
  have branches : Node.branches ⟨i, .stmt f⟩ = [] := by
    rcases before with ⟨rfl, rfl⟩ | ⟨rfl, rfl⟩ <;> rfl
  have member {s w : Node} (among : s ∈ ss) (new : w ∈ s.replaced) :
      w.after S ∈ (ss.flatMap Node.replaced).map (Node.after S) :=
    List.mem_map_of_mem (List.mem_flatMap.mpr ⟨s, among, new⟩)
  cases voiced with
  | row row own =>
    rw [rows.1] at row
    obtain ⟨w, new, own⟩ := (each _ row).1 own
    exact .row (rows.2 ▸ member row new) own
  | branch branch => exact absurd branch (by simp [branches])
  | within inside inner =>
    rw [shown.1] at inside
    obtain ⟨w, new, said⟩ := (each _ inside).2 inner
    exact .within (shown.2 ▸ member inside new) said

/-- The comments kept in a tree of the source are kept in the tree after all topics. -/
theorem voiced_after {r : Role} (plays : n.Plays Parsed r) (outside : r.isOuter ∨ r.isHolder)
    (good : n.Good S) (every : ∀ t, t ∈ S) (other : n.form.isDeclare = false)
    (tame : n.allStrays = []) (voiced : Voiced c n) : Voiced c (n.after S) := by
  induction n using Node.childInduction generalizing r with
  | step n ih =>
    rcases outside with outer | holder
    swap
    · exact voiced_after_holder plays holder every voiced
    obtain ⟨role, formed⟩ := plays
    obtain ⟨parsed, sound, slots⟩ := Node.formed_iff.mp formed
    rw [Node.allStrays_eq, List.append_eq_nil_iff, List.flatMap_eq_nil_iff] at tame
    have part {s : Role × Node} (slot : s ∈ n.form.slots)
        (outside : (s.1.isOuter ∧ s.2.form.isDeclare = false) ∨ s.1.isHolder)
        (said : Voiced c s.2) : Voiced c (s.2.after S) := by
      rcases outside with ⟨outer, other⟩ | holder
      · have child := Node.mem_children_of_slot slot
        exact ih s.2 child (slots s slot) (.inl outer) (good.below (Node.child_mem_descendants child))
          other (tame.2 s.2 child) said
      · exact voiced_after_holder (slots s slot) holder every said
    -- A layer of code has all it shows among its parts.
    have among (code : n.form.isCode) {m : Node} (inside : m ∈ n.shown) :
        ∃ s ∈ n.form.slots, s.2 = m := by
      have child := shown_subset code m inside
      rwa [Node.children, Form.children_eq_slots formed.fits.known, List.mem_map] at child
    rcases n with ⟨i, f⟩
    cases f with
    | flow f =>
      cases f with
      | typecast e a =>
        have isExpr : (Role.expr, e) ∈ (FlowForm.typecast e a).slots := List.mem_cons_self
        refine voiced_after_typecast (slots _ isExpr) (slots (.annot, a) (by simp [Form.slots, FlowForm.slots]))
          (every _) (part isExpr (.inl ⟨rfl, ?_⟩)) voiced
        exact isDeclare_of_slot (slots _ isExpr) rfl (by simp)
      | typeAlias => exact voiced_after_typeAlias slots (every _) voiced
      | opaqueType => exact voiced_after_opaqueType slots (every _) voiced
      | interface => exact voiced_after_interface slots (every _) voiced
      | declareVar | declareFunction | declareClass | declareExport => cases other
      | _ =>
        rw [Form.roles] at role
        have inner := List.any_eq_true.mpr ⟨r, role, outer⟩
        cases inner
    | ts f => exact absurd rfl (parsed.1 f)
    | expr f =>
      rw [Node.after_of_topic_none rfl]
      refine voiced_map rfl (fun m _ => info_after S m) (fun m inside said => ?_) voiced
      obtain ⟨s, slot, rfl⟩ := among rfl inside
      refine part slot ((f.slots_outer s slot).imp_left fun outside => ?_) said
      exact ⟨outside.1, isDeclare_of_slot (slots s slot) outside.1 outside.2⟩
    | stmt f =>
      by_cases topic : (Form.stmt f).topic? = some .declarations
      · have fine := good (every _) _ (Node.self_mem_preorder _)
        obtain ⟨ss, form | form⟩ := block_of_topic topic
        all_goals
          cases form
          simp only [Form.slots, StmtForm.slots, Role.forall_mem_forAll] at slots
          have each : ∀ s ∈ ss, _ := fun s among =>
            voiced_replaced (c := c) (slots s among) (List.findSome?_eq_none_iff.mp fine s among) (every _)
              fun kept => part (s := (.stmt, s)) (List.mem_map_of_mem among) (.inl ⟨rfl, kept⟩)
        · have turns := turns_program (i := i) slots fine
          rw [turns.after (every _), turns.spent.after, layer_program]
          exact voiced_replacements (.inl ⟨rfl, rfl⟩) each voiced
        · have turns := turns_block (i := i) slots fine
          rw [turns.after (every _), turns.spent.after, layer_block]
          exact voiced_replacements (.inr ⟨rfl, rfl⟩) each voiced
      · have kept {m : Node} (inside : m ∈ Node.shown ⟨i, .stmt f⟩) (said : Voiced c m) :
            Voiced c (m.after S) := by
          obtain ⟨s, slot, rfl⟩ := among rfl inside
          refine part slot ((f.slots_outer i s slot).imp_left fun outside => ⟨outside.1, ?_⟩) said
          cases declares : s.2.form.isDeclare with
          | false => rfl
          | true =>
            rcases outside.2 (stmt_of_isDeclare declares (slots s slot).1 (.inl outside.1)) with
              ⟨ss, rfl | rfl⟩ | branch
            · exact absurd rfl topic
            · exact absurd rfl topic
            · have stray : s.2 ∈ Node.strays ⟨i, .stmt f⟩ := List.mem_filter.mpr ⟨branch, declares⟩
              rw [tame.1] at stray
              exact absurd stray List.not_mem_nil
        cases found : (Form.stmt f).topic? with
        | none =>
          rw [Node.after_of_topic_none found]
          exact voiced_map rfl (fun m _ => info_after S m) (fun m => kept) voiced
        | some t =>
          have turns := turns_unmarked formed.fits found fun same => topic (same ▸ found)
          rw [turns.after (every t), turns.spent.after]
          exact voiced_map rfl (fun m _ => info_after S m) (fun m inside => kept (shown_unmarked ▸ inside))
            (voiced_unmarked voiced)
    | foreign kind ps => simp [Form.roles] at role

end Trees

end Retype
