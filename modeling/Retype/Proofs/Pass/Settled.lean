import Retype.Proofs.Parse.Grid
import Retype.Proofs.Pass.Exposed

/-!
# What passes leave behind

A pass that is run again changes nothing and reports nothing, at whatever stage.  After all passes
no exposed node is of a kind that only the Flow dialect has, and neither `??` nor `?.` is left.  So a
second run of all passes changes nothing and reports nothing either.
-/

namespace Retype

open Node (Converted Parsed)

variable {α : Type}

/-! ## Rewritten sources -/

section Rewritten

variable {n : Node}

/-- Without `?.` there are no optional chains. -/
theorem chain?_of_plain (plain : ∀ m ∈ n.preorder, m.form.isOptional = false) : n.chain? = none := by
  induction n using Node.childInduction with
  | step n ih =>
    obtain ⟨root, rest⟩ := Node.forall_mem_preorder_iff.mp plain
    cases found : n.chain? with
    | none => rfl
    | some oc =>
      obtain ⟨i, link, object, optional, base, rfl, -, before⟩ := chain_cases found
      rcases before with ⟨rfl, -⟩ | ⟨-, before⟩
      · rw [Link.isOptional_on] at root
        cases root
      · rw [ih object mem_link.1 (rest object mem_link.1)] at before
        cases before

theorem coalesced_of_plain {b : Bool} (plain : ∀ m ∈ n.preorder, m.form.isNullish = false) :
    n.coalesced b = n :=
  coalesced_rewriting.value_fixed fun m member => coalescence?_eq_none_iff.mpr (plain m member)

theorem unchained_of_plain {b : Bool} (plain : ∀ m ∈ n.preorder, m.form.isOptional = false) :
    n.unchained b = n := by
  refine unchained_rewriting.value_fixed fun m member => ?_
  rw [Node.shortCircuit?, chain?_of_plain fun k inner => plain k (Node.preorder_trans inner member)]
  rfl

/-- Rewriting a source again changes nothing. -/
theorem Pass.rewrite_rewrite (p : Pass) (d : Node) : p.rewrite (p.rewrite d) = p.rewrite d := by
  cases p with
  | nullishCoalescing => exact coalesced_of_plain isNullish_coalesced
  | optionalChaining => exact unchained_of_plain isOptional_unchained
  | _ => rfl

/-- All passes together leave neither operator in the source. -/
theorem plain_rewriteAll (d : Node) : ∀ m ∈ (Pass.rewriteAll Pass.all d).preorder,
    m.form.isNullish = false ∧ m.form.isOptional = false :=
  fun m member => ⟨isNullish_unchained isNullish_coalesced m member, isOptional_unchained m member⟩

theorem rewrite_rewriteAll (p : Pass) (d : Node) :
    p.rewrite (Pass.rewriteAll Pass.all d) = Pass.rewriteAll Pass.all d := by
  cases p with
  | nullishCoalescing => exact coalesced_of_plain fun m member => (plain_rewriteAll d m member).1
  | optionalChaining => exact unchained_of_plain fun m member => (plain_rewriteAll d m member).2
  | _ => rfl

end Rewritten

/-! ## Passes that are run again -/

namespace Stage

variable {d : Node} {S : List Topic}

/-- A pass whose topics are settled, and that does not change the source, does nothing. -/
theorem run_of_settled (stage : Stage d S) {p : Pass} (topics : ∀ t ∈ p.topics, t ∈ S)
    (fixed : p.rewrite d = d) : p.run (d.after S) = pure (d.after S) := by
  have rule {q : Topic} (settled : q ∈ S) : q.rule.run (d.after S) = pure (d.after S) :=
    Retype.run_of_settled stage.program.2 stage.good settled
  cases p with
  | nullishCoalescing =>
    refine congrArg pure (stage.nullishCoalescing.trans ?_)
    exact congrArg (Node.after S) fixed
  | optionalChaining =>
    refine congrArg pure (stage.optionalChaining.trans ?_)
    exact congrArg (Node.after S) fixed
  | typeArguments =>
    change Topic.heritage.rule.run (d.after S) >>= Topic.arguments.rule.run = _
    rw [rule (topics _ (by decide)), Outcome.pure_bind, rule (topics _ (by decide))]
  | _ => exact rule (topics _ List.mem_cons_self)

theorem runList_of_settled (stage : Stage d S) {ps : List Pass}
    (topics : ∀ p ∈ ps, ∀ t ∈ p.topics, t ∈ S) (fixed : ∀ p ∈ ps, p.rewrite d = d) :
    Pass.runList ps (d.after S) = pure (d.after S) := by
  induction ps with
  | nil => rfl
  | cons p ps ih =>
    obtain ⟨first, rest⟩ := List.forall_mem_cons.mp topics
    obtain ⟨firstFixed, restFixed⟩ := List.forall_mem_cons.mp fixed
    rw [Pass.runList, stage.run_of_settled first firstFixed, Outcome.pure_bind]
    exact ih rest restFixed

/-- Passes that do not fail lead to a stage. -/
theorem of_runList (stage : Stage d S) (ps : List Pass) {t : Node}
    (runs : (Pass.runList ps (d.after S)).result = .ok t) :
    Stage (Pass.rewriteAll ps d) (Pass.settleAll ps S)
      ∧ t = (Pass.rewriteAll ps d).after (Pass.settleAll ps S) := by
  have fine : .declarations ∈ ps → d.failure? .declarations = none := by
    intro member
    cases fails : d.failure? .declarations with
    | none => rfl
    | some e =>
      rw [stage.runList_of_failure ps fails member] at runs
      cases runs
  obtain ⟨last, result⟩ := stage.runList ps fine
  rw [result] at runs
  exact ⟨last, (Except.ok.inj runs).symm⟩

/-- A pass that is run again does nothing. -/
theorem run_run (stage : Stage d S) {p : Pass} {t : Node} (runs : (p.run (d.after S)).result = .ok t) :
    p.run t = pure t := by
  have once : (Pass.runList [p] (d.after S)).result = .ok t := by
    rw [Pass.runList, Outcome.bind_of_ok runs]
    rfl
  obtain ⟨next, rfl⟩ := stage.of_runList [p] once
  refine next.run_of_settled (fun q topic => ?_) (p.rewrite_rewrite d)
  exact List.mem_append_left S topic

/-- Every topic is settled by some pass. -/
theorem mem_settleAll (t : Topic) : t ∈ Pass.settleAll Pass.all S := by
  refine Pass.mem_settleAll.mpr (.inr ?_)
  cases t <;> decide

end Stage

/-! ## After all passes -/

/-- The kinds that only the Flow dialect has. -/
def flowKinds : List String :=
  ["type_any", "type_exists", "type_mixed", "type_empty", "type_void", "type_null", "type_string",
    "type_number", "type_boolean", "type_bigint", "type_symbol", "type_string_lit",
    "type_number_lit", "type_boolean_lit", "type_nullable", "type_array", "type_tuple",
    "type_union", "type_intersection", "type_object", "type_generic", "type_function",
    "type_typeof", "type_annotation", "obj_prop", "obj_indexer", "obj_spread", "fn_param",
    "tparams", "tparam", "targs", "iface_ext", "qualified", "typecast", "type_alias",
    "opaque_type", "interface", "declare_var", "declare_function", "declare_class",
    "declare_export"]

/-- These are the kinds of the layers of the Flow dialect. -/
theorem kind_mem_flowKinds_iff {f : Form α} (known : ∀ kind ps, f ≠ .foreign kind ps) :
    f.kind ∈ flowKinds ↔ ∃ g, f = .flow g := by
  cases f with
  | flow f =>
    refine iff_of_true ?_ ⟨f, rfl⟩
    cases f with
    | primitive t => cases t <;> simp [Form.kind, FlowForm.kind, FlowPrimitive.text, flowKinds]
    | _ => simp [Form.kind, FlowForm.kind, flowKinds]
  | ts f =>
    refine iff_of_false ?_ (by simp)
    cases f with
    | keyword k => cases k <;> simp [Form.kind, TsForm.kind, TsKeyword.text, flowKinds]
    | _ => simp [Form.kind, TsForm.kind, flowKinds]
  | expr f =>
    refine iff_of_false ?_ (by simp)
    cases f <;> simp [Form.kind, ExprForm.kind, flowKinds]
  | stmt f =>
    refine iff_of_false ?_ (by simp)
    cases f <;> simp [Form.kind, StmtForm.kind, flowKinds]
  | foreign kind ps => exact absurd rfl (known kind ps)

section Last

variable {d : Node} {S : List Topic}

/-- No layer at any stage is foreign. -/
theorem Stage.known (stage : Stage d S) :
    ∀ m ∈ (d.after S).preorder, ∀ kind ps, m.form ≠ .foreign kind ps := by
  refine forall_mem_after stage.program.2 stage.good (fun m fits _ => fits.known)
    (fun m spent fits _ => ?_) fun m member _ => known_layer (stage.program.2 m member).1
  rw [spent.after]
  exact known_layer fits

/-- A source without `??` and `?.` gets neither at any stage. -/
theorem Stage.plain (stage : Stage d S)
    (plain : ∀ m ∈ d.preorder, m.form.isNullish = false ∧ m.form.isOptional = false) :
    ∀ m ∈ (d.after S).preorder, m.form.isNullish = false ∧ m.form.isOptional = false := by
  have nullish : (d.after S).coalesced false = d.after S := by
    rw [coalesced_rewriting.value_after stage.program.2 stage.good,
      coalesced_of_plain fun m member => (plain m member).1]
  have optional : (d.after S).unchained false = d.after S := by
    rw [unchained_rewriting.value_after stage.program.2 stage.good,
      unchained_of_plain fun m member => (plain m member).2]
  intro m member
  exact ⟨isNullish_coalesced m (nullish ▸ member), isOptional_unchained m (optional ▸ member)⟩

/-- No exposed node of the last stage has a kind of the Flow dialect. -/
theorem Stage.kind_not_mem_flowKinds (stage : Stage d S) (every : ∀ t, t ∈ S) {m : Node}
    (exposed : Exposed (d.after S) m) : m.kind ∉ flowKinds := by
  obtain ⟨ss, form⟩ := Stage.program_form stage.program
  have other : d.form.isDeclare = false := by rw [form]; rfl
  have notFlow := not_flow_of_exposed stage.program.2 stage.good every stage.program.1 rfl other m
    exposed
  intro flow
  obtain ⟨g, same⟩ := (kind_mem_flowKinds_iff (stage.known m exposed.mem_preorder)).mp flow
  exact notFlow g same

end Last

theorem Source.exists_runList (src : Source) (ps : List Pass)
    (runs : (src.parse.toOption.bind fun tree => (Pass.runList ps tree).toOption).isSome) :
    ∃ tree, src.parse = .ok tree ∧ ∃ t, (Pass.runList ps tree).result = .ok t := by
  cases parsed : src.parse with
  | error e =>
    rw [parsed] at runs
    cases runs
  | ok tree =>
    refine ⟨tree, rfl, ?_⟩
    rw [parsed] at runs
    obtain ⟨t, same⟩ := Option.isSome_iff_exists.mp runs
    cases result : (Pass.runList ps tree).result with
    | ok t => exact ⟨t, rfl⟩
    | error e =>
      simp [Except.toOption, Outcome.toOption, result] at same

/-- Passes settle a tree.  After all of them no exposed node has a kind of the Flow dialect, and
neither `??` nor `?.` is left, so that a second run neither changes nor reports anything.  At any time
before, a pass that is run twice in a row does nothing the second time. -/
theorem runAll_settles {src : Source} {tree : Node} (parsed : src.parse = .ok tree) :
    (∀ t, (Pass.runAll tree).result = .ok t →
      (∀ m, Exposed t m → m.kind ∉ flowKinds)
        ∧ (∀ m ∈ t.preorder, m.form.isNullish = false ∧ m.form.isOptional = false)
        ∧ Pass.runAll t = pure t)
    ∧ ∀ (ps : List Pass) (p : Pass) (t t' : Node), (Pass.runList ps tree).result = .ok t →
      (p.run t).result = .ok t' → p.run t' = pure t' := by
  have stage := src.parse_stage parsed
  constructor
  · intro t runs
    rw [Pass.runAll] at runs
    rw [← tree.after_nil] at runs
    obtain ⟨last, rfl⟩ := stage.of_runList Pass.all runs
    refine ⟨fun m => last.kind_not_mem_flowKinds Stage.mem_settleAll, last.plain (plain_rewriteAll tree),
      ?_⟩
    exact last.runList_of_settled (fun _ _ t _ => Stage.mem_settleAll t)
      fun p _ => rewrite_rewriteAll p tree
  · intro ps p t t' reached runs
    rw [← tree.after_nil] at reached
    obtain ⟨next, rfl⟩ := stage.of_runList ps reached
    exact next.run_run runs

/-- A source with a declaration for a branch, a cast and both operators. -/
theorem runAll_settles_stray : ∃ tree t : Node,
    Source.parse { text := "if (a) declare var b: T;\n(a?.b: T) ?? c;" } = .ok tree
    ∧ (Pass.runAll tree).result = .ok t ∧ (∀ m, Exposed t m → m.kind ∉ flowKinds)
    ∧ (∀ m ∈ t.preorder, m.form.isNullish = false ∧ m.form.isOptional = false)
    ∧ Pass.runAll t = pure t := by
  obtain ⟨tree, parsed, t, runs⟩ := Source.exists_runList
    { text := "if (a) declare var b: T;\n(a?.b: T) ?? c;" } Pass.all
    (by rw [Source.parse_eq_parseByGrids]; decide +kernel)
  exact ⟨tree, t, parsed, runs, (runAll_settles parsed).1 t runs⟩

end Retype
