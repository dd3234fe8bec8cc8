import Retype.Proofs.Parse.Comments
import Retype.Proofs.Parse.Grid
import Retype.Proofs.Pass.Desugar

/-!
# The order of passes

A pass settles topics, or it rewrites the source.  So the tree that some passes lead to is known
from the source and from the topics that are settled: it is a *stage* of a rewritten source.
Rewriting does not change which statements cannot be converted, and these alone let a pass fail.

The order of passes that settle topics does not matter, and neither does the place of a pass that
rewrites the source.  Only the order of the two passes that rewrite the source counts.
-/

namespace Retype

open Node (Converted Parsed)

namespace Pass

/-- The topics that a pass settles. -/
def topics : Pass → List Topic
  | .imports => [.imports]
  | .exports => [.exports]
  | .declarations => [.declarations]
  | .interfaces => [.interfaces]
  | .typeAliases => [.aliases]
  | .typeCasts => [.casts]
  | .annotations => [.annotations]
  | .typeParameters => [.parameters]
  | .typeArguments => [.arguments, .heritage]
  | .nullishCoalescing | .optionalChaining => []

/-- What a pass makes of the source. -/
def rewrite : Pass → Node → Node
  | .nullishCoalescing => Node.coalesced false
  | .optionalChaining => Node.unchained false
  | _ => id

/-- The passes that rewrite the source. -/
def rewrites : Pass → Bool
  | .nullishCoalescing | .optionalChaining => true
  | _ => false

end Pass

/-- A source that is in no settled topic's way. -/
structure Stage (d : Node) (S : List Topic) : Prop where
  program : d.Plays Parsed .program
  good : d.Good S

namespace Stage

variable {d : Node} {S : List Topic}

theorem program_form (plays : d.Plays Parsed .program) : ∃ ss, d.form = .stmt (.program ss) := by
  obtain ⟨role, formed⟩ := plays
  rcases d with ⟨i, f⟩
  cases f with
  | flow f => cases f <;> simp [Form.roles, FlowForm.roles, Role.ofExpr] at role
  | ts f => exact absurd rfl (formed.extra.1 f)
  | expr f => cases f <;> simp [Form.roles, ExprForm.roles, Role.ofExpr] at role
  | stmt f =>
    cases f with
    | program ss => exact ⟨ss, rfl⟩
    | _ => simp [Form.roles, StmtForm.roles] at role
  | foreign kind ps => simp [Form.roles] at role

/-- A program stays a program. -/
theorem form_after (stage : Stage d S) : ∃ ss, (d.after S).form = .stmt (.program ss) := by
  have fine := stage.good
  obtain ⟨ss, form⟩ := program_form stage.program
  obtain ⟨-, -, slots⟩ := Node.formed_iff.mp stage.program.2
  rcases d with ⟨i, f⟩
  cases form
  simp only [Form.slots, StmtForm.slots, Role.forall_mem_forAll] at slots
  by_cases settled : .declarations ∈ S
  · have turns := turns_program (i := i) slots (fine settled _ (Node.self_mem_preorder _))
    rw [turns.after settled, turns.spent.after, layer_program]
    exact ⟨_, rfl⟩
  · rw [after_of_unsettled rfl settled, layer_program]
    exact ⟨_, rfl⟩

theorem nullishCoalescing (stage : Stage d S) :
    Passes.nullishCoalescing (d.after S) = (d.coalesced false).after S := by
  obtain ⟨ss, form⟩ := stage.form_after
  rw [← coalesced_rewriting.value_after stage.program.2 stage.good, Passes.nullishCoalescing,
    Node.coalesced, Node.fold_eq, withoutNullish_of_other (by rw [form]; rfl)]
  rfl

theorem optionalChaining (stage : Stage d S) :
    Passes.optionalChaining (d.after S) = (d.unchained false).after S := by
  obtain ⟨ss, form⟩ := stage.form_after
  rw [← unchained_rewriting.value_after stage.program.2 stage.good, Passes.optionalChaining,
    Node.unchained, Node.fold_eq, form]
  rfl

/-- Rewriting leads from stage to stage. -/
theorem rewrite (stage : Stage d S) (p : Pass) : Stage (p.rewrite d) S := by
  cases p with
  | nullishCoalescing =>
    exact ⟨coalesced_rewriting.plays_value stage.program,
      coalesced_rewriting.good_value stage.program.2 stage.good⟩
  | optionalChaining =>
    exact ⟨unchained_rewriting.plays_value stage.program,
      unchained_rewriting.good_value stage.program.2 stage.good⟩
  | _ => exact stage

theorem failure?_rewrite (stage : Stage d S) (p : Pass) (q : Topic) :
    (p.rewrite d).failure? q = d.failure? q := by
  cases p with
  | nullishCoalescing => exact coalesced_rewriting.failure?_value q stage.program.2
  | optionalChaining => exact unchained_rewriting.failure?_value q stage.program.2
  | _ => rfl

/-- Only declarations let a rule fail. -/
theorem failure?_of_other {q : Topic} (other : q ≠ .declarations) : d.failure? q = none :=
  if_neg other

theorem settle {q : Topic} (stage : Stage d S) (fine : d.failure? q = none) : Stage d (q :: S) :=
  ⟨stage.program, stage.good.cons fine⟩

/-- A pass leads from stage to stage. -/
theorem run (stage : Stage d S) {p : Pass} (fine : p = .declarations → d.failure? .declarations = none) :
    Stage (p.rewrite d) (p.topics ++ S)
      ∧ (p.run (d.after S)).result = .ok ((p.rewrite d).after (p.topics ++ S)) := by
  have rule {q : Topic} (fine : d.failure? q = none) : Stage d (q :: S)
      ∧ (q.rule.run (d.after S)).result = .ok (d.after (q :: S)) :=
    ⟨stage.settle fine, run_after stage.program.2 stage.good fine⟩
  cases p with
  | nullishCoalescing =>
    exact ⟨stage.rewrite .nullishCoalescing, congrArg Except.ok stage.nullishCoalescing⟩
  | optionalChaining =>
    exact ⟨stage.rewrite .optionalChaining, congrArg Except.ok stage.optionalChaining⟩
  | declarations => exact rule (fine rfl)
  | typeArguments =>
    obtain ⟨next, first⟩ := rule (q := .heritage) (failure?_of_other (by decide))
    have second := run_after (q := .arguments) next.program.2 next.good (failure?_of_other (by decide))
    refine ⟨next.settle (failure?_of_other (by decide)), ?_⟩
    change (Topic.heritage.rule.run (d.after S) >>= Topic.arguments.rule.run).result = _
    rw [Outcome.bind_of_ok first]
    exact second
  | _ => exact rule (failure?_of_other (by decide))

/-- The pass about declarations fails at every stage in the same way. -/
theorem run_of_failure {e : Failure} (stage : Stage d S) (fails : d.failure? .declarations = some e) :
    (Pass.declarations.run (d.after S)).result = .error e :=
  run_after_of_failure stage.program.2 stage.good fails

end Stage

/-! ## Several passes -/

namespace Pass

/-- What passes make of the source, one after the other. -/
def rewriteAll : List Pass → Node → Node
  | [], d => d
  | p :: ps, d => rewriteAll ps (p.rewrite d)

/-- The topics that passes settle, on top of some. -/
def settleAll : List Pass → List Topic → List Topic
  | [], S => S
  | p :: ps, S => settleAll ps (p.topics ++ S)

theorem mem_settleAll {ps : List Pass} {S : List Topic} {t : Topic} :
    t ∈ settleAll ps S ↔ t ∈ S ∨ ∃ p ∈ ps, t ∈ p.topics := by
  induction ps generalizing S with
  | nil => simp [settleAll]
  | cons p ps ih =>
    rw [settleAll, ih, List.mem_append, List.exists_mem_cons_iff]
    tauto

/-- Only two passes rewrite the source. -/
theorem rewriteAll_filter (ps : List Pass) (d : Node) :
    rewriteAll (ps.filter rewrites) d = rewriteAll ps d := by
  induction ps generalizing d with
  | nil => rfl
  | cons p ps ih => cases p <;> exact ih _

end Pass

namespace Stage

variable {d : Node} {S : List Topic}

/-- Passes lead from stage to stage. -/
theorem runList (ps : List Pass) (stage : Stage d S)
    (fine : .declarations ∈ ps → d.failure? .declarations = none) :
    Stage (Pass.rewriteAll ps d) (Pass.settleAll ps S) ∧ (Pass.runList ps (d.after S)).result
      = .ok ((Pass.rewriteAll ps d).after (Pass.settleAll ps S)) := by
  induction ps generalizing d S with
  | nil => exact ⟨stage, rfl⟩
  | cons p ps ih =>
    obtain ⟨next, first⟩ := stage.run fun same => fine (same ▸ List.mem_cons_self)
    rw [Pass.runList, Outcome.bind_of_ok first]
    refine ih next fun member => ?_
    rw [stage.failure?_rewrite]
    exact fine (List.mem_cons_of_mem p member)

/-- Passes fail if they hold the pass about declarations, and that pass fails. -/
theorem runList_of_failure (ps : List Pass) {e : Failure} (stage : Stage d S)
    (fails : d.failure? .declarations = some e) (member : .declarations ∈ ps) :
    (Pass.runList ps (d.after S)).result = .error e := by
  induction ps generalizing d S with
  | nil => exact absurd member List.not_mem_nil
  | cons p ps ih =>
    by_cases same : p = .declarations
    · subst same
      rw [Pass.runList, Outcome.bind_of_error (stage.run_of_failure fails)]
    · obtain ⟨next, first⟩ := stage.run fun declares => absurd declares same
      rw [Pass.runList, Outcome.bind_of_ok first]
      refine ih next ((stage.failure?_rewrite p .declarations).trans fails) ?_
      rcases List.mem_cons.mp member with rfl | later
      · exact absurd rfl same
      · exact later

end Stage

/-- A parsed tree is a stage. -/
theorem Source.parse_stage {src : Source} {tree : Node} (parsed : src.parse = .ok tree) :
    Stage tree [] :=
  ⟨src.parse_plays parsed, fun settled => absurd settled List.not_mem_nil⟩

/-- The two passes that rewrite the source come in their usual order. -/
theorem filter_rewrites {order : List Pass} (perm : order.Perm Pass.all)
    (ordered : [.nullishCoalescing, .optionalChaining].Sublist order) :
    order.filter Pass.rewrites = Pass.all.filter Pass.rewrites := by
  have same := ordered.filter Pass.rewrites
  exact (same.eq_of_length (perm.filter Pass.rewrites).length_eq.symm).symm

theorem badExport?_cases {s : Node} {e : Failure} (bad : s.badExport? = some e) :
    ∃ decl isDefault, s.form = .flow (.declareExport decl isDefault)
      ∧ (!Passes.isDeclaration decl || (isDefault && Passes.isVariable decl)) = true
      ∧ e = .unsupportedExport decl.kind decl.pos := by
  rw [Node.badExport?] at bad
  split at bad
  next decl isDefault form =>
    split at bad
    next refused => exact ⟨decl, isDefault, form, refused, (Option.some.inj bad).symm⟩
    next => cases bad
  next => cases bad

/-- The statements that stand directly in a node. -/
def Node.statements (n : Node) : List Node :=
  match n.form with
  | .stmt (.program ss) | .stmt (.block ss) => ss
  | _ => []

theorem badStatement?_eq (n : Node) : n.badStatement? = n.statements.findSome? Node.badExport? := by
  rcases n with ⟨i, f⟩
  cases f with
  | stmt f => cases f <;> rfl
  | _ => rfl

/-- A pass fails at an export that stands directly in a program or a block. -/
theorem failure?_cases {d : Node} {e : Failure} (fails : d.failure? .declarations = some e) :
    ∃ m ∈ d.preorder, ∃ s ∈ m.statements, s.badExport? = some e := by
  rw [Node.failure?, if_pos rfl] at fails
  obtain ⟨m, member, bad⟩ := List.mem_filterMap.mp (List.mem_of_head? fails)
  rw [badStatement?_eq] at bad
  obtain ⟨s, among, bad⟩ := List.exists_of_findSome?_eq_some bad
  exact ⟨m, member, s, among, bad⟩

/-- The order of the passes does not matter, as long as `??` is removed before `?.`.  Whatever the
order, the passes lead to the same tree, or they fail at the same export. -/
theorem runList_of_perm {src : Source} {tree : Node} {order : List Pass}
    (parsed : src.parse = .ok tree) (perm : order.Perm Pass.all)
    (ordered : [.nullishCoalescing, .optionalChaining].Sublist order) :
    (Pass.runList order tree).result = (Pass.runAll tree).result
      ∧ ∀ e, (Pass.runAll tree).result = .error e → ∃ kind pos, e = .unsupportedExport kind pos := by
  have stage := src.parse_stage parsed
  cases fails : tree.failure? .declarations with
  | some e =>
    have order_fails := stage.runList_of_failure order fails (perm.mem_iff.mpr (by decide))
    have all_fails := stage.runList_of_failure Pass.all fails (by decide)
    rw [Node.after_nil] at order_fails all_fails
    refine ⟨order_fails.trans all_fails.symm, fun e' fails' => ?_⟩
    obtain ⟨m, -, s, -, bad⟩ := failure?_cases fails
    obtain ⟨decl, isDefault, -, -, same⟩ := badExport?_cases bad
    rw [Pass.runAll, all_fails] at fails'
    exact ⟨decl.kind, decl.pos, (Except.error.inj fails').symm.trans same⟩
  | none =>
    have order_runs := (stage.runList order fun _ => fails).2
    have all_runs := (stage.runList Pass.all fun _ => fails).2
    have source : Pass.rewriteAll order tree = Pass.rewriteAll Pass.all tree := by
      rw [← Pass.rewriteAll_filter order, filter_rewrites perm ordered, Pass.rewriteAll_filter]
    have topics : Node.after (Pass.settleAll order []) = Node.after (Pass.settleAll Pass.all []) :=
      Node.after_congr fun t => by simp [Pass.mem_settleAll, perm.mem_iff]
    rw [Node.after_nil] at order_runs all_runs
    rw [Pass.runAll, order_runs, all_runs, source, topics]
    exact ⟨rfl, fun e fails' => nomatch fails'⟩

theorem ok_of_toOption {α ε : Type} {x : Except ε α} {a : α} (found : x.toOption = some a) :
    x = .ok a := by
  cases x with
  | error e => cases found
  | ok b => exact congrArg _ (Option.some.inj found)

theorem Source.exists_tree (src : Source) (reads : src.parse.toOption.isSome) :
    ∃ tree, src.parse = .ok tree := by
  cases parsed : src.parse with
  | ok tree => exact ⟨tree, rfl⟩
  | error e =>
    rw [parsed] at reads
    cases reads

/-- The rules in the opposite order, and behind the other passes. -/
theorem runList_backwards : ∃ tree,
    Source.parse { text := "declare export default class A {}\nx = (a?.b: number) ?? c;" } = .ok tree
      ∧ (Pass.runList [.nullishCoalescing, .optionalChaining, .typeArguments, .typeParameters,
        .annotations, .typeCasts, .typeAliases, .interfaces, .declarations, .exports, .imports]
        tree).result = (Pass.runAll tree).result := by
  obtain ⟨tree, parsed⟩ := Source.exists_tree { text :=
    "declare export default class A {}\nx = (a?.b: number) ?? c;" }
    (by rw [Source.parse_eq_parseByGrids]; decide +kernel)
  exact ⟨tree, parsed, (runList_of_perm parsed (by decide) (by decide)).1⟩

end Retype
