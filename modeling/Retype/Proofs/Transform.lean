import Retype.Transform
import Retype.Proofs.Parse.Reading
import Retype.Proofs.Pass.Settled
import Retype.Proofs.Pass.Stray
import Retype.Proofs.Printer.Statement

/-!
# When a file is converted

A text that can be read is converted, with two exceptions.  A declared export in a program or block
may export a type, and a branch or body may be a declaration.  Nothing else can fail, neither in a
pass nor in the printer.
-/

namespace Retype

open Node (Converted Parsed)
open Passes (isDeclaration isVariable)

/-- The text of a tree after all passes. -/
def Node.convert (tree : Node) : Outcome String := do
  let tree ← Pass.runAll tree
  Outcome.ofExcept (Printer.program tree)

theorem Source.transform_of_error {src : Source} {e : Failure} (fails : src.parse = .error e) :
    src.transform.result = .error e := by
  rw [transform, fails]
  rfl

theorem Source.transform_of_ok {src : Source} {tree : Node} (parsed : src.parse = .ok tree) :
    src.transform.result = tree.convert.result.map finish := by
  rw [transform, parsed, Node.convert]
  change (Pass.runAll tree >>= fun t => Outcome.ofExcept (Printer.program t) >>= fun text =>
    pure (finish text)).result = _
  cases runs : (Pass.runAll tree).result with
  | error e =>
    rw [Outcome.bind_of_error runs, Outcome.bind_of_error runs]
    rfl
  | ok t =>
    rw [Outcome.bind_of_ok runs, Outcome.bind_of_ok runs]
    cases printed : Printer.program t <;> rfl

/-! ## Exported types -/

/-- A declared export of something other than a variable, a function or a class. -/
def Node.exportsType (s : Node) : Bool :=
  match s.form with
  | .flow (.declareExport decl _) => !isDeclaration decl
  | _ => false

section Exports

variable {s d : Node}

/-- No variable is declared as the default, so only exported types are refused. -/
theorem badExport?_eq_none_iff (formed : s.Formed Parsed) :
    s.badExport? = none ↔ s.exportsType = false := by
  obtain ⟨-, -, slots⟩ := Node.formed_iff.mp formed
  rcases s with ⟨i, f⟩
  cases f with
  | flow f =>
    cases f with
    | declareExport decl isDefault =>
      simp only [Form.slots, FlowForm.slots, List.forall_mem_singleton] at slots
      have noVariable : (isDefault && isVariable decl) = false := by
        rcases decl with ⟨j, g⟩
        cases isDefault with
        | false => rfl
        | true =>
          cases g with
          | flow g =>
            cases g with
            | declareVar => exact absurd slots.1 (by simp [Form.roles, FlowForm.roles])
            | _ => rfl
          | _ => rfl
      rw [Node.badExport?, Node.exportsType]
      dsimp only
      rw [noVariable, Bool.or_false]
      split
      next refused => simp [refused]
      next fine => simpa using fine
    | _ => exact iff_of_true rfl rfl
  | _ => exact iff_of_true rfl rfl

theorem mem_children_of_statement {n : Node} (member : s ∈ n.statements) : s ∈ n.children := by
  rcases n with ⟨i, f⟩
  cases f with
  | stmt f =>
    cases f with
    | program ss => rwa [children_program]
    | block ss => rwa [children_block]
    | _ => exact absurd member List.not_mem_nil
  | _ => exact absurd member List.not_mem_nil

/-- The pass about declarations fails if and only if a type is exported. -/
theorem failure?_eq_none_iff (formed : d.Formed Parsed) : d.failure? .declarations = none
    ↔ ¬∃ m ∈ d.preorder, ∃ s ∈ m.statements, s.exportsType := by
  have each : d.failure? .declarations = none
      ↔ ∀ m ∈ d.preorder, ∀ s ∈ m.statements, s.exportsType = false := by
    rw [Node.failure?, if_pos rfl, List.head?_eq_none_iff, Node.badStatements,
      List.filterMap_eq_nil_iff]
    refine forall₂_congr fun m member => ?_
    rw [badStatement?_eq, List.findSome?_eq_none_iff]
    refine forall₂_congr fun s among => badExport?_eq_none_iff ?_
    exact (formed.of_mem member).of_child (mem_children_of_statement among)
  simpa using each

/-- The failure names what is exported. -/
theorem failure?_exportsType {e : Failure} (formed : d.Formed Parsed)
    (fails : d.failure? .declarations = some e) :
    ∃ decl, isDeclaration decl = false ∧ e = .unsupportedExport decl.kind decl.pos := by
  obtain ⟨m, member, s, among, bad⟩ := failure?_cases fails
  obtain ⟨decl, isDefault, form, -, same⟩ := badExport?_cases bad
  refine ⟨decl, ?_, same⟩
  have inner := (formed.of_mem member).of_child (mem_children_of_statement among)
  cases declares : isDeclaration decl with
  | false => rfl
  | true =>
    have fine : s.exportsType = false := by simp [Node.exportsType, form, declares]
    rw [(badExport?_eq_none_iff inner).mpr fine] at bad
    cases bad

end Exports

/-! ## The last stage -/

namespace Stage

variable {d : Node} {S : List Topic}

/-- The last stage can be printed, up to strays. -/
theorem ready (stage : Stage d S) (every : ∀ t, t ∈ S) : (d.after S).Ready := by
  obtain ⟨ss, form⟩ := Stage.program_form stage.program
  have other : d.form.isDeclare = false := by rw [form]; rfl
  intro m exposed
  have notFlow := not_flow_of_exposed stage.program.2 stage.good every stage.program.1 rfl other m
    exposed
  exact ⟨fits_after stage.program.2 stage.good m exposed.mem_preorder notFlow, notFlow⟩

/-- Printing the last stage meets its strays. -/
theorem prints (stage : Stage d S) (every : ∀ t, t ∈ S) :
    Prints (d.after S).allStrays (Printer.program (d.after S)) :=
  strayRow_singleton (d.after S) ▸ ((stage.ready every).writesAs (c := "") (r := .program)
    (roles_after stage.program.2 stage.good _ stage.program.1)).prints

theorem allStrays_rewrite (p : Pass) : (p.rewrite d).allStrays = [] ↔ d.allStrays = [] := by
  cases p with
  | nullishCoalescing => exact coalesced_rewriting.allStrays_value
  | optionalChaining => exact unchained_rewriting.allStrays_value
  | _ => exact Iff.rfl

theorem allStrays_rewriteAll (ps : List Pass) (d : Node) :
    (Pass.rewriteAll ps d).allStrays = [] ↔ d.allStrays = [] := by
  induction ps generalizing d with
  | nil => exact Iff.rfl
  | cons p ps ih => exact (ih _).trans (allStrays_rewrite p)

end Stage

/-! ## Conversion -/

section Conversion

variable {tree : Node}

theorem allStrays_ne_nil_iff :
    tree.allStrays ≠ [] ↔ ∃ m ∈ tree.preorder, ∃ s ∈ m.branches, s.form.isDeclare := by
  rw [Node.allStrays, Ne, List.flatMap_eq_nil_iff]
  simp only [Node.strays, List.filter_eq_nil_iff, not_forall, Classical.not_not, exists_prop]

theorem isDeclare_of_mem_allStrays {s : Node} (stray : s ∈ tree.allStrays) : s.form.isDeclare := by
  obtain ⟨m, -, among⟩ := List.mem_flatMap.mp stray
  exact isDeclare_of_stray among

/-- A tree is not converted if it exports a type. -/
theorem convert_of_failure {e : Failure} (stage : Stage tree [])
    (fails : tree.failure? .declarations = some e) : tree.convert.result = .error e := by
  have runs := stage.runList_of_failure Pass.all fails (by decide)
  rw [Node.after_nil] at runs
  rw [Node.convert, Pass.runAll, Outcome.bind_of_error runs]

/-- Any other tree is printed, up to strays. -/
theorem prints_convert (stage : Stage tree []) (fine : tree.failure? .declarations = none) :
    ∃ t : Node, Prints t.allStrays tree.convert.result ∧ (t.allStrays = [] ↔ tree.allStrays = []) := by
  obtain ⟨last, runs⟩ := stage.runList Pass.all fun _ => fine
  rw [Node.after_nil] at runs
  refine ⟨(Pass.rewriteAll Pass.all tree).after (Pass.settleAll Pass.all []), ?_, ?_⟩
  · rw [Node.convert, Pass.runAll, Outcome.bind_of_ok runs]
    exact last.prints Stage.mem_settleAll
  · exact (allStrays_after last.program.2 last.good).trans (Stage.allStrays_rewriteAll Pass.all tree)

/-- A tree is not converted if and only if it exports a type or has a stray. -/
theorem convert_fails_iff (stage : Stage tree []) : (∃ e, tree.convert.result = .error e)
    ↔ (∃ m ∈ tree.preorder, ∃ s ∈ m.statements, s.exportsType) ∨ tree.allStrays ≠ [] := by
  have exports := failure?_eq_none_iff stage.program.2
  cases fails : tree.failure? .declarations with
  | some e =>
    refine iff_of_true ⟨e, convert_of_failure stage fails⟩ (.inl ?_)
    by_contra none
    rw [exports.mpr none] at fails
    cases fails
  | none =>
    obtain ⟨t, prints, same⟩ := prints_convert stage fails
    rw [or_iff_right (exports.mp fails), Ne, ← same]
    generalize tree.convert.result = x at prints
    cases prints with
    | text none a => exact iff_of_false (fun ⟨e, fails⟩ => nomatch fails) (absurd none)
    | stops stray => exact iff_of_true ⟨_, rfl⟩ (List.ne_nil_of_mem stray)

/-- What is not converted is an exported type or a stray. -/
theorem convert_error {e : Failure} (stage : Stage tree []) (fails : tree.convert.result = .error e) :
    (∃ decl, isDeclaration decl = false ∧ e = .unsupportedExport decl.kind decl.pos)
      ∨ ∃ s : Node, s.form.isDeclare ∧ e = .unprintable s.kind s.pos := by
  cases pass : tree.failure? .declarations with
  | some e' =>
    rw [convert_of_failure stage pass] at fails
    cases fails
    exact .inl (failure?_exportsType stage.program.2 pass)
  | none =>
    obtain ⟨t, prints, -⟩ := prints_convert stage pass
    rw [fails] at prints
    cases prints with
    | stops stray => exact .inr ⟨_, isDeclare_of_mem_allStrays stray, rfl⟩

end Conversion

/-- Reading a text fails with a failure of reading.  If it does not, the text is converted unless a
declared export in a program or block exports a type, or a branch or body is a declaration.  The
conversion fails then, at such an export or at such a declaration, and in no other way. -/
theorem transform_cases (src : Source) :
    (∃ e, src.parse = .error e ∧ e.isReading ∧ src.transform.result = .error e)
      ∨ ∃ tree, src.parse = .ok tree ∧ src.transform.result = tree.convert.result.map finish
        ∧ ((∃ e, tree.convert.result = .error e) ↔
          (∃ m ∈ tree.preorder, ∃ s ∈ m.statements, s.exportsType)
            ∨ ∃ m ∈ tree.preorder, ∃ s ∈ m.branches, s.form.isDeclare)
        ∧ ∀ e, tree.convert.result = .error e →
          (∃ decl, isDeclaration decl = false ∧ e = .unsupportedExport decl.kind decl.pos)
            ∨ ∃ s : Node, s.form.isDeclare ∧ e = .unprintable s.kind s.pos := by
  cases parsed : src.parse with
  | error e => exact .inl ⟨e, rfl, src.reads_parse e parsed, src.transform_of_error parsed⟩
  | ok tree =>
    have stage := src.parse_stage parsed
    exact .inr ⟨tree, rfl, src.transform_of_ok parsed,
      (convert_fails_iff stage).trans (or_congr_right allStrays_ne_nil_iff),
      fun e => convert_error stage⟩

end Retype
