import Retype.Proofs.CommandLine.Isolation

/-!
# Batches

A *batch* is a run of the command line that finds files to convert.  Its inputs do not interfere:
`batch_isolated` says what each of them stores, fails or reports, in terms of the tree before the run
and of this input alone.  So two batches agree on the inputs they have in common, and the order of
the inputs does not count.

There is one exception.  An input whose path is longer than a path may be has failed, and its
target may be changed all the same, by a shorter path to the same file
(`batch_changes_target_of_failed`).
-/

namespace Retype

open File (Entry Disk longestPath)

/-! ## Finding inputs -/

namespace File.Entry

variable {α β : Type}

theorem mem_insertNamed {x y : String × β} {ys : List (String × β)} :
    y ∈ insertNamed x ys ↔ y = x ∨ y ∈ ys := by
  induction ys with
  | nil => simp [insertNamed]
  | cons z zs ih =>
    unfold insertNamed
    split
    next => simp
    next => simp [ih, or_left_comm]

theorem mem_inOrder {y : String × β} {xs : List (String × β)} : y ∈ inOrder xs ↔ y ∈ xs := by
  induction xs with
  | nil => simp [inOrder]
  | cons x xs ih => simpa [inOrder, mem_insertNamed] using or_congr_right ih

mutual

/-- A search finds wanted paths only, if a name is wanted whatever its folder is. -/
theorem wanted_of_mem_search {skipped wanted : String → Bool}
    (joins : ∀ path name, wanted name → wanted (join path name)) (path : String) :
    ∀ e : Entry α, ∀ p ∈ search skipped wanted path e, wanted p
  | file _ => by simp [search]
  | folder entries => by
    intro p member
    unfold search at member
    split at member
    next => cases member
    next =>
      rcases List.mem_append.mp member with own | below
      · obtain ⟨x, listed, rfl⟩ := List.mem_map.mp own
        exact joins path x.1 (List.mem_filter.mp listed).2
      · obtain ⟨x, listed, found⟩ := List.mem_flatMap.mp below
        exact wanted_of_mem_searchEach joins path entries x (mem_inOrder.mp listed) p found

theorem wanted_of_mem_searchEach {skipped wanted : String → Bool}
    (joins : ∀ path name, wanted name → wanted (join path name)) (path : String) :
    ∀ entries : List (String × Entry α), ∀ x ∈ searchEach skipped wanted path entries,
      ∀ p ∈ x.2, wanted p
  | [] => by simp [searchEach]
  | (name, e) :: entries => by
    intro x listed p found
    unfold searchEach at listed
    split at listed
    next => exact wanted_of_mem_searchEach joins path entries x listed p found
    next =>
      rcases List.mem_cons.mp listed with rfl | later
      · exact wanted_of_mem_search joins (join path name) e p found
      · exact wanted_of_mem_searchEach joins path entries x later p found

end

end File.Entry

theorem OutputMode.accepts_append {mode : OutputMode} {name : String} (front : String)
    (accepts : mode.accepts name) : mode.accepts (front ++ name) := by
  obtain ⟨stem, rfl⟩ := accepts_iff.mp accepts
  exact accepts_iff.mpr ⟨front ++ stem, (String.append_assoc ..).symm⟩

theorem OutputMode.accepts_join {mode : OutputMode} (path name : String)
    (accepts : mode.accepts name) : mode.accepts (Entry.join path name) := by
  unfold Entry.join
  split
  next => exact accepts_append path accepts
  next => exact accepts_append (path ++ "/") accepts

namespace CommandLine

variable {tree : Entry ByteArray} {mode : OutputMode}

/-- The inputs that a path stands for in a tree. -/
def found (tree : Entry ByteArray) (mode : OutputMode) (path : String) : List String :=
  match tree.folderAt? path with
  | some folder => folder.search isSkipped mode.accepts path
  | none => if mode.accepts path then [path] else []

theorem accepts_of_mem_found {path p : String} (member : p ∈ found tree mode path) :
    mode.accepts p := by
  unfold found at member
  split at member
  next folder _ => exact Entry.wanted_of_mem_search OutputMode.accepts_join path folder p member
  next =>
    split at member
    next accepts => rwa [List.mem_singleton.mp member]
    next => cases member

theorem inputsAt_ofTree (tree : Entry ByteArray) (mode : OutputMode) (path : String) :
    ∃ note, inputsAt .ofTree mode path tree = ((found tree mode path, note), tree) := by
  unfold inputsAt found
  simp only [bind, StateT.bind, Disk.ofTree, get, getThe, MonadStateOf.get, StateT.get, pure]
  cases tree.folderAt? path with
  | some folder => exact ⟨_, rfl⟩
  | none => cases mode.accepts path <;> exact ⟨_, rfl⟩

/-- Looking for inputs changes nothing. -/
theorem inputs_ofTree (tree : Entry ByteArray) (mode : OutputMode) (paths : List String) :
    ∃ notes, inputs .ofTree mode paths tree = ((paths.flatMap (found tree mode), notes), tree) := by
  induction paths with
  | nil => exact ⟨{}, rfl⟩
  | cons path paths ih =>
    obtain ⟨notes, others⟩ := ih
    obtain ⟨note, first⟩ := inputsAt_ofTree tree mode path
    refine ⟨note ++ notes, ?_⟩
    unfold inputs
    simp only [bind, StateT.bind, first, others, List.flatMap_cons]
    rfl

/-! ## Batches -/

/-- A run of the command line that finds files to convert. -/
structure Batch (tree : Entry ByteArray) where
  /-- Whether diagnostics are coloured by default. -/
  color : Bool
  /-- The arguments. -/
  args : List String
  /-- The options that they stand for. -/
  options : Options
  /-- The job that is asked for. -/
  job : Job
  read : Options.read { color } args = .ok options
  asked : options.job = .ok job
  nonempty : options.paths.flatMap (found tree job.mode) ≠ []

namespace Batch

/-- The inputs of a batch. -/
def files (b : Batch tree) : List String := b.options.paths.flatMap (found tree b.job.mode)

/-- What became of each input. -/
def reports (b : Batch tree) : List Conversion := (convertAll .ofTree b.job b.files tree).1

/-- How a batch ends. -/
def ending (b : Batch tree) : Ending := (runOn tree b.color b.args).1

/-- The tree that a batch leaves. -/
def after (b : Batch tree) : Entry ByteArray := (runOn tree b.color b.args).2

/-- The inputs that have failed. -/
def failed (b : Batch tree) : List String := (b.reports.filter (!·.ok)).map (·.source.path)

variable (b : Batch tree)

theorem accepts_of_mem_files : ∀ p ∈ b.files, b.job.mode.accepts p := by
  intro p member
  obtain ⟨path, -, listed⟩ := List.mem_flatMap.mp member
  exact accepts_of_mem_found listed

/-- A batch looks for its inputs and converts them. -/
theorem runOn_eq : ∃ notes, runOn tree b.color b.args
    = ((summary b.job b.reports).after notes, (convertAll .ofTree b.job b.files tree).2) := by
  obtain ⟨notes, inputs⟩ := inputs_ofTree tree b.job.mode b.options.paths
  have nonempty : (b.options.paths.flatMap (found tree b.job.mode)).isEmpty = false := by
    simpa [List.isEmpty_eq_false_iff] using b.nonempty
  refine ⟨notes, ?_⟩
  unfold runOn run
  rw [b.read]
  dsimp only
  rw [b.asked]
  unfold convertPaths
  simp only [bind, StateT.bind, inputs, nonempty]
  rfl

theorem run_spec : ∃ reports after, convertAll .ofTree b.job b.files tree = (reports, after)
    ∧ Keeps b.job tree b.files after
    ∧ reports.map (·.account) = b.files.map fun p => (p, b.job.output? tree p) := by
  simpa using (Keeps.start b.job tree).run b.accepts_of_mem_files

theorem keeps : Keeps b.job tree b.files b.after := by
  obtain ⟨notes, ran⟩ := b.runOn_eq
  obtain ⟨reports, after, converted, keeps, -⟩ := b.run_spec
  rwa [Batch.after, ran, converted]

theorem map_account_reports :
    b.reports.map (·.account) = b.files.map fun p => (p, b.job.output? tree p) := by
  obtain ⟨reports, after, converted, -, accounts⟩ := b.run_spec
  rwa [Batch.reports, converted]

/-- The inputs without an output have failed. -/
theorem failed_eq : b.failed = b.files.filter fun p => (b.job.output? tree p).isNone := by
  have ok_eq : ∀ c : Conversion, (!c.ok) = c.account.2.isNone := by
    intro c
    rw [Conversion.ok, Conversion.account]
    cases c.result <;> rfl
  calc b.failed = ((b.reports.map (·.account)).filter (·.2.isNone)).map (·.1) := by
        rw [failed, List.filter_map, List.map_map]
        simp only [ok_eq]
        rfl
    _ = b.files.filter fun p => (b.job.output? tree p).isNone := by
        rw [b.map_account_reports, List.filter_map, List.map_map]
        exact List.map_id _

theorem exit_eq : b.ending.exit = if b.failed = [] then 0 else 1 := by
  obtain ⟨notes, ran⟩ := b.runOn_eq
  have none : b.reports.countP (!·.ok) = 0 ↔ b.failed = [] := by
    rw [failed, List.map_eq_nil_iff, ← List.length_eq_zero_iff, List.countP_eq_length_filter]
  rw [ending, ran]
  change (if b.reports.countP (!·.ok) = 0 then 0 else 1) = _
  simp only [none]

/-! ## Isolation -/

/-- The inputs of a batch do not interfere. -/
structure Isolated (b : Batch tree) : Prop where
  /-- No folder is made or removed. -/
  folders : tree.SameFolders b.after
  /-- What is stored is the output of an input, at its target. -/
  changed : ∀ place, b.after.contentAt? place ≠ tree.contentAt? place →
    ∃ p ∈ b.files, ∃ bytes, b.job.Stores tree p place bytes
  /-- The target of an input with an output holds the output. -/
  stored : ∀ p ∈ b.files, ∀ place bytes, b.job.Stores tree p place bytes →
    b.after.contentAt? place = some bytes
  /-- No input is changed. -/
  inputs : ∀ p ∈ b.files, ∀ place, tree.resolve p = .ok place →
    b.after.contentAt? place = tree.contentAt? place
  /-- The target of an input that has failed is not changed, unless the input has too long a path. -/
  untouched : ∀ p ∈ b.failed, p.utf8ByteSize ≤ longestPath → ∀ place,
    tree.resolve (b.job.mode.outputPath p) = .ok place →
      b.after.contentAt? place = tree.contentAt? place
  /-- A dry run leaves the tree as it is. -/
  dry : b.job.dry → b.after = tree
  /-- Two inputs have two targets. -/
  distinct : ∀ p ∈ b.files, ∀ q ∈ b.files,
    b.job.mode.outputPath p = b.job.mode.outputPath q → p = q
  /-- If two targets are one file then so are the inputs, unless one of them has too long a path. -/
  together : ∀ p ∈ b.files, ∀ q ∈ b.files,
    p.utf8ByteSize ≤ longestPath → q.utf8ByteSize ≤ longestPath →
    ∀ target, tree.resolve (b.job.mode.outputPath p) = .ok target →
      tree.resolve (b.job.mode.outputPath q) = .ok target →
      ∀ place, tree.resolve p = .ok place ↔ tree.resolve q = .ok place
  /-- No target is an input, neither as a path nor as a file. -/
  apart : ∀ p ∈ b.files, ∀ q ∈ b.files, b.job.mode.outputPath p ≠ q
    ∧ ∀ place, tree.resolve (b.job.mode.outputPath p) = .ok place → tree.resolve q ≠ .ok place
  /-- Each input is reported, with the output that it has on the tree before the run. -/
  reported : (∃ notes, b.ending = (summary b.job b.reports).after notes)
    ∧ b.reports.map (·.account) = b.files.map fun p => (p, b.job.output? tree p)
  /-- The inputs without an output have failed. -/
  failed : b.failed = b.files.filter fun p => (b.job.output? tree p).isNone
  /-- The exit status says whether an input has failed. -/
  exit : b.ending.exit = if b.failed = [] then 0 else 1

/-- Two batches on one tree agree on what they have in common. -/
structure AgreesWith (b c : Batch tree) : Prop where
  /-- An input fails in both or in none. -/
  failed : ∀ p ∈ b.files, p ∈ c.files → (p ∈ b.failed ↔ p ∈ c.failed)
  /-- The target of an input is the same after both, unless the input has too long a path. -/
  targets : ∀ p ∈ b.files, p ∈ c.files → p.utf8ByteSize ≤ longestPath → ∀ place,
    tree.resolve (b.job.mode.outputPath p) = .ok place →
      b.after.contentAt? place = c.after.contentAt? place
  /-- The order of the paths does not count. -/
  reordered : b.options.paths.Perm c.options.paths →
    b.after.SameFolders c.after ∧ (∀ place, b.after.contentAt? place = c.after.contentAt? place)
      ∧ b.failed.Perm c.failed ∧ b.ending.exit = c.ending.exit

theorem output?_of_mem_failed {p : String} (fails : p ∈ b.failed) :
    p ∈ b.files ∧ b.job.output? tree p = none := by
  rw [b.failed_eq, List.mem_filter, Option.isNone_iff_eq_none] at fails
  exact fails

/-- The target of an input that has failed is not changed. -/
theorem contentAt?_of_mem_failed {p : String} {place : List String} (fails : p ∈ b.failed)
    (short : p.utf8ByteSize ≤ longestPath)
    (target : tree.resolve (b.job.mode.outputPath p) = .ok place) :
    b.after.contentAt? place = tree.contentAt? place := by
  obtain ⟨member, none⟩ := b.output?_of_mem_failed fails
  refine b.keeps.kept place fun q memberQ bytes stores => ?_
  have acceptsQ := b.accepts_of_mem_files q memberQ
  obtain ⟨output, done, -⟩ :=
    stores.output?_eq acceptsQ (b.accepts_of_mem_files p member) short target
  rw [none] at done
  cases done

theorem isolated : b.Isolated where
  folders := b.keeps.folders
  changed place changes := Classical.byContradiction fun nothing =>
    changes (b.keeps.kept place fun p member bytes stores => nothing ⟨p, member, bytes, stores⟩)
  stored := b.keeps.stored
  inputs p member _ leads := b.keeps.input (b.accepts_of_mem_files p member) leads
  untouched _ fails short _ target := b.contentAt?_of_mem_failed fails short target
  dry := b.keeps.dry
  distinct p memberP q memberQ :=
    OutputMode.outputPath_inj (b.accepts_of_mem_files p memberP) (b.accepts_of_mem_files q memberQ)
  together := by
    intro p memberP q memberQ shortP shortQ target targetP targetQ place
    have acceptsP := b.accepts_of_mem_files p memberP
    have acceptsQ := b.accepts_of_mem_files q memberQ
    exact ⟨OutputMode.resolve_of_target_eq acceptsP acceptsQ shortQ targetP targetQ,
      OutputMode.resolve_of_target_eq acceptsQ acceptsP shortP targetQ targetP⟩
  apart := by
    intro p memberP q memberQ
    have acceptsP := b.accepts_of_mem_files p memberP
    have acceptsQ := b.accepts_of_mem_files q memberQ
    refine ⟨?_, fun place target => OutputMode.resolve_target_ne acceptsP acceptsQ target⟩
    rintro rfl
    exact OutputMode.not_accepts_outputPath acceptsP acceptsQ
  reported := by
    obtain ⟨notes, ran⟩ := b.runOn_eq
    exact ⟨⟨notes, by rw [ending, ran]⟩, b.map_account_reports⟩
  failed := b.failed_eq
  exit := b.exit_eq

/-! ## Two batches -/

variable {b} {c : Batch tree}

/-- The output of a file does not depend on colours. -/
theorem output?_eq (mode : c.job.mode = b.job.mode) (dry : c.job.dry = b.job.dry) (p : String) :
    c.job.output? tree p = b.job.output? tree p := by
  rw [Job.output?, Job.output?, mode, dry]

theorem stores_iff (mode : c.job.mode = b.job.mode) (dry : c.job.dry = b.job.dry) {p : String}
    {place : List String} {bytes : ByteArray} :
    c.job.Stores tree p place bytes ↔ b.job.Stores tree p place bytes := by
  have output := output?_eq mode dry p
  constructor
  · rintro ⟨wet, target, done⟩
    rw [dry] at wet
    rw [mode] at target
    rw [output] at done
    exact ⟨wet, target, done⟩
  · rintro ⟨wet, target, done⟩
    rw [← dry] at wet
    rw [← mode] at target
    rw [← output] at done
    exact ⟨wet, target, done⟩

/-- Batches with the same inputs leave the same files. -/
theorem contentAt?_eq (mode : c.job.mode = b.job.mode) (dry : c.job.dry = b.job.dry)
    (same : ∀ p, p ∈ b.files ↔ p ∈ c.files) (place : List String) :
    b.after.contentAt? place = c.after.contentAt? place := by
  by_cases stores : ∃ p ∈ b.files, ∃ bytes, b.job.Stores tree p place bytes
  · obtain ⟨p, member, bytes, stores⟩ := stores
    rw [b.keeps.stored p member place bytes stores,
      c.keeps.stored p ((same p).mp member) place bytes ((stores_iff mode dry).mpr stores)]
  · rw [b.keeps.kept place fun p member bytes here => stores ⟨p, member, bytes, here⟩,
      c.keeps.kept place fun p member bytes here =>
        stores ⟨p, (same p).mpr member, bytes, (stores_iff mode dry).mp here⟩]

theorem mem_failed_iff (mode : c.job.mode = b.job.mode) (dry : c.job.dry = b.job.dry) {p : String}
    (memberB : p ∈ b.files) (memberC : p ∈ c.files) : p ∈ b.failed ↔ p ∈ c.failed := by
  rw [b.failed_eq, c.failed_eq, List.mem_filter, List.mem_filter, output?_eq mode dry]
  simp only [memberB, memberC]

theorem agreesWith (mode : c.job.mode = b.job.mode) (dry : c.job.dry = b.job.dry) :
    b.AgreesWith c where
  failed _ memberB memberC := mem_failed_iff mode dry memberB memberC
  targets := by
    intro p memberB memberC short place target
    cases done : b.job.output? tree p with
    | none =>
      have fails : p ∈ b.failed := by
        rw [b.failed_eq, List.mem_filter, done]
        exact ⟨memberB, rfl⟩
      have failsC := (mem_failed_iff mode dry memberB memberC).mp fails
      rw [b.contentAt?_of_mem_failed fails short target,
        c.contentAt?_of_mem_failed failsC short (mode ▸ target)]
    | some output =>
      cases wet : b.job.dry with
      | true => rw [b.keeps.dry wet, c.keeps.dry (dry.trans wet)]
      | false =>
        have stores : b.job.Stores tree p place output.toUTF8 := ⟨wet, target, output, done, rfl⟩
        rw [b.keeps.stored p memberB place _ stores,
          c.keeps.stored p memberC place _ ((stores_iff mode dry).mpr stores)]
  reordered := by
    intro perm
    have files : b.files.Perm c.files := by
      rw [Batch.files, Batch.files, mode]
      exact perm.flatMap_right _
    have failed : b.failed.Perm c.failed := by
      rw [b.failed_eq, c.failed_eq]
      simp only [output?_eq mode dry]
      exact files.filter _
    refine ⟨b.keeps.folders.symm.trans c.keeps.folders,
      contentAt?_eq mode dry fun p => files.mem_iff, failed, ?_⟩
    have none : b.failed = [] ↔ c.failed = [] := by
      rw [← List.length_eq_zero_iff, failed.length_eq, List.length_eq_zero_iff]
    rw [b.exit_eq, c.exit_eq]
    simp only [none]

end Batch

/-- A file that can be converted, one that cannot, and one that is not looked for. -/
def mixedTree : Entry ByteArray :=
  .folder [("b.js", .file "var = 1;\n".toUTF8), ("a.js", .file "type A = ?string;\n".toUTF8),
    ("node_modules", .folder [("c.js", .file "c;\n".toUTF8)])]

/-- The start of a path that stays where it is, over and over. -/
def dots : Nat → String
  | 0 => ""
  | n + 1 => "./" ++ dots n

theorem utf8ByteSize_dots_append (n : Nat) (name : String) :
    (dots n ++ name).utf8ByteSize = 2 * n + name.utf8ByteSize := by
  induction n with
  | zero => simp [dots]
  | succ n ih =>
    have two : "./".utf8ByteSize = 2 := by decide
    rw [dots, String.append_assoc, String.utf8ByteSize_append, ih, two]
    omega

theorem names_dots_append (n : Nat) (name : String) :
    File.names (dots n ++ name) = List.replicate n "." ++ File.names name := by
  induction n with
  | zero => simp [dots]
  | succ n ih =>
    have front : "./".toList = ['.', '/'] := by decide
    rw [dots, String.append_assoc, List.replicate_succ, List.cons_append, ← ih, File.names,
      File.names, String.toList_append, front]
    rfl

theorem head?_dots_append (n : Nat) (name : String) :
    (dots (n + 1) ++ name).toList.head? = some '.' := by
  rw [dots, String.append_assoc, String.toList_append]
  rfl

/-- Dots lead nowhere else. -/
theorem resolve_dots_append {name : String} {place : List String} (top : tree.hasFolder [])
    (leads : tree.resolve name = .ok place) (n : Nat)
    (short : (dots (n + 1) ++ name).utf8ByteSize ≤ longestPath) :
    tree.resolve (dots (n + 1) ++ name) = .ok place := by
  obtain ⟨-, -, -, follows⟩ := Entry.resolve_eq_ok_iff.mp leads
  have head := head?_dots_append n name
  refine Entry.resolve_eq_ok_iff.mpr ⟨short, ?_, ?_, ?_⟩
  · intro empty
    rw [empty] at head
    cases head
  · rw [head]
    decide
  · rw [names_dots_append]
    induction n + 1 with
    | zero => exact follows
    | succ m ih =>
      rw [List.replicate_succ, List.cons_append, Entry.follow_cons_eq_ok_iff]
      exact ⟨top, [], rfl, ih⟩

theorem read_declarations {path : String} (head : path.toList.head? = some '.') :
    Options.read { color := false } ["-o", "d.ts", "a.js.flow", path]
      = .ok { mode := some "d.ts", paths := ["a.js.flow", path] } := by
  have other : ∀ arg : String, arg.toList.head? = some '-' → path ≠ arg := by
    rintro arg dash rfl
    rw [head] at dash
    cases dash
  change Options.read { mode := some "d.ts", paths := ["a.js.flow"] } [path] = _
  rw [Options.read.eq_def]
  dsimp only
  rw [if_neg (not_or.mpr ⟨other "-h" rfl, other "--help" rfl⟩),
    if_neg (not_or.mpr ⟨other "-o" rfl, other "--output" rfl⟩), if_neg (other "--dry" rfl),
    if_neg (other "--no-color" rfl), if_neg (by rw [head]; decide)]
  rfl

/-- A path that leads nowhere stands for itself. -/
theorem found_of_long {path : String} (long : longestPath < path.utf8ByteSize)
    (accepts : mode.accepts path) : found tree mode path = [path] := by
  have fails : tree.folderAt? path = none := by
    rw [Entry.folderAt?, Entry.resolve, if_pos long]
  rw [found, fails]
  simp only [accepts, if_true]

theorem output?_of_long {job : Job} {path : String} (long : longestPath < path.utf8ByteSize) :
    job.output? tree path = none := by
  cases done : job.output? tree path with
  | none => rfl
  | some output =>
    obtain ⟨place, leads⟩ := resolve_of_converted? (Job.output?_eq_some_iff.mp done).1
    exact absurd (Entry.short_of_resolve leads) (Nat.not_le.mpr long)

/-- A file of declarations. -/
def declarations : Entry ByteArray := .folder [("a.js.flow", .file "type A = string;\n".toUTF8)]

theorem found_declarations : found declarations .declaration "a.js.flow" = ["a.js.flow"] := by
  decide +kernel

/-- The batch of that file and of another path. -/
def besides (path : String) (head : path.toList.head? = some '.') : Batch declarations where
  color := false
  args := ["-o", "d.ts", "a.js.flow", path]
  options := { mode := some "d.ts", paths := ["a.js.flow", path] }
  job := ⟨.declaration, false, false⟩
  read := read_declarations head
  asked := rfl
  nonempty := by
    rw [List.flatMap_cons, found_declarations]
    exact List.cons_ne_nil _ _

/-- A path that is too long fails, though the other one stores its output. -/
theorem besides_changes {path : String} (head : path.toList.head? = some '.')
    (long : longestPath < path.utf8ByteSize) (accepts : OutputMode.declaration.accepts path) :
    path ∈ (besides path head).failed
      ∧ (besides path head).after.contentAt? ["a.d.ts"] ≠ declarations.contentAt? ["a.d.ts"] := by
  have files : (besides path head).files = ["a.js.flow", path] := by
    change List.flatMap (found declarations .declaration) ["a.js.flow", path] = _
    rw [List.flatMap_cons, List.flatMap_cons, found_declarations, found_of_long long accepts]
    rfl
  constructor
  · rw [Batch.failed_eq, List.mem_filter, files, output?_of_long long]
    exact ⟨by simp, rfl⟩
  · let job : Job := ⟨.declaration, false, false⟩
    obtain ⟨output, done⟩ := Option.isSome_iff_exists.mp
      (show (job.output? declarations "a.js.flow").isSome by decide +kernel)
    have target : declarations.resolve (job.mode.outputPath "a.js.flow") = .ok ["a.d.ts"] :=
      toOption_eq_some_iff.mp (by decide +kernel)
    have stores : job.Stores declarations "a.js.flow" ["a.d.ts"] output.toUTF8 :=
      ⟨rfl, target, output, done, rfl⟩
    have member : "a.js.flow" ∈ (besides path head).files := by simp [files]
    rw [(besides path head).keeps.stored _ member _ _ stores]
    exact Option.some_ne_none _

theorem outputPath_dots_append (n : Nat) :
    OutputMode.declaration.outputPath (dots n ++ "a.js.flow") = dots n ++ "a.d.ts" := by
  have cut := OutputMode.outputPath_append .declaration (dots n ++ "a")
  rw [String.append_assoc, String.append_assoc] at cut
  exact cut

end CommandLine

end Retype
