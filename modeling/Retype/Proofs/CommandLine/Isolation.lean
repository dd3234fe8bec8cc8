import Retype.CommandLine.Run
import Retype.Proofs.File.Extension

/-!
# Converting files one after the other

A file is converted on the tree that the files before it have left.  The output of a file is
nevertheless its output on the first tree, which is `Job.output?`.  For the files before it have
stored their outputs and nothing else, and no target is an input.

`Keeps` says how the tree after some files differs from the first one.  It is kept by each file
(`Keeps.step`), and so by a run (`Keeps.run`).
-/

namespace Retype

open File (Entry Disk longestPath)

variable {job : Job} {tree now after : Entry ByteArray} {p q path output : String}
  {place : List String}

/-! ## The output of a file -/

/-- The text of a file after the conversion, if it can be read and converted. -/
def converted? (tree : Entry ByteArray) (path : String) : Option String := do
  let bytes ← (tree.read path).toOption
  let src ← (Source.ofBytes path bytes).toOption
  src.transform.result.toOption

/-- The output of a file, if it can be read, converted and stored. -/
def Job.output? (job : Job) (tree : Entry ByteArray) (path : String) : Option String :=
  (converted? tree path).filter fun output =>
    job.dry || (tree.write (job.mode.outputPath path) output.toUTF8).isOk

/-- What is said about a file: its path, and its output if there is one. -/
def Conversion.account (c : Conversion) : String × Option String :=
  (c.source.path, c.result.toOption)

theorem toOption_eq_some_iff {α ε : Type} {x : Except ε α} {a : α} :
    x.toOption = some a ↔ x = .ok a := by
  cases x <;> simp [Except.toOption]

theorem isOk_iff {α ε : Type} {x : Except ε α} : x.isOk ↔ ∃ a, x = .ok a := by
  cases x <;> simp [Except.isOk, Except.toBool]

/-- What bytes are converted into does not depend on their path. -/
theorem Source.ofBytes_eq_ok {bytes : ByteArray} {src : Source}
    (decoded : Source.ofBytes p bytes = .ok src) :
    src.path = p ∧ ∃ other, Source.ofBytes q bytes = .ok other ∧ other.transform = src.transform := by
  unfold Source.ofBytes at decoded ⊢
  cases text? : Text.Utf8.decode bytes with
  | error fault =>
    rw [text?] at decoded
    cases decoded
  | ok text =>
    rw [text?] at decoded
    obtain rfl := Except.ok.inj decoded
    exact ⟨rfl, ⟨q, String.ofList (unifyLineEnds text.toList)⟩, rfl, rfl⟩

theorem converted?_eq_some_iff : converted? tree path = some output
    ↔ ∃ bytes src, tree.read path = .ok bytes ∧ Source.ofBytes path bytes = .ok src
      ∧ src.transform.result = .ok output := by
  simp only [converted?, bind, Option.bind_eq_some_iff, toOption_eq_some_iff]
  constructor
  · rintro ⟨bytes, read, src, decoded, result⟩
    exact ⟨bytes, src, read, decoded, result⟩
  · rintro ⟨bytes, src, read, decoded, result⟩
    exact ⟨bytes, read, src, decoded, result⟩

/-- Only the bytes at the place of a path count. -/
theorem converted?_of_place (leadsP : tree.resolve p = .ok place)
    (leadsQ : now.resolve q = .ok place) (same : now.contentAt? place = tree.contentAt? place)
    (done : converted? tree p = some output) : converted? now q = some output := by
  obtain ⟨bytes, src, read, decoded, result⟩ := converted?_eq_some_iff.mp done
  obtain ⟨there, leads, found⟩ := Entry.read_eq_ok_iff.mp read
  obtain rfl : place = there := Except.ok.inj (leadsP.symm.trans leads)
  obtain ⟨-, other, decoded', transform⟩ := Source.ofBytes_eq_ok (q := q) decoded
  refine converted?_eq_some_iff.mpr ⟨bytes, other, ?_, decoded', ?_⟩
  · exact Entry.read_eq_ok_iff.mpr ⟨place, leadsQ, same.trans found⟩
  · rw [transform, result]

/-- A file with an output can be found. -/
theorem resolve_of_converted? (done : converted? tree path = some output) :
    ∃ place, tree.resolve path = .ok place := by
  obtain ⟨bytes, src, read, -, -⟩ := converted?_eq_some_iff.mp done
  obtain ⟨place, leads, -⟩ := Entry.read_eq_ok_iff.mp read
  exact ⟨place, leads⟩

/-- Outputs can be stored at a place, whatever they are, unless it is a folder. -/
theorem isOk_write_iff {bytes : ByteArray} : (tree.write path bytes).isOk
    ↔ ∃ place, tree.resolve path = .ok place ∧ tree.hasFolder place = false := by
  simp only [isOk_iff, Entry.write_eq_ok_iff]
  constructor
  · rintro ⟨after, place, leads, free, -⟩
    exact ⟨place, leads, free⟩
  · rintro ⟨place, leads, free⟩
    exact ⟨_, place, leads, free, rfl⟩

theorem Job.output?_eq_some_iff : job.output? tree path = some output
    ↔ converted? tree path = some output ∧ (job.dry = false → ∃ place,
      tree.resolve (job.mode.outputPath path) = .ok place ∧ tree.hasFolder place = false) := by
  rw [output?, Option.filter_eq_some_iff, Bool.or_eq_true, isOk_write_iff]
  refine and_congr_right fun _ => ?_
  cases job.dry <;> simp

/-! ## One step -/

theorem Conversion.account_ofRead (tree : Entry ByteArray) (path : String) :
    (ofRead path (tree.read path)).account = (path, converted? tree path) := by
  unfold converted? ofRead
  cases tree.read path with
  | error cause => rfl
  | ok bytes =>
    cases decoded : Source.ofBytes path bytes with
    | error fault => simp [account, decoded, Except.toOption]
    | ok src =>
      have kept := (Source.ofBytes_eq_ok (q := path) decoded).1
      simp only [account, decoded, kept, Except.toOption, bind, Option.bind]
      cases src.transform.result <;> rfl

/-- The tree that a file leaves: the old one, or one with its output stored. -/
inductive Job.Leaves (job : Job) (tree : Entry ByteArray) (path : String) : Entry ByteArray → Prop
  | same (kept : job.dry ∨ job.output? tree path = none) : Leaves job tree path tree
  | stored {output : String} {after : Entry ByteArray} (wet : job.dry = false)
      (done : job.output? tree path = some output)
      (write : tree.write (job.mode.outputPath path) output.toUTF8 = .ok after) :
      Leaves job tree path after

theorem File.Disk.ofTree_read (tree : Entry ByteArray) (path : String) :
    Disk.ofTree.read path tree = (tree.read path, tree) := rfl

theorem File.Disk.ofTree_write_of_error {bytes : ByteArray} {cause : File.Failure}
    (fails : tree.write path bytes = .error cause) :
    Disk.ofTree.write path bytes tree = (.error cause, tree) := by
  unfold Disk.ofTree
  simp only [bind, StateT.bind, get, getThe, MonadStateOf.get, StateT.get, pure]
  rw [fails]
  rfl

theorem File.Disk.ofTree_write_of_ok {bytes : ByteArray}
    (done : tree.write path bytes = .ok after) :
    Disk.ofTree.write path bytes tree = (.ok (), after) := by
  unfold Disk.ofTree
  simp only [bind, StateT.bind, get, getThe, MonadStateOf.get, StateT.get, pure]
  rw [done]
  rfl

/-- The conversion of a file on a tree. -/
theorem Job.convert_ofTree (job : Job) (tree : Entry ByteArray) (path : String) :
    job.convert .ofTree path tree =
      let c := Conversion.ofRead path (tree.read path)
      match c.result with
      | .error _ => (c, tree)
      | .ok output =>
        if job.dry then (c, tree)
        else
          let (written, after) := Disk.ofTree.write (job.mode.outputPath path) output.toUTF8 tree
          (c.stored (job.mode.outputPath path) written, after) := by
  unfold convert
  simp only [bind, StateT.bind, File.Disk.ofTree_read, pure]
  generalize Conversion.ofRead path (tree.read path) = c
  cases c.result with
  | error trouble => rfl
  | ok output => cases job.dry <;> rfl

/-- All that the conversion of a file does. -/
theorem Job.convert_spec (job : Job) (tree : Entry ByteArray) (path : String) :
    ∃ c after, job.convert .ofTree path tree = (c, after)
      ∧ c.account = (path, job.output? tree path) ∧ job.Leaves tree path after := by
  have account := Conversion.account_ofRead tree path
  have source := congrArg Prod.fst account
  have result := congrArg Prod.snd account
  dsimp only [Conversion.account] at source result
  rw [convert_ofTree]
  dsimp only
  generalize Conversion.ofRead path (tree.read path) = c at *
  cases read : c.result with
  | error trouble =>
    have fails : converted? tree path = none := by rw [← result, read]; rfl
    have none : job.output? tree path = none := by rw [output?, fails, Option.filter_none]
    exact ⟨c, tree, rfl, by rw [Conversion.account, source, read, none]; rfl, .same (.inr none)⟩
  | ok output =>
    dsimp only
    have converted : converted? tree path = some output := by rw [← result, read]; rfl
    have said : c.account = (path, some output) := by rw [Conversion.account, source, read]; rfl
    cases dry : job.dry with
    | true =>
      have done : job.output? tree path = some output := by
        rw [output?, converted, Option.filter_some_pos (by simp [dry])]
      exact ⟨c, tree, rfl, by rw [said, done], .same (.inl dry)⟩
    | false =>
      cases write : tree.write (job.mode.outputPath path) output.toUTF8 with
      | error cause =>
        have none : job.output? tree path = none := by
          rw [output?, converted, Option.filter_some_neg (by rw [dry, write]; rfl)]
        rw [File.Disk.ofTree_write_of_error write, if_neg Bool.false_ne_true]
        refine ⟨c.stored _ (.error cause), tree, rfl, ?_, .same (.inr none)⟩
        rw [none, ← source]
        rfl
      | ok after =>
        have done : job.output? tree path = some output := by
          rw [output?, converted, Option.filter_some_pos (by rw [dry, write]; rfl)]
        rw [File.Disk.ofTree_write_of_ok write, if_neg Bool.false_ne_true]
        exact ⟨c, after, rfl, by rw [said, done], .stored dry done write⟩

/-! ## What a run keeps -/

/-- A file has an output, and its target is at a place. -/
structure Job.Stores (job : Job) (tree : Entry ByteArray) (path : String) (place : List String)
    (bytes : ByteArray) : Prop where
  /-- Outputs are stored. -/
  wet : job.dry = false
  target : tree.resolve (job.mode.outputPath path) = .ok place
  output : ∃ output, job.output? tree path = some output ∧ bytes = output.toUTF8

/-- A file has the output that another file stores at its target. -/
theorem Job.Stores.output?_eq {bytes : ByteArray} (stores : job.Stores tree p place bytes)
    (acceptsP : job.mode.accepts p) (acceptsQ : job.mode.accepts q)
    (short : q.utf8ByteSize ≤ longestPath)
    (target : tree.resolve (job.mode.outputPath q) = .ok place) :
    ∃ output, job.output? tree q = some output ∧ bytes = output.toUTF8 := by
  obtain ⟨wet, targetP, output, done, rfl⟩ := stores
  obtain ⟨converted, room⟩ := Job.output?_eq_some_iff.mp done
  obtain ⟨input, leads⟩ := resolve_of_converted? converted
  have leadsQ := OutputMode.resolve_of_target_eq acceptsP acceptsQ short targetP target leads
  obtain ⟨there, target', free⟩ := room wet
  obtain rfl : place = there := Except.ok.inj (targetP.symm.trans target')
  have convertedQ := converted?_of_place leads leadsQ rfl converted
  exact ⟨output, Job.output?_eq_some_iff.mpr ⟨convertedQ, fun _ => ⟨place, target, free⟩⟩, rfl⟩

/-- Two files store the same bytes at one place. -/
theorem Job.Stores.unique {bytes bytes' : ByteArray} (storesP : job.Stores tree p place bytes)
    (storesQ : job.Stores tree q place bytes') (acceptsP : job.mode.accepts p)
    (acceptsQ : job.mode.accepts q) : bytes = bytes' := by
  obtain ⟨wet, target, output, done, rfl⟩ := storesQ
  obtain ⟨input, leads⟩ := resolve_of_converted? (Job.output?_eq_some_iff.mp done).1
  obtain ⟨output', done', rfl⟩ :=
    storesP.output?_eq acceptsP acceptsQ (Entry.short_of_resolve leads) target
  rw [Option.some.inj (done'.symm.trans done)]

/-- How the tree after some files differs from the tree before them. -/
structure Keeps (job : Job) (tree : Entry ByteArray) (files : List String)
    (now : Entry ByteArray) : Prop where
  /-- The files are inputs. -/
  accepted : ∀ p ∈ files, job.mode.accepts p
  /-- No folder is made or removed. -/
  folders : tree.SameFolders now
  /-- What has an output is stored. -/
  stored : ∀ p ∈ files, ∀ place bytes, job.Stores tree p place bytes →
    now.contentAt? place = some bytes
  /-- Nothing else is stored. -/
  kept : ∀ place, (∀ p ∈ files, ∀ bytes, ¬job.Stores tree p place bytes) →
    now.contentAt? place = tree.contentAt? place
  /-- A dry run leaves the tree as it is. -/
  dry : job.dry → now = tree

namespace Keeps

theorem start (job : Job) (tree : Entry ByteArray) : Keeps job tree [] tree where
  accepted := by simp
  folders := .refl tree
  stored := by simp
  kept _ _ := rfl
  dry _ := rfl

variable {files : List String}

/-- No input is changed. -/
theorem input (keeps : Keeps job tree files now) (accepts : job.mode.accepts p)
    (leads : tree.resolve p = .ok place) : now.contentAt? place = tree.contentAt? place := by
  refine keeps.kept place fun q member bytes stores => ?_
  exact OutputMode.resolve_target_ne (keeps.accepted q member) accepts stores.target leads

/-- A file has the output that it had at first. -/
theorem output?_eq (keeps : Keeps job tree files now) (accepts : job.mode.accepts p) :
    job.output? now p = job.output? tree p := by
  ext output
  rw [Job.output?_eq_some_iff, Job.output?_eq_some_iff]
  refine and_congr ⟨fun converted => ?_, fun converted => ?_⟩ ?_
  · obtain ⟨place, leads⟩ := resolve_of_converted? converted
    have before := keeps.folders.resolve_iff.mpr leads
    exact converted?_of_place leads before (keeps.input accepts before).symm converted
  · obtain ⟨place, leads⟩ := resolve_of_converted? converted
    have later := keeps.folders.resolve_iff.mp leads
    exact converted?_of_place leads later (keeps.input accepts leads) converted
  · simp only [← keeps.folders.resolve_iff, ← keeps.folders _]

/-- One more file. -/
theorem step (keeps : Keeps job tree files now) (accepts : job.mode.accepts p)
    (leaves : job.Leaves now p after) : Keeps job tree (files ++ [p]) after := by
  have accepted : ∀ q ∈ files ++ [p], job.mode.accepts q := by
    simpa [or_imp, forall_and] using ⟨keeps.accepted, accepts⟩
  cases leaves with
  | same same =>
    have nothing : ∀ place bytes, ¬job.Stores tree p place bytes := by
      rintro place bytes ⟨wet, -, output, done, -⟩
      rw [keeps.output?_eq accepts] at same
      simp [wet, done] at same
    refine ⟨accepted, keeps.folders, fun q member place bytes stores => ?_, fun place none => ?_,
      keeps.dry⟩
    · rcases List.mem_append.mp member with earlier | last
      · exact keeps.stored q earlier place bytes stores
      · exact absurd (List.mem_singleton.mp last ▸ stores) (nothing place bytes)
    · exact keeps.kept place fun q member => none q (List.mem_append_left _ member)
  | @stored output _ wet done write =>
    obtain ⟨target, leads, free, rfl⟩ := Entry.write_eq_ok_iff.mp write
    obtain ⟨dir, name, rfl, fits⟩ := OutputMode.storable_target accepts leads free
    rw [keeps.output?_eq accepts] at done
    have stores : job.Stores tree p (dir ++ [name]) output.toUTF8 :=
      ⟨wet, keeps.folders.resolve_iff.mpr leads, output, done, rfl⟩
    have put := Entry.put_spec fits output.toUTF8
    refine ⟨accepted, fun place => (keeps.folders place).trans (put place).2.symm,
      fun q member place bytes storesQ => ?_, fun place none => ?_, fun dry => ?_⟩
    · rw [(put place).1]
      split
      -- An earlier file may have been the same one under another path.
      next here =>
        rw [here] at storesQ
        rw [stores.unique storesQ accepts (accepted q member)]
      next elsewhere =>
        rcases List.mem_append.mp member with earlier | last
        · exact keeps.stored q earlier place bytes storesQ
        · rw [List.mem_singleton.mp last] at storesQ
          exact absurd (Except.ok.inj (storesQ.target.symm.trans stores.target)) elsewhere
    · rw [(put place).1, if_neg]
      · exact keeps.kept place fun q member => none q (List.mem_append_left _ member)
      · rintro rfl
        exact none p (List.mem_append_right _ (List.mem_singleton_self p)) _ stores
    · simp [wet] at dry

/-- All the files of a run. -/
theorem run (keeps : Keeps job tree files now) {more : List String}
    (accepts : ∀ p ∈ more, job.mode.accepts p) :
    ∃ reports after, CommandLine.convertAll .ofTree job more now = (reports, after)
      ∧ Keeps job tree (files ++ more) after
      ∧ reports.map (·.account) = more.map fun p => (p, job.output? tree p) := by
  induction more generalizing files now with
  | nil => exact ⟨[], now, rfl, by rwa [List.append_nil], rfl⟩
  | cons p more ih =>
    obtain ⟨c, next, convert, account, leaves⟩ := job.convert_spec now p
    have acceptsP := accepts p List.mem_cons_self
    obtain ⟨reports, after, convertAll, keeps', accounts⟩ :=
      ih (keeps.step acceptsP leaves) fun q member => accepts q (List.mem_cons_of_mem p member)
    refine ⟨c :: reports, after, ?_, by simpa using keeps', ?_⟩
    · unfold CommandLine.convertAll
      simp only [bind, StateT.bind, convert, convertAll]
      rfl
    · rw [List.map_cons, List.map_cons, accounts, account, keeps.output?_eq acceptsP]

end Keeps

end Retype
