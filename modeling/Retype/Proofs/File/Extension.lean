import Retype.OutputMode
import Retype.Proofs.File.Place

/-!
# Inputs and their targets in a file tree

The *target* of an input is the path of its output.  Both paths have a stem in common, and each
ends in an extension: a suffix without a slash that is too long to be a name of its own.  So both
lead through the same folders to an entry of the same folder, and its name ends in the extension.

Two facts follow about any two inputs of one output mode.  No target is an input, since no name ends
in both extensions (`resolve_target_ne`).  If two targets are one place then so are their
inputs, unless the path of an input is too long to lead anywhere (`resolve_of_target_eq`).
-/

namespace Retype.File

/-! ## Paths with an extension -/

/-- A suffix that belongs to the last name of a path. -/
structure Extension (ext : String) : Prop where
  flat : '/' ∉ ext.toList
  long : 2 < ext.length

theorem pieces_of_flat {cs : List Char} (flat : '/' ∉ cs) : pieces cs = [cs] := by
  induction cs with
  | nil => rfl
  | cons c cs ih =>
    rw [List.mem_cons, not_or] at flat
    rw [pieces, if_neg (Ne.symm flat.1), ih flat.2]

/-- What stands behind the last slash is a part of the last piece. -/
theorem pieces_append (stem : List Char) :
    ∃ init last, ∀ ext, '/' ∉ ext → pieces (stem ++ ext) = init ++ [last ++ ext] := by
  induction stem with
  | nil => exact ⟨[], [], fun ext flat => pieces_of_flat flat⟩
  | cons c stem ih =>
    obtain ⟨init, last, split⟩ := ih
    by_cases slash : c = '/'
    · refine ⟨[] :: init, last, fun ext flat => ?_⟩
      rw [List.cons_append, pieces, if_pos slash, split ext flat, List.cons_append]
    · cases init with
      | nil =>
        refine ⟨[], c :: last, fun ext flat => ?_⟩
        rw [List.cons_append, pieces, if_neg slash, split ext flat]
        rfl
      | cons piece init =>
        refine ⟨(c :: piece) :: init, last, fun ext flat => ?_⟩
        rw [List.cons_append, pieces, if_neg slash, split ext flat]
        rfl

/-- The names of a path with an extension, of which only the last depends on the extension. -/
theorem names_append (stem : String) :
    ∃ (init : List String) (last : String),
      ∀ ext, Extension ext → names (stem ++ ext) = init ++ [last ++ ext] := by
  obtain ⟨init, last, split⟩ := pieces_append stem.toList
  refine ⟨init.map String.ofList, String.ofList last, fun ext isExt => ?_⟩
  rw [names, String.toList_append, split _ isExt.flat, List.map_append, List.map_singleton,
    String.ofList_append, String.ofList_toList]

theorem Extension.ordinary {ext : String} (isExt : Extension ext) (name : String) :
    Entry.Ordinary (name ++ ext) := by
  have long : 2 < (name ++ ext).length := by
    rw [String.length_append]
    exact Nat.lt_add_left _ isExt.long
  refine ⟨?_, ?_, ?_⟩ <;>
    · intro same
      rw [same] at long
      exact absurd long (by decide)

theorem Extension.ne_empty {ext : String} (isExt : Extension ext) (stem : String) :
    stem ++ ext ≠ "" :=
  (isExt.ordinary stem).1

theorem Extension.head?_append {ext : String} (isExt : Extension ext) (stem : String) :
    (stem ++ ext).toList.head? = some '/' ↔ stem.toList.head? = some '/' := by
  rw [String.toList_append, List.head?_append]
  cases stem.toList with
  | nil => simpa using fun slash => isExt.flat (List.mem_of_head? slash)
  | cons c cs => simp

namespace Entry

variable {α : Type} {tree : Entry α}

/-- A path with an extension leads to an entry of a folder, and only the name of the entry depends
on the extension. -/
theorem resolve_append (tree : Entry α) (stem : String) :
    ∃ (init : List String) (last : String), ∀ {ext : String} {place : List String},
      Extension ext → (tree.resolve (stem ++ ext) = .ok place
        ↔ (stem ++ ext).utf8ByteSize ≤ longestPath ∧ stem.toList.head? ≠ some '/'
          ∧ ∃ dir, tree.follow [] init = .ok dir ∧ tree.hasFolder dir
            ∧ (last ++ ext).utf8ByteSize ≤ longestName ∧ place = dir ++ [last ++ ext]) := by
  obtain ⟨init, last, split⟩ := names_append stem
  refine ⟨init, last, fun {ext place} isExt => ?_⟩
  rw [resolve_eq_ok_iff, split ext isExt, follow_concat_eq_ok_iff (isExt.ordinary last), ne_eq,
    ne_eq, isExt.head?_append]
  simp [isExt.ne_empty]

/-- A path with an extension leads to an entry of a folder whose name has the extension. -/
theorem exists_of_resolve_append {stem ext : String} {place : List String} (isExt : Extension ext)
    (leads : tree.resolve (stem ++ ext) = .ok place) :
    ∃ dir name, tree.hasFolder dir ∧ place = dir ++ [name ++ ext] := by
  obtain ⟨init, last, split⟩ := resolve_append tree stem
  obtain ⟨-, -, dir, -, inside, -, rfl⟩ := (split isExt).mp leads
  exact ⟨dir, last, inside, rfl⟩

end Entry

end Retype.File

/-! ## Inputs and targets -/

namespace Retype.OutputMode

open File (Extension Entry longestPath)

variable {α : Type} {mode : OutputMode} {tree : Entry α} {p q : String} {place : List String}

theorem extension_inputSuffix (mode : OutputMode) : Extension mode.inputSuffix := by
  cases mode <;> exact ⟨by decide, by decide⟩

theorem extension_outputSuffix (mode : OutputMode) : Extension mode.outputSuffix := by
  cases mode <;> exact ⟨by decide, by decide⟩

theorem accepts_iff : mode.accepts p ↔ ∃ stem, p = stem ++ mode.inputSuffix := by
  rw [accepts, List.isSuffixOf_iff_suffix]
  constructor
  · rintro ⟨stem, shape⟩
    refine ⟨String.ofList stem, String.toList_inj.mp ?_⟩
    rw [String.toList_append, String.toList_ofList, shape]
  · rintro ⟨stem, rfl⟩
    exact ⟨stem.toList, (String.toList_append ..).symm⟩

/-- An input and its target have the stem in common. -/
theorem outputPath_append (mode : OutputMode) (stem : String) :
    mode.outputPath (stem ++ mode.inputSuffix) = stem ++ mode.outputSuffix := by
  have cut : (stem ++ mode.inputSuffix).toList.take
      ((stem ++ mode.inputSuffix).length - mode.inputSuffix.length) = stem.toList := by
    rw [String.length_append, Nat.add_sub_cancel, String.toList_append, ← String.length_toList,
      List.take_left]
  rw [outputPath, cut, String.ofList_toList]

/-- No text ends in both suffixes. -/
theorem append_inputSuffix_ne (mode : OutputMode) (a b : String) :
    a ++ mode.inputSuffix ≠ b ++ mode.outputSuffix := by
  intro same
  have lists := congrArg String.toList same
  rw [String.toList_append, String.toList_append] at lists
  have suffix := List.suffix_or_suffix_of_suffix ⟨a.toList, lists⟩ (List.suffix_append b.toList _)
  revert suffix
  cases mode <;> decide

/-- Inputs with one target path are one path. -/
theorem outputPath_inj (acceptsP : mode.accepts p) (acceptsQ : mode.accepts q)
    (same : mode.outputPath p = mode.outputPath q) : p = q := by
  obtain ⟨stem, rfl⟩ := accepts_iff.mp acceptsP
  obtain ⟨other, rfl⟩ := accepts_iff.mp acceptsQ
  rw [outputPath_append, outputPath_append] at same
  rw [(String.append_left_inj _).mp same]

/-- No target path is an input. -/
theorem not_accepts_outputPath (acceptsP : mode.accepts p) : ¬mode.accepts (mode.outputPath p) := by
  obtain ⟨stem, rfl⟩ := accepts_iff.mp acceptsP
  rw [outputPath_append, accepts_iff]
  rintro ⟨other, same⟩
  exact append_inputSuffix_ne mode other stem same.symm

/-- No target is at the place of an input, however the two are written. -/
theorem resolve_target_ne (acceptsP : mode.accepts p) (acceptsQ : mode.accepts q)
    (target : tree.resolve (mode.outputPath p) = .ok place) : tree.resolve q ≠ .ok place := by
  intro input
  obtain ⟨stem, rfl⟩ := accepts_iff.mp acceptsP
  obtain ⟨other, rfl⟩ := accepts_iff.mp acceptsQ
  rw [outputPath_append] at target
  obtain ⟨dir, name, -, rfl⟩ := Entry.exists_of_resolve_append (extension_outputSuffix mode) target
  obtain ⟨dir', name', -, same⟩ := Entry.exists_of_resolve_append (extension_inputSuffix mode) input
  have last := (List.append_inj' same rfl).2
  exact append_inputSuffix_ne mode name' name (List.singleton_inj.mp last).symm

/-- A target that is no folder can be stored. -/
theorem storable_target (acceptsP : mode.accepts p)
    (target : tree.resolve (mode.outputPath p) = .ok place) (free : tree.hasFolder place = false) :
    ∃ dir name, place = dir ++ [name] ∧ tree.Storable dir name := by
  obtain ⟨stem, rfl⟩ := accepts_iff.mp acceptsP
  rw [outputPath_append] at target
  obtain ⟨dir, name, inside, rfl⟩ := Entry.exists_of_resolve_append (extension_outputSuffix mode) target
  exact ⟨dir, name ++ mode.outputSuffix, rfl, inside, free⟩

/-- Inputs whose targets are at one place are at one place, unless a path is too long. -/
theorem resolve_of_target_eq (acceptsP : mode.accepts p) (acceptsQ : mode.accepts q)
    (short : q.utf8ByteSize ≤ longestPath) {target : List String}
    (targetP : tree.resolve (mode.outputPath p) = .ok target)
    (targetQ : tree.resolve (mode.outputPath q) = .ok target)
    (input : tree.resolve p = .ok place) : tree.resolve q = .ok place := by
  obtain ⟨stem, rfl⟩ := accepts_iff.mp acceptsP
  obtain ⟨other, rfl⟩ := accepts_iff.mp acceptsQ
  rw [outputPath_append] at targetP targetQ
  obtain ⟨init, last, splitP⟩ := Entry.resolve_append tree stem
  obtain ⟨init', last', splitQ⟩ := Entry.resolve_append tree other
  have isIn := extension_inputSuffix mode
  have isOut := extension_outputSuffix mode
  obtain ⟨-, -, dir, leads, -, -, rfl⟩ := (splitP isOut).mp targetP
  obtain ⟨-, relative, dir', leads', -, -, same⟩ := (splitQ isOut).mp targetQ
  obtain ⟨-, -, dir'', leads'', inside, fits, rfl⟩ := (splitP isIn).mp input
  obtain rfl : dir'' = dir := Except.ok.inj (leads''.symm.trans leads)
  obtain ⟨rfl, lasts⟩ := List.append_inj' same rfl
  obtain rfl : last = last' := (String.append_left_inj _).mp (List.singleton_inj.mp lasts)
  exact (splitQ isIn).mpr ⟨short, relative, dir'', leads', inside, fits, rfl⟩

end Retype.OutputMode
