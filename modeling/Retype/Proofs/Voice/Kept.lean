import Retype.Proofs.Parse.Grid
import Retype.Proofs.Voice.Lost
import Retype.Proofs.Voice.Read
import Retype.Proofs.Voice.Rewrite

/-!
# Comments of a text

Every comment of a text occurs in the converted text, or it is lost.  Only what a comment starts with
is needed of the comment itself: the end of the printed text that is left out in front, line ends and
a line that marks the file as Flow, does not cut it apart.
-/

namespace Retype

open Lexer (Lexed Lexeme lexemes commentLength)

/-! ## What comments start with -/

namespace Comment

/-- A comment starts with a slash. -/
def Opens (c : Comment) : Prop := ∃ rest, c.text.toList = '/' :: rest

end Comment

section Opening

variable {pos line skip : Nat} {cs : List Char}

theorem commentLength_eq_some {n : Nat} (found : commentLength cs = some n) :
    (∃ rest, cs = '/' :: rest) ∧ 0 < n := by
  unfold commentLength at found
  split at found
  · cases found
    exact ⟨⟨_, rfl⟩, by omega⟩
  · obtain ⟨k, -, rfl⟩ := Option.map_eq_some_iff.mp found
    exact ⟨⟨_, rfl⟩, by omega⟩
  · cases found

theorem measure_comment {c : Char} {n : Nat} (found : Lexer.measure pos c cs = .ok (.comment, n)) :
    commentLength (c :: cs) = some n := by
  unfold Lexer.measure at found
  split at found
  · cases found
  split at found
  · cases found
  split at found
  · cases scanned : Template.scan pos (c :: cs) with
    | error e =>
      rw [scanned] at found
      cases found
    | ok r =>
      rw [scanned] at found
      cases found
  split at found
  next n measured =>
    cases found
    exact measured
  next =>
    repeat' split at found
    all_goals cases found

/-- A lexeme that is a comment starts with a slash. -/
theorem opens_lexemes : ∀ l ∈ (lexemes pos line skip cs).1, ∀ c, l.comment? = some c → c.Opens := by
  fun_induction lexemes pos line skip cs with
  | case1 => simp
  | case2 pos line skip c cs ih => exact ih
  | case3 => simp
  | case4 pos line c cs shape n measured more ih =>
    refine List.forall_mem_cons.mpr ⟨fun d found => ?_, ih⟩
    cases shape with
    | comment =>
      cases found
      obtain ⟨⟨rest, same⟩, positive⟩ := commentLength_eq_some (measure_comment measured)
      obtain ⟨k, rfl⟩ := Nat.exists_eq_succ_of_ne_zero (Nat.ne_of_gt positive)
      cases same
      exact ⟨cs.take k, by simp⟩
    | _ => cases found

/-- Every comment of a text starts with a slash. -/
theorem opens_read (text : List Char) : Ensures (Stream.read text) (Lexed.Tells Comment.Opens) :=
  tells_read fun _ _ => opens_lexemes

end Opening

/-! ## The text of a file -/

section Finish

variable {c : String} {printed : String}

theorem dropWhile_append_of_not {α : Type} {p : α → Bool} {x : α} (stops : p x = false) (as bs : List α) :
    (as ++ x :: bs).dropWhile p = as.dropWhile p ++ x :: bs := by
  induction as with
  | nil => simp [stops]
  | cons a as ih =>
    rw [List.cons_append, List.dropWhile_cons, List.dropWhile_cons, ih]
    split <;> rfl

/-- An occurrence of a comment starts on the first line, and that line marks the file as Flow. -/
def OnMark (c printed : String) : Prop :=
  flowMark <+: printed.toList ++ ['\n']
    ∧ ∃ before rest, printed.toList = before ++ c.toList ++ rest ∧ '\n' ∉ before

/-- What is left out in front of a text cuts no comment apart. -/
theorem holds_finish (opens : ∃ rest, c.toList = '/' :: rest) (held : Holds c printed) :
    Holds c (finish printed) ∨ OnMark c printed := by
  obtain ⟨tail, slash⟩ := opens
  obtain ⟨before, rest, same⟩ := held
  have whole : printed.toList ++ ['\n'] = before ++ '/' :: (tail ++ rest ++ ['\n']) := by
    rw [← same, slash]
    simp
  -- The blank lines in front end where the comment starts, or before.
  have blank (as : List Char) :
      c.toList <:+: (as ++ '/' :: (tail ++ rest ++ ['\n'])).dropWhile (· = '\n') := by
    rw [dropWhile_append_of_not (by decide)]
    refine ⟨as.dropWhile (· = '\n'), rest ++ ['\n'], ?_⟩
    rw [slash]
    simp
  rw [Holds, finish, String.toList_ofList, dropFlowMark]
  split
  next marked =>
    by_cases within : '\n' ∈ before
    · obtain ⟨first, others, rfl, clear⟩ := List.eq_append_cons_of_mem within
      have line : (printed.toList ++ ['\n']).dropWhile (· ≠ '\n')
          = '\n' :: (others ++ '/' :: (tail ++ rest ++ ['\n'])) := by
        rw [whole, List.append_assoc, List.dropWhile_append_of_pos, List.cons_append,
          List.dropWhile_cons_of_neg (by simp)]
        intro a member
        simpa using fun same : a = '\n' => clear (same ▸ member)
      rw [line]
      exact .inl (blank others)
    · exact .inr ⟨List.isPrefixOf_iff_prefix.mp marked, before, rest, same.symm, within⟩
  next =>
    rw [whole]
    exact .inl (blank before)

end Finish

/-! ## Conversion -/

/-- The comments of a program, and those kept below it, occur in the printed program. -/
theorem holds_convert {tree : Node} {printed c : String} (stage : Stage tree [])
    (converts : tree.convert.result = .ok printed) (kept : c ∈ tree.comments ∨ Voiced c tree) :
    Holds c printed := by
  have fine : ¬∃ e, tree.convert.result = .error e := by
    rintro ⟨e, fails⟩
    rw [converts] at fails
    cases fails
  rw [convert_fails_iff stage, not_or, not_not] at fine
  obtain ⟨noExport, tame⟩ := fine
  obtain ⟨last, runs⟩ := stage.runList Pass.all
    fun _ => (failure?_eq_none_iff stage.program.2).mpr noExport
  rw [Node.after_nil] at runs
  rw [Node.convert, Pass.runAll, Outcome.bind_of_ok runs] at converts
  have every : ∀ t, t ∈ Pass.settleAll Pass.all [] := fun t => Stage.mem_settleAll t
  have rewritten := (Stage.allStrays_rewriteAll Pass.all tree).mpr tame
  have ready := last.ready every
  have writes : WritesAs c ((Pass.rewriteAll Pass.all tree).after (Pass.settleAll Pass.all [])) .program :=
    ready.writesAs (roles_after last.program.2 last.good _ last.program.1)
  refine writes.ensures printed converts (kept.imp (fun own => ?_) fun voiced => ?_)
  · rwa [Node.comments, info_after, info_rewriteAll Pass.all stage.program.1]
  · exact last.voiced every rewritten (voiced_rewriteAll Pass.all stage.program.2 voiced)

end Retype
