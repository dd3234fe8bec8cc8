import Retype.Proofs.Token.Border
import Retype.Proofs.Token.Lossless
import Retype.Proofs.Token.Sync

/-!
# Lexemes in front of the closing brace

The body of a substitution stands in front of a brace.  To numbers, names and most marks a brace is like
the end of the text, and no string, comment or template literal of the body reaches the brace, since a
scan of the substitution is in code there.  So the lexemes of the body are those of the body alone, and
behind them comes the brace (`lexemes_brace`).

A body that ends in a bar is different: the bar and the brace are one mark.
-/

namespace Retype.Lexer

open Template

/-! ## Lexemes of a body -/

section Body

variable {pos start depth : Nat} {spans found : List Span} {c : Char} {cs post : List Char}

/-- A lexeme behind which a scan of the substitution goes on ends in the body. -/
theorem le_of_synced {text : List Char} {shape : Shape} {n stop : Nat}
    (synced : Synced start spans pos text shape n (stop, found)) (lt : pos < stop)
    (other : shape ≠ .token .exactRbrace) : pos + n ≤ stop := by
  rcases synced with ⟨depth, further⟩ | here | ⟨-, -, bar⟩
  · exact Nat.le_of_lt_succ (marked_of_run further).1
  · exact absurd here.symm (Nat.ne_of_lt lt)
  · exact absurd bar other

variable (closed : Template.run pos 0 ⟨[.substitution start depth], .code, spans⟩ (c :: cs ++ '\x7d' :: post)
  = .ok (pos + (c :: cs).length, found))
include closed

theorem commentLength_brace : commentLength (c :: cs ++ '\x7d' :: post) = commentLength (c :: cs) := by
  have lt : pos < pos + (c :: cs).length := Nat.lt_add_of_pos_right (Nat.succ_pos _)
  have inside {n : Nat} (measured : commentLength (c :: cs ++ '\x7d' :: post) = some n) :
      commentLength (c :: cs) = some n := by
    have steps : Steps start spans pos depth (c :: cs ++ '\x7d' :: post) .comment n :=
      steps_of_eq rfl (run_comment measured)
    have := le_of_synced (steps.synced closed) lt (by simp)
    exact commentLength_of_append (by decide) measured (by omega)
  cases measured : commentLength (c :: cs ++ '\x7d' :: post) with
  | some n => exact (inside measured).symm
  | none =>
    cases alone : commentLength (c :: cs) with
    | none => rfl
    | some n =>
      obtain ⟨m, longer⟩ := isSome_commentLength_append alone ('\x7d' :: post)
      rw [measured] at longer
      cases longer

theorem stringLength_brace : stringLength (c :: cs ++ '\x7d' :: post) = stringLength (c :: cs) := by
  have lt : pos < pos + (c :: cs).length := Nat.lt_add_of_pos_right (Nat.succ_pos _)
  cases measured : stringLength (c :: cs ++ '\x7d' :: post) with
  | some n =>
    have steps : Steps start spans pos depth (c :: cs ++ '\x7d' :: post) (.token .string) n :=
      steps_of_eq rfl (run_string measured)
    have := le_of_synced (steps.synced closed) lt (by simp)
    exact (stringLength_of_append measured (by omega)).symm
  | none =>
    cases alone : stringLength (c :: cs) with
    | none => rfl
    | some n =>
      rw [stringLength_append alone] at measured
      cases measured

/-- A template literal of the body is closed in the body. -/
theorem scan_brace (opened : c = '\x60') :
    Template.scan pos (c :: cs ++ '\x7d' :: post) = Template.scan pos (c :: cs) := by
  rw [List.cons_append] at closed ⊢
  cases scanned : Template.scan pos (c :: (cs ++ '\x7d' :: post)) with
  | error e => exact absurd closed (run_template_error opened scanned _)
  | ok r =>
    obtain ⟨stop, own⟩ := r
    rw [run_template opened scanned] at closed
    have high : stop ≤ pos + (cs.length + 1) := Nat.le_of_lt_succ (marked_of_run closed).1
    exact (scan_of_append scanned (by omega)).symm

/-- The lexeme that starts the rest of a body is that of the body alone. -/
theorem measure_brace (open_ : c :: cs ≠ ['|']) : measure pos c (cs ++ '\x7d' :: post) = measure pos c cs := by
  unfold measure
  split
  · rfl
  split
  · rfl
  split
  next opened => rw [← List.cons_append, scan_brace closed opened]
  next =>
    rw [← List.cons_append, commentLength_brace closed, numberLength_border rfl, stringLength_brace closed,
      nameLength_border rfl, mark?_border rfl fun bar none => absurd (by rw [bar, none]) open_]
    cases named : nameLength (c :: cs) with
    | none => rfl
    | some n =>
      dsimp only
      rw [List.take_append_of_le_length (nameLength_bounds named).2]

end Body

theorem measure_closing (pos : Nat) (post : List Char) :
    measure pos '\x7d' post = .ok (.token .rbrace, ['\x7d'].length) := by
  have comment : commentLength ('\x7d' :: post) = none := rfl
  have number : numberLength ('\x7d' :: post) = none := numberLength_border rfl [] post
  have name : nameLength ('\x7d' :: post) = none := nameLength_border rfl [] post
  have string : stringLength ('\x7d' :: post) = none := rfl
  simp [measure, comment, number, name, string, mark?, marks]

/-- The lexemes behind those of a body, and the failure that ends them all.  If the body alone ends in a
failure then there are none, else the first is the closing brace. -/
inductive Behind (pos line : Nat) : (alone : Option Failure) → List Lexeme → Option Failure → Prop where
  | fails (e : Failure) : Behind pos line (some e) [] (some e)
  | closes (more : List Lexeme) (failure : Option Failure) :
      Behind pos line none (⟨.token .rbrace, ['\x7d'], line, pos⟩ :: more) failure

/-- The lexemes of a body that ends in no bar are those of the body alone, and then comes the brace. -/
theorem lexemes_brace {pos start depth : Nat} {spans found : List Span} {cs post : List Char} (line : Nat)
    (closed : Template.run pos 0 ⟨[.substitution start depth], .code, spans⟩ (cs ++ '\x7d' :: post)
      = .ok (pos + cs.length, found)) (bare : cs.getLast? ≠ some '|') :
    ∃ more failure, lexemes pos line 0 (cs ++ '\x7d' :: post)
        = ((lexemes pos line 0 cs).1 ++ more, failure)
      ∧ Behind (pos + cs.length) (line + cs.count '\n') (lexemes pos line 0 cs).2 more failure := by
  induction n : cs.length using Nat.strongRecOn generalizing pos line depth spans cs with
  | _ n ih =>
    subst n
    cases cs with
    | nil =>
      rw [List.nil_append, lexemes_of_measure (measure_closing pos post) rfl]
      exact ⟨_, _, rfl, .closes _ _⟩
    | cons c cs =>
      have open_ : c :: cs ≠ ['|'] := by
        intro bar
        rw [bar] at bare
        exact bare rfl
      have same := measure_brace closed open_
      cases measured : measure pos c cs with
      | error e =>
        rw [measured] at same
        rw [List.cons_append, lexemes, lexemes, measured, same]
        exact ⟨[], some e, rfl, .fails e⟩
      | ok r =>
        obtain ⟨shape, k⟩ := r
        rw [measured] at same
        obtain ⟨some_, inside⟩ := measure_bounds measured
        obtain ⟨piece, rest, whole, rfl⟩ : ∃ piece rest, c :: cs = piece ++ rest ∧ piece.length = k :=
          ⟨_, _, (List.take_append_drop k _).symm, List.length_take_of_le inside⟩
        have total : (c :: cs).length = piece.length + rest.length := by rw [whole, List.length_append]
        have left : pos + (c :: cs).length = pos + piece.length + rest.length := by omega
        have brace : c :: (cs ++ '\x7d' :: post) = piece ++ (rest ++ '\x7d' :: post) := by
          rw [← List.cons_append, whole, List.append_assoc]
        rw [List.cons_append, left] at closed
        -- The scan goes on behind the lexeme, since the lexeme ends in the body.
        have further : ∃ depth, Template.run (pos + piece.length) 0 ⟨[.substitution start depth], .code, spans⟩
            (rest ++ '\x7d' :: post) = .ok (pos + piece.length + rest.length, found) := by
          rcases sync_measure same closed with further | here | ⟨next, two, -⟩
          · rwa [brace, List.drop_left] at further
          · dsimp only at here
            omega
          · dsimp only at next
            omega
        obtain ⟨depth, further⟩ := further
        have later : rest.getLast? ≠ some '|' := by
          intro bar
          rw [whole, List.getLast?_append, bar] at bare
          exact bare rfl
        obtain ⟨more, failure, cut, behind⟩ :=
          ih rest.length (by omega) (line + piece.count '\n') further later rfl
        refine ⟨more, failure, ?_, ?_⟩
        · rw [List.cons_append, lexemes_of_measure same brace, lexemes_of_measure measured whole, cut]
          rfl
        · rw [lexemes_of_measure measured whole, left, whole, List.count_append, ← Nat.add_assoc]
          exact behind

end Retype.Lexer
