import Retype.Proofs.Token.Lossless
import Retype.Token.Expand

/-!
# Texts at other offsets

A text may stand behind another one.  Its lexemes are then the same, at other offsets and on other lines,
and so is the failure that ends them (`lexemes_move`).
-/

namespace Retype

/-! ## Moving what was read -/

/-- A token moved by an offset and some lines. -/
def Token.move (q k : Nat) (t : Token) : Token := { t with pos := t.pos + q, line := t.line + k }

/-- A comment moved by an offset. -/
def Comment.move (q : Nat) (c : Comment) : Comment := { c with pos := c.pos + q }

/-- A lexeme moved by an offset and some lines. -/
def Lexer.Lexeme.move (q k : Nat) (l : Lexeme) : Lexeme := { l with pos := l.pos + q, line := l.line + k }

/-- Tokens and comments moved by an offset and some lines. -/
def Lexer.Lexed.move (q k : Nat) (found : Lexed) : Lexed :=
  ⟨found.tokens.map (Token.move q k), found.comments.map (Comment.move q)⟩

namespace Lexer

variable {q k : Nat}

/-- The failure of a result moved by an offset. -/
def blame {α : Type} (q : Nat) (x : Except Failure α) : Except Failure α := x.mapError (Failure.move q)

/-- Tokens and comments, or a failure, moved by an offset and some lines. -/
def shift (q k : Nat) (x : Except Failure Lexed) : Except Failure Lexed := (blame q x).map (Lexed.move q k)

@[simp]
theorem shift_ok (found : Lexed) : shift q k (.ok found) = .ok (found.move q k) := rfl

@[simp]
theorem shift_error (e : Failure) : shift q k (.error e) = .error (e.move q) := rfl

theorem join_move (a b : Lexed) :
    (Expand.join a b).move q k = Expand.join (a.move q k) (b.move q k) := by
  simp [Expand.join, Lexed.move]

/-- Two results that are joined are moved one by one. -/
theorem shift_join (x y : Except Failure Lexed) : shift q k (do return Expand.join (← x) (← y))
    = do return Expand.join (← shift q k x) (← shift q k y) := by
  cases x with
  | error e => rfl
  | ok a =>
    cases y with
    | error e => rfl
    | ok b => exact congrArg Except.ok (join_move a b)

theorem failure_move_move (q q' : Nat) (e : Failure) : (e.move q).move q' = e.move (q + q') := by
  cases e <;> simp [Failure.move, Int.add_assoc]

theorem lexed_move_move (q k q' k' : Nat) (found : Lexed) :
    (found.move q k).move q' k' = found.move (q + q') (k + k') := by
  simp [Lexed.move, Token.move, Comment.move, Nat.add_assoc]

theorem shift_shift (q k q' k' : Nat) (x : Except Failure Lexed) :
    shift q' k' (shift q k x) = shift (q + q') (k + k') x := by
  cases x with
  | error e => exact congrArg Except.error (failure_move_move q q' e)
  | ok found => exact congrArg Except.ok (lexed_move_move q k q' k' found)

theorem token?_move (l : Lexeme) : (l.move q k).token? = l.token?.map (Token.move q k) := by
  unfold Lexeme.token? Lexeme.move
  dsimp only
  split <;> rfl

theorem comment?_move (l : Lexeme) : (l.move q k).comment? = l.comment?.map (Comment.move q) := by
  unfold Lexeme.comment? Lexeme.move
  dsimp only
  split <;> rfl

/-! ## Lexemes -/

theorem scan_move (q pos : Nat) (cs : List Char) : Template.scan (pos + q) cs
    = (blame q (Template.scan pos cs)).map fun r => (r.1 + q, r.2.map (Template.Span.move q)) := by
  have opened : Template.State.frames ⟨[.template pos], .code, []⟩ ≠ [] := List.cons_ne_nil _ _
  rw [Template.scan, Nat.add_right_comm]
  exact Template.run_move q (pos + 1) 0 opened (cs.drop 1)

/-- The lexeme that starts a text does not depend on where the text stands. -/
theorem measure_move (q pos : Nat) (c : Char) (cs : List Char) :
    measure (pos + q) c cs = blame q (measure pos c cs) := by
  unfold measure
  split
  · rfl
  split
  · rfl
  split
  · rw [scan_move]
    cases Template.scan pos (c :: cs) with
    | error e => rfl
    | ok r => exact congrArg (fun n => Except.ok (Shape.token .template, n)) (Nat.add_sub_add_right ..)
  repeat' split
  all_goals rfl

theorem nextLine_add (line k : Nat) (c : Char) : nextLine (line + k) c = nextLine line c + k := by
  rw [nextLine_eq, nextLine_eq, Nat.add_right_comm]

/-- The lexemes of a text that stands somewhere else. -/
theorem lexemes_move (q k pos line skip : Nat) (cs : List Char) :
    lexemes (pos + q) (line + k) skip cs
      = ((lexemes pos line skip cs).1.map (Lexeme.move q k),
        (lexemes pos line skip cs).2.map (Failure.move q)) := by
  induction cs generalizing pos line skip with
  | nil => rfl
  | cons c cs ih =>
    have further (skip : Nat) := ih (pos + 1) (nextLine line c) skip
    rw [Nat.add_right_comm, ← nextLine_add] at further
    cases skip with
    | succ skip => exact further skip
    | zero =>
      rw [lexemes, lexemes, measure_move]
      cases measure pos c cs with
      | error e => rfl
      | ok r =>
        obtain ⟨shape, n⟩ := r
        have more := further (n - 1)
        show (_ :: (lexemes _ _ _ cs).1, _) = _
        rw [more]
        rfl

end Lexer

end Retype
