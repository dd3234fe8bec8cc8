import Mathlib.Data.List.Forall2
import Retype.Proofs.Token.Brace
import Retype.Proofs.Token.Exact
import Retype.Proofs.Token.Shift

/-!
# Line ends in the place of blanks

A blank between two lexemes of a text may be replaced by a line end.  The lexemes in front of it stay,
and those behind it go down by one line.  The blank may also stand in the code of a substitution, and
this in a substitution of another literal, and so on.  Then the literal has a line end more, and nothing
else changes: its substitutions are the same, and so is its end.

The proof goes along the lexemes in front of the blank.  None of them depends on it, and a scan of a
substitution keeps step with them, so it is in code there and makes no difference between a blank and a
line end.
-/

namespace Retype.Lexer

open Template

/-! ## Lexemes in front of a blank -/

section Blank

variable {pos n : Nat} {c : Char} {cs post : List Char} {shape : Shape}

theorem blockCommentLength_blank (cs post : List Char) :
    blockCommentLength (cs ++ '\n' :: post) = blockCommentLength (cs ++ ' ' :: post) := by
  induction cs with
  | nil => rw [List.nil_append, List.nil_append, blockCommentLength_step (by simp), blockCommentLength_step (by simp)]
  | cons c cs ih =>
    by_cases ends : c = '*' ∧ cs.head? = some '/'
    · obtain ⟨rfl, slash⟩ := ends
      obtain ⟨rest, rfl⟩ := List.head?_eq_some_iff.mp slash
      rfl
    · have goes {x : Char} (other : x ≠ '/') : ¬(c = '*' ∧ (cs ++ x :: post).head? = some '/') := by
        cases cs with
        | nil => simp [other]
        | cons d cs => exact ends
      rw [List.cons_append, List.cons_append, blockCommentLength_step (goes (by decide)),
        blockCommentLength_step (goes (by decide)), ih]

/-- Comments that end in front of a blank. -/
theorem commentLength_blank
    (inside : ∀ n, commentLength (c :: cs ++ ' ' :: post) = some n → n ≤ (c :: cs).length) :
    commentLength (c :: cs ++ '\n' :: post) = commentLength (c :: cs ++ ' ' :: post) := by
  cases cs with
  | nil =>
    rw [List.singleton_append, List.singleton_append, commentLength_of_ne (by simp), commentLength_of_ne (by simp)]
  | cons d cs =>
    by_cases line : c = '/' ∧ d = '/'
    · obtain ⟨rfl, rfl⟩ := line
      have short := inside (2 + ((cs ++ ' ' :: post).takeWhile (· ≠ '\n')).length) rfl
      simp only [List.cons_append, commentLength, List.takeWhile_append] at short ⊢
      split at short
      · simp at short
        omega
      next early => rw [if_neg early, if_neg early]
    by_cases block : c = '/' ∧ d = '*'
    · obtain ⟨rfl, rfl⟩ := block
      simp only [List.cons_append, commentLength, blockCommentLength_blank]
    · have other : ¬(c = '/' ∧ (d = '/' ∨ d = '*')) :=
        fun both => both.2.elim (fun slash => line ⟨both.1, slash⟩) fun star => block ⟨both.1, star⟩
      simp only [List.cons_append]
      rw [commentLength_of_ne other, commentLength_of_ne other]

theorem measure_string (found : stringLength (c :: cs) = some n) :
    measure pos c cs = .ok (.token .string, n) := by
  have quote : c = '"' ∨ c = '\x27' := by
    simp only [stringLength] at found
    split at found
    next quote => exact quote
    · cases found
  have comment : commentLength (c :: cs) = none := by
    unfold commentLength
    split
    next same => rcases quote with rfl | rfl <;> cases same
    next same => rcases quote with rfl | rfl <;> cases same
    next => rfl
  have number : numberLength (c :: cs) = none := by
    have digit : Text.isDigit c = false := by rcases quote with rfl | rfl <;> decide
    rcases quote with rfl | rfl <;> simp [numberLength, radixLength, decimalLength, digit]
  rcases quote with rfl | rfl <;> simp [measure, comment, number, found]

/-- A string holds no line end. -/
theorem not_mem_of_stringBody {q : Char} {body : List Char} (isBody : StringBody q body) : '\n' ∉ body := by
  induction isBody with
  | nil => exact List.not_mem_nil
  | plain unquoted bare line _ ih => simp [ih, Ne.symm line]
  | escape line _ ih => simp [ih, Ne.symm line]

/-- Strings that end in front of a blank. -/
theorem stringLength_blank
    (inside : ∀ n, stringLength (c :: cs ++ ' ' :: post) = some n → n ≤ (c :: cs).length) :
    stringLength (c :: cs ++ '\n' :: post) = stringLength (c :: cs ++ ' ' :: post) := by
  cases found : stringLength (c :: cs ++ ' ' :: post) with
  | some n => exact stringLength_append (stringLength_of_append found (inside n found)) _
  | none =>
    cases other : stringLength (c :: cs ++ '\n' :: post) with
    | none => rfl
    | some n =>
      -- The string does not reach the line end, so it is there with the blank, too.
      have short : n ≤ (c :: cs).length := by
        simp only [List.cons_append, stringLength] at other
        split at other
        next quote =>
          obtain ⟨m, inner, rfl⟩ := Option.map_eq_some_iff.mp other
          obtain ⟨body, rest, same, isBody, rfl⟩ := body_of_closingQuote inner
          by_contra long
          have early : cs <+: body := List.prefix_of_prefix_length_le (List.prefix_append _ _)
            ⟨_, same.symm⟩ (by simp at long; omega)
          obtain ⟨more, rfl⟩ := early
          rw [List.append_assoc, List.append_cancel_left_eq] at same
          cases more with
          | nil =>
            obtain ⟨rfl, -⟩ := List.cons.inj same
            simp at quote
          | cons d more =>
            obtain ⟨rfl, -⟩ := List.cons.inj same
            exact not_mem_of_stringBody isBody (by simp)
        · cases other
      rw [stringLength_append (stringLength_of_append other short)] at found
      cases found

/-- A lexeme in front of a blank is one in front of a line end. -/
theorem measure_blank (measured : measure pos c (cs ++ ' ' :: post) = .ok (shape, n))
    (inside : n ≤ cs.length + 1) : measure pos c (cs ++ '\n' :: post) = .ok (shape, n) := by
  have comment : commentLength (c :: cs ++ '\n' :: post) = commentLength (c :: cs ++ ' ' :: post) := by
    refine commentLength_blank fun m found => ?_
    have found : commentLength (c :: (cs ++ ' ' :: post)) = some m := found
    rw [measure_comment found] at measured
    cases measured
    exact inside
  have string : stringLength (c :: cs ++ '\n' :: post) = stringLength (c :: cs ++ ' ' :: post) := by
    refine stringLength_blank fun m found => ?_
    have found : stringLength (c :: (cs ++ ' ' :: post)) = some m := found
    rw [measure_string found] at measured
    cases measured
    exact inside
  rw [← measured]
  unfold measure at measured ⊢
  split
  · rfl
  next blank =>
    rw [if_neg blank] at measured
    split
    · rfl
    next line =>
      rw [if_neg line] at measured
      split
      next opened =>
        rw [if_pos opened] at measured
        cases scanned : scan pos (c :: (cs ++ ' ' :: post)) with
        | error e =>
          rw [scanned] at measured
          cases measured
        | ok r =>
          obtain ⟨stop, own⟩ := r
          rw [scanned] at measured
          cases measured
          have := scan_bounds scanned
          have alone := scan_of_append scanned (by dsimp only at inside; omega)
          have longer : scan pos (c :: (cs ++ '\n' :: post)) = .ok (stop, own) := run_extend alone _
          rw [longer]
      next =>
        rw [← List.cons_append, ← List.cons_append, comment, string, numberLength_border rfl,
          numberLength_border rfl, nameLength_border rfl, nameLength_border rfl,
          mark?_border rfl fun _ _ => by decide, mark?_border rfl fun _ _ => by decide]
        cases named : nameLength (c :: cs) with
        | none => rfl
        | some m =>
          have := (nameLength_bounds named).2
          dsimp only
          rw [List.take_append_of_le_length this, List.take_append_of_le_length this]

end Blank

/-! ## Blanks of code -/

/-- A blank of a text that is a lexeme, or that stands in the code of a substitution of one of its template
literals. -/
inductive Code : List Char → Nat → Prop where
  /-- The blank is the first lexeme. -/
  | blank {cs : List Char} : Code (' ' :: cs) 0
  /-- The blank stands behind the first lexeme. -/
  | later {c : Char} {piece rest : List Char} {shape : Shape} {i : Nat}
      (measured : measure 0 c (piece ++ rest) = .ok (shape, piece.length + 1)) (further : Code rest i) :
      Code (c :: piece ++ rest) (piece.length + 1 + i)
  /-- The first lexeme is a literal, and the blank stands in one of its substitutions. -/
  | inside {cs : List Char} {stop : Nat} {spans : List Span} {s : Span} {i : Nat}
      (scanned : scan 0 ('\x60' :: cs) = .ok (stop, spans)) (mem : s ∈ spans)
      (inner : Code (s.body ('\x60' :: cs)) i) : Code ('\x60' :: cs) (s.start + i)

theorem set_behind (front rest : List Char) (i : Nat) (x : Char) :
    (front ++ rest).set (front.length + i) x = front ++ rest.set i x := by
  rw [List.set_append_right _ _ (Nat.le_add_right _ _), Nat.add_sub_cancel_left]

/-- The body of a substitution in the text around it. -/
theorem getElem?_body {lit : List Char} {s : Span} {i : Nat} {c : Char} (found : (s.body lit)[i]? = some c) :
    lit[s.start + i]? = some c ∧ s.start + i < s.stop := by
  rw [Span.body, slice, List.getElem?_drop, List.getElem?_take] at found
  split at found
  next inside => exact ⟨found, inside⟩
  · cases found

theorem Code.getElem? {cs : List Char} {i : Nat} (code : Code cs i) : cs[i]? = some ' ' := by
  induction code with
  | blank => rfl
  | @later c piece rest shape i measured further ih =>
    rw [List.getElem?_append_right (by simp)]
    simpa using ih
  | inside scanned mem inner ih => exact (getElem?_body ih).1

theorem Code.lt {cs : List Char} {i : Nat} (code : Code cs i) : i < cs.length :=
  (List.getElem?_eq_some_iff.mp code.getElem?).1

/-- A text with a blank, and the same with a line end. -/
theorem exists_of_blank {cs : List Char} {i : Nat} (blank : cs[i]? = some ' ') :
    ∃ front post, cs = front ++ ' ' :: post ∧ cs.set i '\n' = front ++ '\n' :: post ∧ front.length = i := by
  obtain ⟨inside, same⟩ := List.getElem?_eq_some_iff.mp blank
  have size : (cs.take i).length = i := List.length_take_of_le (Nat.le_of_lt inside)
  have parts : cs = cs.take i ++ ' ' :: cs.drop (i + 1) := by
    rw [← drop_of_getElem? blank, List.take_append_drop]
  refine ⟨cs.take i, cs.drop (i + 1), parts, ?_, size⟩
  rw [List.set_eq_take_append_cons_drop, if_pos inside]

/-- A lexeme does not depend on a blank behind it. -/
theorem measure_set {pos : Nat} {c : Char} {piece rest : List Char} {shape : Shape} {i : Nat}
    (measured : measure pos c (piece ++ rest) = .ok (shape, piece.length + 1))
    (blank : rest[i]? = some ' ') :
    measure pos c (piece ++ rest.set i '\n') = .ok (shape, piece.length + 1) := by
  obtain ⟨front, post, rfl, broken, -⟩ := exists_of_blank blank
  rw [broken, ← List.append_assoc]
  rw [← List.append_assoc] at measured
  exact measure_blank measured (by rw [List.length_append]; omega)

/-! ## Template literals with a line end more -/

theorem exists_cons_cons {front : List Char} (long : 1 < front.length) :
    ∃ a b more, front = a :: b :: more := by
  rcases front with _ | ⟨a, _ | ⟨b, more⟩⟩
  · simp at long
  · simp at long
  · exact ⟨a, b, more, rfl⟩

/-- A substitution does not depend on the text behind its brace. -/
theorem scanSubstitution_append {pos : Nat} {front post post' : List Char} {stop : Nat}
    (closed : scanSubstitution pos (front ++ post) = .ok stop) (inside : stop < pos + front.length) :
    scanSubstitution pos (front ++ post') = .ok stop := by
  obtain ⟨spans, closed⟩ := scanSubstitution_eq_ok_iff.mp closed
  have alone : run pos 0 ⟨[] ++ [.substitution pos 0], .code, []⟩ ((front ++ post).take (stop + 1 - pos))
      = .ok (stop, spans) := run_take (calm_code _) closed
  rw [List.take_append_of_le_length (by omega)] at alone
  have whole := run_extend alone (front.drop (stop + 1 - pos) ++ post')
  rw [← List.append_assoc, List.take_append_drop] at whole
  exact scanSubstitution_eq_ok_iff.mpr ⟨spans, whole⟩

theorem start_le_of_literal {pos : Nat} {cs : List Char} {spans : List Span} {stop : Nat}
    (literal : Literal pos cs spans stop) {s : Span} (mem : s ∈ spans) : pos + 2 ≤ s.start := by
  have same : (List.replicate pos ' ' ++ cs).drop pos = cs := by simp
  exact ((laid_of_literal literal same).1.bounds mem).1

/-- The body of a substitution may be replaced by one that ends at the same brace. -/
theorem literal_replace {pos : Nat} {cs : List Char} {spans : List Span} {stop : Nat}
    (literal : Literal pos cs spans stop) {s : Span} (mem : s ∈ spans) {front body body' post : List Char}
    (parts : cs = front ++ (body ++ '\x7d' :: post)) (start : s.start = pos + front.length)
    (ends : s.stop = s.start + body.length) (size : body'.length = body.length)
    (closes : scanSubstitution s.start (body ++ '\x7d' :: post) = .ok s.stop →
      scanSubstitution s.start (body' ++ '\x7d' :: post) = .ok s.stop) :
    Literal pos (front ++ (body' ++ '\x7d' :: post)) spans stop := by
  induction literal generalizing front with
  | close => cases mem
  | @escape pos c cs spans stop further ih =>
    have := start_le_of_literal further mem
    obtain ⟨a, b, front, rfl⟩ : ∃ a b more, front = a :: b :: more := exists_cons_cons (by omega)
    obtain ⟨rfl, rest⟩ := List.cons.inj parts
    obtain ⟨rfl, rfl⟩ := List.cons.inj rest
    simp only [List.length_cons] at start
    exact .escape (ih mem rfl (by omega))
  | @char pos c cs spans stop bare inside plain further ih =>
    have := start_le_of_literal further mem
    obtain ⟨a, b, front, rfl⟩ : ∃ a b more, front = a :: b :: more := exists_cons_cons (by omega)
    obtain ⟨rfl, rfl⟩ := List.cons.inj parts
    simp only [List.length_cons] at start
    exact .char bare inside plain (ih mem rfl (by simp only [List.length_cons]; omega))
  | @hole pos last cs spans stop closed further ih =>
    have le := le_of_scanSubstitution closed
    rcases List.mem_cons.mp mem with rfl | later
    · dsimp only at start ends closes
      obtain ⟨a, b, front, rfl⟩ : ∃ a b more, front = a :: b :: more := exists_cons_cons (by omega)
      obtain rfl : front = [] := List.length_eq_zero_iff.mp (by simp only [List.length_cons] at start; omega)
      obtain ⟨rfl, rest⟩ := List.cons.inj parts
      obtain ⟨rfl, rfl⟩ := List.cons.inj rest
      have behind {piece : List Char} (same : piece.length = body.length) :
          (piece ++ '\x7d' :: post).drop (last - (pos + 1)) = post := by
        rw [show last - (pos + 1) = piece.length + 1 by omega, ← List.drop_drop, List.drop_left]
        rfl
      have further : Literal (last + 1) ((body ++ '\x7d' :: post).drop (last - (pos + 1))) spans stop := further
      rw [behind rfl] at further
      have hole := Literal.hole (closes closed) (by rwa [behind size])
      exact hole
    · have := start_le_of_literal further later
      obtain ⟨a, b, front, rfl⟩ : ∃ a b more, front = a :: b :: more := exists_cons_cons (by omega)
      obtain ⟨rfl, rest⟩ := List.cons.inj parts
      obtain ⟨rfl, rfl⟩ := List.cons.inj rest
      simp only [List.length_cons] at start
      have long : last - (pos + 1) ≤ front.length := by omega
      have further := ih later (List.drop_append_of_le_length long) (by rw [List.length_drop]; omega)
      rw [← List.drop_append_of_le_length long] at further
      exact .hole (scanSubstitution_append closed (by omega)) further

/-- A literal around the body of one of its substitutions. -/
theorem exists_around {lit : List Char} {pos stop : Nat} {spans : List Span} (laid : Laid lit stop pos spans)
    {s : Span} (mem : s ∈ spans) : ∃ front post, lit = front ++ (s.body lit ++ '\x7d' :: post)
      ∧ front.length = s.start ∧ s.stop = s.start + (s.body lit).length := by
  obtain ⟨-, le, -⟩ := laid.bounds mem
  have closes := (laid.marked mem).2.2
  have inside := (List.getElem?_eq_some_iff.mp closes).1
  refine ⟨lit.take s.start, lit.drop (s.stop + 1), ?_, List.length_take_of_le (by omega), ?_⟩
  · rw [Span.body, ← drop_of_getElem? closes, ← drop_eq_slice_append lit le, List.take_append_drop]
  · rw [Span.body, slice, List.length_drop, List.length_take]
    omega

/-- A literal with a blank of code replaced has the same end and the same substitutions. -/
theorem scan_set {lit : List Char} {stop : Nat} {spans : List Span}
    (scanned : scan 0 lit = .ok (stop, spans)) {s : Span} (mem : s ∈ spans) {i : Nat}
    (inside : i < (s.body lit).length)
    (closes : ∀ found post, run s.start 0 ⟨[.substitution s.start 0], .code, []⟩ (s.body lit ++ '\x7d' :: post)
        = .ok (s.start + (s.body lit).length, found) →
      run s.start 0 ⟨[.substitution s.start 0], .code, []⟩ ((s.body lit).set i '\n' ++ '\x7d' :: post)
        = .ok (s.start + (s.body lit).length, found)) :
    scan 0 (lit.set (s.start + i) '\n') = .ok (stop, spans) := by
  have literal := literal_of_scan scanned
  obtain ⟨laid, -⟩ := laid_of_literal literal rfl
  obtain ⟨front, post, parts, start, ends⟩ := exists_around laid mem
  have low := (laid.bounds mem).1
  obtain ⟨c, front, rfl⟩ := List.exists_cons_of_length_pos (show 0 < front.length by omega)
  generalize s.body lit = body at parts ends inside closes
  subst parts
  rw [← start, set_behind, List.set_append_left _ _ inside, List.cons_append]
  refine run_template_eq_ok_iff.mpr ⟨spans, rfl, ?_⟩
  refine literal_replace literal mem rfl (by rw [← start, List.length_cons]; omega) ends (List.length_set ..) ?_
  intro closed
  rw [ends] at closed ⊢
  obtain ⟨found, closed⟩ := scanSubstitution_eq_ok_iff.mp closed
  exact scanSubstitution_eq_ok_iff.mpr ⟨found, closes found post closed⟩

/-! ## Scans of substitutions -/

theorem measure_at (pos : Nat) {c : Char} {cs : List Char} {r : Shape × Nat} (measured : measure 0 c cs = .ok r) :
    measure pos c cs = .ok r := by
  rw [← Nat.zero_add pos, measure_move, measured]
  rfl

/-- A literal is one lexeme. -/
theorem measure_literal {lit : List Char} {stop : Nat} {own : List Span} (pos : Nat)
    (scanned : scan 0 ('\x60' :: lit) = .ok (stop, own)) (post : List Char) :
    measure pos '\x60' (lit ++ post) = .ok (.token .template, stop) := by
  have moved := scan_move pos 0 ('\x60' :: lit ++ post)
  rw [scan_append scanned, Nat.zero_add] at moved
  have moved : scan pos ('\x60' :: (lit ++ post)) = .ok (stop + pos, own.map (Span.move pos)) := moved
  simp only [measure, moved, Except.map, Nat.add_sub_cancel]
  rfl

/-- A scan of a substitution goes through a literal to its end. -/
theorem run_literal {lit post : List Char} {stop : Nat} {own : List Span} (opened : lit.head? = some '\x60')
    (scanned : scan 0 lit = .ok (stop, own)) (pos start depth : Nat) (spans : List Span) :
    run pos 0 ⟨[.substitution start depth], .code, spans⟩ (lit ++ post)
      = run (stop + pos) 0 ⟨[.substitution start depth], .code, spans⟩ ((lit ++ post).drop stop) := by
  obtain ⟨rest, rfl⟩ := List.head?_eq_some_iff.mp opened
  have moved := scan_move pos 0 ('\x60' :: rest ++ post)
  rw [scan_append scanned, Nat.zero_add] at moved
  rw [List.cons_append] at moved ⊢
  rw [run_template rfl moved, Nat.add_sub_cancel]

/-- A scan goes through a lexeme in the same way, whatever is behind the lexeme. -/
theorem exists_further {pos start depth : Nat} {spans : List Span} {c : Char} {piece rest rest' : List Char}
    {shape : Shape} {r : Nat × List Span} (here : measure pos c (piece ++ rest) = .ok (shape, piece.length + 1))
    (there : measure pos c (piece ++ rest') = .ok (shape, piece.length + 1))
    (heads : rest'.head? = some '*' → rest.head? = some '*')
    (closed : run pos 0 ⟨[.substitution start depth], .code, spans⟩ (c :: (piece ++ rest)) = .ok r)
    (high : pos + (piece.length + 1) ≤ r.1) :
    ∃ depth', run (pos + (piece.length + 1)) 0 ⟨[.substitution start depth'], .code, spans⟩ rest = .ok r
      ∧ run pos 0 ⟨[.substitution start depth], .code, spans⟩ (c :: (piece ++ rest'))
        = run (pos + (piece.length + 1)) 0 ⟨[.substitution start depth'], .code, spans⟩ rest' := by
  have behind (more : List Char) : (c :: (piece ++ more)).drop (piece.length + 1) = more := by
    rw [List.drop_succ_cons, List.drop_left]
  have open_ := head?_ne_of_closed here closed
  have steps : Steps start spans pos depth (c :: (piece ++ rest)) shape (piece.length + 1) :=
    steps_measure here open_
  have steps' : Steps start spans pos depth (c :: (piece ++ rest')) shape (piece.length + 1) := by
    refine steps_measure there fun other slash star => open_ other slash ?_
    cases piece with
    | nil => exact heads star
    | cons d piece => exact star
  cases nests : nested shape depth with
  | some depth' =>
    have further := steps.further depth' nests
    have further' := steps'.further depth' nests
    rw [behind] at further further'
    exact ⟨depth', further.symm.trans closed, further'⟩
  | none =>
    rcases steps.closes nests with ends | ⟨ends, two, -⟩
    · obtain rfl := Except.ok.inj (closed.symm.trans ends)
      dsimp only at high
      omega
    · obtain rfl := Except.ok.inj (closed.symm.trans ends)
      dsimp only at high
      omega

/-- A scan of a substitution ends at the same brace if a blank of its code is replaced. -/
theorem run_code {body : List Char} {i : Nat} (code : Code body i) {pos start depth : Nat}
    {spans found : List Span} {post : List Char}
    (closed : run pos 0 ⟨[.substitution start depth], .code, spans⟩ (body ++ '\x7d' :: post)
      = .ok (pos + body.length, found)) :
    run pos 0 ⟨[.substitution start depth], .code, spans⟩ (body.set i '\n' ++ '\x7d' :: post)
      = .ok (pos + body.length, found) := by
  induction code generalizing pos start depth spans found post with
  | @blank cs =>
    rw [List.cons_append, run_plain (by decide)] at closed
    rw [List.set_cons_zero, List.cons_append, run_plain (by decide), closed]
  | @later c piece rest shape i measured further ih =>
    have long := further.lt
    have open_ : c :: (piece ++ rest) ≠ ['|'] := by
      intro bar
      have := congrArg List.length bar
      simp only [List.length_cons, List.length_append, List.length_nil] at this
      omega
    have total : pos + (c :: (piece ++ rest)).length = pos + (piece.length + 1) + rest.length := by
      simp only [List.length_cons, List.length_append]
      omega
    have closed : run pos 0 ⟨[.substitution start depth], .code, spans⟩
        (c :: (piece ++ rest) ++ '\x7d' :: post) = .ok (pos + (c :: (piece ++ rest)).length, found) := closed
    have here := (measure_brace closed open_).trans (measure_at pos measured)
    rw [List.append_assoc] at here
    have there := measure_set here (by rw [List.getElem?_append_left long]; exact further.getElem?)
    rw [List.set_append_left _ _ long] at there
    rw [List.cons_append, List.append_assoc, total] at closed
    have heads : (rest.set i '\n' ++ '\x7d' :: post).head? = some '*'
        → (rest ++ '\x7d' :: post).head? = some '*' := by
      cases rest with
      | nil => cases long
      | cons d rest =>
        cases i with
        | zero => simp
        | succ i => exact id
    obtain ⟨depth', rest_, broken⟩ := exists_further here there heads closed (Nat.le_add_right _ _)
    have size : piece.length + 1 = (c :: piece).length := rfl
    rw [size, set_behind, List.append_assoc, List.cons_append, broken, ih rest_, ← total]
    rfl
  | @inside cs stop spans' s i scanned mem inner ih =>
    obtain ⟨laid, -⟩ := laid_of_literal (literal_of_scan scanned) rfl
    obtain ⟨low, le, high⟩ := laid.bounds mem
    have stops := (scan_bounds scanned).2
    have early := (getElem?_body inner.getElem?).2
    have scanned' := scan_set scanned mem inner.lt fun found post closed => ih closed
    have opened : (('\x60' :: cs).set (s.start + i) '\n').head? = some '\x60' := by
      obtain ⟨j, later⟩ : ∃ j, s.start + i = j + 1 := ⟨s.start + i - 1, by omega⟩
      rw [later]
      rfl
    have same : (('\x60' :: cs).set (s.start + i) '\n' ++ '\x7d' :: post).drop stop
        = ('\x60' :: cs ++ '\x7d' :: post).drop stop := by
      have size : stop ≤ ('\x60' :: cs).length := by
        rw [List.length_cons]
        omega
      rw [List.drop_append_of_le_length (by rwa [List.length_set]), List.drop_append_of_le_length size,
        List.drop_set_of_lt (by omega)]
    rw [run_literal opened scanned', same, ← run_literal rfl scanned]
    exact closed

/-! ## Lexemes -/

/-- A lexeme of a text, and that of the text with a line end at an offset in the place of a blank. -/
inductive Lowered (p : Nat) : Lexeme → Lexeme → Prop where
  /-- The lexeme ends in front of the offset. -/
  | same {l : Lexeme} (above : l.pos < p) (ends : l.pos + l.text.length ≤ p) : Lowered p l l
  /-- The lexeme stands behind the offset. -/
  | below {l : Lexeme} (behind : p < l.pos) : Lowered p l (l.move 0 1)
  /-- The lexeme is the blank. -/
  | blank {line : Nat} : Lowered p ⟨.blank, [' '], line, p⟩ ⟨.lineEnd, ['\n'], line, p⟩
  /-- The blank stands in the code of a literal. -/
  | literal {lit : List Char} {spans : List Span} {s : Span} {i line pos : Nat}
      (scanned : scan 0 lit = .ok (lit.length, spans))
      (scanned' : scan 0 (lit.set (s.start + i) '\n') = .ok (lit.length, spans)) (mem : s ∈ spans)
      (inner : Code (s.body lit) i) (place : p = pos + (s.start + i)) :
      Lowered p ⟨.token .template, lit, line, pos⟩ ⟨.token .template, lit.set (s.start + i) '\n', line, pos⟩

theorem failure_move_zero (e : Failure) : e.move 0 = e := by
  cases e <;> simp [Failure.move]

/-- The lexemes of a text, and of the same text one line further down. -/
theorem lowered_below {p pos : Nat} (behind : p < pos) (line : Nat) (cs : List Char) :
    List.Forall₂ (Lowered p) (lexemes pos line 0 cs).1 (lexemes pos (line + 1) 0 cs).1
      ∧ (lexemes pos (line + 1) 0 cs).2 = (lexemes pos line 0 cs).2 := by
  have moved : lexemes pos (line + 1) 0 cs = _ := lexemes_move 0 1 pos line 0 cs
  rw [moved]
  constructor
  · rw [List.forall₂_map_right_iff, List.forall₂_same]
    intro l member
    obtain ⟨left, cut, -⟩ := cut_lexemes pos line cs
    exact .below (behind.trans_le (cut.le_pos member))
  · cases (lexemes pos line 0 cs).2 with
    | none => rfl
    | some e => exact congrArg some (failure_move_zero e)

theorem count_set {cs : List Char} {i : Nat} (blank : cs[i]? = some ' ') :
    (cs.set i '\n').count '\n' = cs.count '\n' + 1 := by
  obtain ⟨front, post, rfl, broken, -⟩ := exists_of_blank blank
  rw [broken, List.count_append, List.count_append, List.count_cons_self, List.count_cons_of_ne (by decide),
    Nat.add_assoc]

/-- The lexemes of a text with a blank of code replaced. -/
theorem lexemes_code {cs : List Char} {i : Nat} (code : Code cs i) (pos line : Nat) :
    List.Forall₂ (Lowered (pos + i)) (lexemes pos line 0 cs).1 (lexemes pos line 0 (cs.set i '\n')).1
      ∧ (lexemes pos line 0 (cs.set i '\n')).2 = (lexemes pos line 0 cs).2 := by
  induction code generalizing pos line with
  | @blank cs =>
    have here : measure pos ' ' cs = .ok (.blank, [' '].length) := by simp [measure]
    have there : measure pos '\n' cs = .ok (.lineEnd, ['\n'].length) := by simp [measure]
    obtain ⟨all, fails⟩ := lowered_below (Nat.lt_succ_self pos) line cs
    rw [List.set_cons_zero, lexemes_of_measure here rfl, lexemes_of_measure there rfl]
    exact ⟨.cons .blank all, fails⟩
  | @later c piece rest shape i measured further ih =>
    have here : measure pos c (piece ++ rest) = .ok (shape, (c :: piece).length) := measure_at pos measured
    have there := measure_set here further.getElem?
    have size : piece.length + 1 = (c :: piece).length := rfl
    obtain ⟨all, fails⟩ := ih (pos + (c :: piece).length) (line + (c :: piece).count '\n')
    rw [Nat.add_assoc] at all
    have whole (more : List Char) : c :: (piece ++ more) = (c :: piece) ++ more := rfl
    rw [size, set_behind, ← whole, ← whole, lexemes_of_measure here (whole _), lexemes_of_measure there (whole _)]
    refine ⟨.cons (.same ?_ ?_) all, fails⟩
    · dsimp only
      omega
    · dsimp only
      omega
  | @inside cs stop spans s i scanned mem inner ih =>
    obtain ⟨some_, stops⟩ := scan_bounds scanned
    obtain ⟨text, rest, rfl, size⟩ : ∃ text rest, cs = text ++ rest ∧ text.length + 1 = stop :=
      ⟨_, _, (List.take_append_drop (stop - 1) cs).symm, by rw [List.length_take]; omega⟩
    have scanned := scan_of_append scanned (by omega)
    obtain ⟨laid, -⟩ := laid_of_literal (literal_of_scan scanned) rfl
    obtain ⟨low, le, high⟩ := laid.bounds mem
    have body : s.body ('\x60' :: (text ++ rest)) = s.body ('\x60' :: text) := by
      rw [← List.cons_append, Span.body, slice, List.take_append_of_le_length (by rw [List.length_cons]; omega)]
      rfl
    rw [body] at inner
    have early := (getElem?_body inner.getElem?).2
    have scanned' := scan_set scanned mem inner.lt fun found post closed => run_code inner closed
    have counted := count_set (getElem?_body inner.getElem?).1
    obtain ⟨j, place⟩ : ∃ j, s.start + i = j + 1 := ⟨s.start + i - 1, by omega⟩
    have here : measure pos '\x60' (text ++ rest) = .ok (.token .template, ('\x60' :: text).length) := by
      rw [List.length_cons, size]
      exact measure_literal pos scanned rest
    have broken : ('\x60' :: (text ++ rest)).set (s.start + i) '\n' = '\x60' :: (text.set j '\n' ++ rest) := by
      rw [place, List.set_cons_succ, List.set_append_left _ _ (by omega)]
    have broken' : ('\x60' :: text).set (s.start + i) '\n' = '\x60' :: text.set j '\n' := by
      rw [place, List.set_cons_succ]
    rw [broken'] at scanned' counted
    have there : measure pos '\x60' (text.set j '\n' ++ rest)
        = .ok (.token .template, ('\x60' :: text.set j '\n').length) := by
      rw [List.length_cons, List.length_set, size]
      exact measure_literal pos scanned' rest
    have behind : pos + (s.start + i) < pos + ('\x60' :: text).length := by
      rw [List.length_cons]
      omega
    obtain ⟨all, fails⟩ := lowered_below behind (line + ('\x60' :: text).count '\n') rest
    have whole (more : List Char) : '\x60' :: (more ++ rest) = ('\x60' :: more) ++ rest := rfl
    have length : ('\x60' :: text.set j '\n').length = ('\x60' :: text).length := by simp
    rw [Nat.add_assoc line] at all fails
    rw [broken, lexemes_of_measure here (whole _), lexemes_of_measure there (whole _), counted, length]
    refine ⟨.cons ?_ all, fails⟩
    rw [← broken']
    rw [← size] at scanned scanned'
    exact .literal scanned (broken' ▸ scanned') mem inner rfl
end Retype.Lexer
