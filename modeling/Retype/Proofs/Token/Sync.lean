import Retype.Proofs.Token.Measure

/-!
# Lexemes inside a substitution

A scan of a substitution and the lexer read the same text, and the scan knows nothing of lexemes.  They
agree all the same on what is a string, a comment, a template literal or a brace.  So behind every
lexeme of the substitution, the scan is back in its code (`sync_measure`).

There is one exception.  The lexer takes a bar and a brace for the end of an exact object type, and the
brace may be the one that closes the substitution.  That lexeme ends behind the substitution.
-/

namespace Retype.Lexer

open Template

/-! ## Plain characters -/

/-- The characters that mean nothing to a scan of code. -/
def isPlain (c : Char) : Bool :=
  c ≠ '\x27' && c ≠ '"' && c ≠ '\x60' && c ≠ '/' && c ≠ '\x7b' && c ≠ '\x7d'

section Code

variable {pos start depth : Nat} {spans : List Span} {c : Char} {cs : List Char}

theorem run_plain (plain : isPlain c) :
    Template.run pos 0 ⟨[.substitution start depth], .code, spans⟩ (c :: cs) =
      Template.run (pos + 1) 0 ⟨[.substitution start depth], .code, spans⟩ cs := by
  simp only [isPlain, Bool.and_eq_true, decide_eq_true_eq] at plain
  obtain ⟨⟨⟨⟨⟨single, double⟩, back⟩, slash⟩, opens⟩, closes⟩ := plain
  simp [Template.run, step, stepCode, single, double, back, slash, opens, closes]

theorem run_plain_append {piece : List Char} (plain : piece.all isPlain) :
    Template.run pos 0 ⟨[.substitution start depth], .code, spans⟩ (piece ++ cs) =
      Template.run (pos + piece.length) 0 ⟨[.substitution start depth], .code, spans⟩ cs := by
  induction piece generalizing pos with
  | nil => rfl
  | cons c piece ih =>
    obtain ⟨first, rest⟩ := Bool.and_eq_true_iff.mp plain
    rw [List.cons_append, run_plain first, ih rest, List.length_cons, Nat.add_assoc, Nat.add_comm 1]

theorem run_plain_drop {n : Nat} (plain : (cs.take n).all isPlain) (inside : n ≤ cs.length) :
    Template.run pos 0 ⟨[.substitution start depth], .code, spans⟩ cs =
      Template.run (pos + n) 0 ⟨[.substitution start depth], .code, spans⟩ (cs.drop n) := by
  have passes : Template.run pos 0 ⟨[.substitution start depth], .code, spans⟩
        (cs.take n ++ cs.drop n) =
      Template.run (pos + (cs.take n).length) 0 ⟨[.substitution start depth], .code, spans⟩
        (cs.drop n) := run_plain_append plain
  rwa [List.take_append_drop, List.length_take_of_le inside] at passes

end Code

/-! ## Numbers and names -/

/-- Plain characters other than the bar.  Numbers and names have no others. -/
def isInner (c : Char) : Bool := isPlain c && c ≠ '|'

theorem isInner_of_ne {c : Char} (single : c ≠ '\x27') (double : c ≠ '"') (back : c ≠ '\x60')
    (slash : c ≠ '/') (opens : c ≠ '\x7b') (closes : c ≠ '\x7d') (bar : c ≠ '|') : isInner c := by
  simp [isInner, isPlain, single, double, back, slash, opens, closes, bar]

theorem all_plain_of_inner {cs : List Char} (inner : cs.all isInner) : cs.all isPlain :=
  List.all_eq_true.mpr fun c mem => (Bool.and_eq_true_iff.mp (List.all_eq_true.mp inner c mem)).1

theorem isInner_of_isDigit {c : Char} (digit : Text.isDigit c) : isInner c := by
  refine isInner_of_ne ?_ ?_ ?_ ?_ ?_ ?_ ?_ <;> (rintro rfl; revert digit; decide)

theorem isInner_of_isRadixDigit {c : Char} (digit : isRadixDigit c) : isInner c := by
  refine isInner_of_ne ?_ ?_ ?_ ?_ ?_ ?_ ?_ <;> (rintro rfl; revert digit; decide)

theorem isInner_of_isRadixMark {c : Char} (mark : isRadixMark c) : isInner c := by
  refine isInner_of_ne ?_ ?_ ?_ ?_ ?_ ?_ ?_ <;> (rintro rfl; revert mark; decide)

theorem isInner_of_isNamePart {c : Char} (part : isNamePart c) : isInner c := by
  refine isInner_of_ne ?_ ?_ ?_ ?_ ?_ ?_ ?_ <;> (rintro rfl; revert part; decide)

theorem isInner_of_isNameStart {c : Char} (part : isNameStart c) : isInner c := by
  refine isInner_of_ne ?_ ?_ ?_ ?_ ?_ ?_ ?_ <;> (rintro rfl; revert part; decide)

theorem all_take_add {p : Char → Bool} {a b : Nat} {cs : List Char} (first : (cs.take a).all p)
    (second : ((cs.drop a).take b).all p) : (cs.take (a + b)).all p := by
  rw [List.take_add, List.all_append, first, second]
  rfl

theorem all_take_takeWhile {p q : Char → Bool} (implies : ∀ c, p c → q c) (cs : List Char) :
    (cs.take (cs.takeWhile p).length).all q := by
  rw [List.prefix_iff_eq_take.mp (List.takeWhile_prefix p) |>.symm]
  exact List.all_eq_true.mpr fun c mem => implies c (List.mem_takeWhile_imp mem)

theorem all_take_countIf {p q : Char → Bool} (implies : ∀ c, p c → q c) (cs : List Char) :
    (cs.take (countIf p cs)).all q := by
  cases cs with
  | nil => rfl
  | cons c cs =>
    rw [countIf]
    split
    next holds => simp [implies c holds]
    · rfl

theorem all_inner_withExponent {mantissa : Nat} {cs : List Char}
    (inner : (cs.take mantissa).all isInner) : (cs.take (withExponent mantissa cs)).all isInner := by
  have exponent (cs : List Char) : (cs.take (exponentLength cs)).all isInner := by
    cases cs with
    | nil => rfl
    | cons e cs =>
      simp only [exponentLength]
      split
      next mark =>
        split
        · rfl
        next =>
          have first : isInner e := by rcases mark with rfl | rfl <;> decide
          rw [Nat.add_assoc, Nat.add_comm 1, List.take_succ_cons, List.all_cons, first, Bool.true_and]
          refine all_take_add (all_take_countIf (fun c sign => ?_) cs)
            (all_take_takeWhile (fun _ => isInner_of_isDigit) _)
          simp only [Bool.or_eq_true, decide_eq_true_eq] at sign
          rcases sign with rfl | rfl <;> decide
      · rfl
  refine all_take_add (all_take_add inner (exponent _)) (all_take_countIf (fun c mark => ?_) _)
  obtain rfl := of_decide_eq_true mark
  decide

theorem all_inner_radixLength {cs : List Char} {n : Nat} (found : radixLength cs = some n) :
    (cs.take n).all isInner := by
  simp only [radixLength] at found
  split at found
  next x cs =>
    split at found
    next marked =>
      obtain rfl := Option.some.inj found
      rw [Nat.add_assoc, Nat.add_comm 2, List.take_succ_cons, List.take_succ_cons, List.all_cons,
        List.all_cons, isInner_of_isRadixMark marked.1]
      have digits := all_take_add (all_take_takeWhile (fun _ => isInner_of_isRadixDigit) cs)
        (all_take_countIf (p := (· = 'n')) (fun c mark => by obtain rfl := of_decide_eq_true mark; decide)
          (cs.drop (cs.takeWhile isRadixDigit).length))
      rw [digits]
      decide
    · cases found
  · cases found

theorem all_inner_decimalLength {cs : List Char} {n : Nat} (found : decimalLength cs = some n) :
    (cs.take n).all isInner := by
  simp only [decimalLength] at found
  split at found
  · cases found
  next rest =>
    split at found
    · cases found
    · obtain rfl := Option.some.inj found
      refine all_inner_withExponent ?_
      rw [Nat.add_comm, List.take_succ_cons, List.all_cons,
        all_take_takeWhile (fun _ => isInner_of_isDigit) rest]
      decide
  next c rest _ =>
    split at found
    next digit =>
      obtain rfl := Option.some.inj found
      refine all_inner_withExponent ?_
      generalize c :: rest = cs
      have whole : (cs.take (cs.takeWhile fun c => Text.isDigit c || c = '_').length).all isInner := by
        refine all_take_takeWhile (fun c part => ?_) cs
        rcases Bool.or_eq_true_iff.mp part with digit | mark
        · exact isInner_of_isDigit digit
        · obtain rfl := of_decide_eq_true mark
          decide
      generalize (cs.takeWhile fun c => Text.isDigit c || c = '_').length = n at whole ⊢
      have pointed := all_take_add whole (all_take_countIf (p := (· = '.'))
        (fun c mark => by obtain rfl := of_decide_eq_true mark; decide) (cs.drop n))
      refine all_take_add pointed ?_
      have digits (i : Nat) : ((cs.drop i).take ((cs.drop i).takeWhile Text.isDigit).length).all isInner :=
        all_take_takeWhile (fun _ => isInner_of_isDigit) _
      split
      next none => rw [none]; exact digits n
      next some =>
        have one : countIf (· = '.') (cs.drop n) = 1 := by
          generalize cs.drop n = after at some ⊢
          cases after <;> simp_all [countIf]
        rw [one]
        exact digits (n + 1)
    · cases found

theorem all_inner_numberLength {cs : List Char} {n : Nat} (found : numberLength cs = some n) :
    (cs.take n).all isInner := by
  simp only [numberLength] at found
  split at found
  next radix => exact all_inner_radixLength (radix.trans found)
  next => exact all_inner_decimalLength found

theorem all_inner_nameLength {cs : List Char} {n : Nat} (found : nameLength cs = some n) :
    (cs.take n).all isInner := by
  simp only [nameLength] at found
  split at found
  next c cs =>
    split at found
    next first =>
      obtain rfl := Option.some.inj found
      rw [Nat.add_comm, List.take_succ_cons, List.all_cons, isInner_of_isNameStart first,
        all_take_takeWhile (fun _ => isInner_of_isNamePart) cs]
      rfl
    · cases found
  · cases found

/-! ## Comments, strings and template literals -/

section Pieces

variable {pos start depth : Nat} {spans : List Span} {cs : List Char}

/-- A line comment ends in front of the end of the line, or of the text. -/
theorem run_lineComment :
    Template.run pos 0 ⟨[.substitution start depth], .lineComment, spans⟩ cs =
      Template.run (pos + (cs.takeWhile (· ≠ '\n')).length) 0
        ⟨[.substitution start depth], .code, spans⟩ (cs.drop (cs.takeWhile (· ≠ '\n')).length) := by
  induction cs generalizing pos with
  | nil => rfl
  | cons c cs ih =>
    by_cases ended : c = '\n'
    · subst ended
      simp [Template.run, step, stepCode]
    · simp only [Template.run, step, ended, ↓reduceIte, ih, ne_eq, decide_not, decide_false, Bool.not_false,
        List.takeWhile_cons_of_pos, List.length_cons, List.drop_succ_cons]
      rw [Nat.add_assoc, Nat.add_comm 1]

/-- A block comment ends behind its closing mark. -/
theorem run_blockComment {n : Nat} (found : blockCommentLength cs = some n) :
    Template.run pos 0 ⟨[.substitution start depth], .blockComment, spans⟩ cs =
      Template.run (pos + n) 0 ⟨[.substitution start depth], .code, spans⟩ (cs.drop n) := by
  fun_induction blockCommentLength cs generalizing n pos with
  | case1 => cases found
  | case2 cs =>
    cases found
    simp [Template.run, step]
  | case3 c cs other ih =>
    obtain ⟨m, inner, rfl⟩ := Option.map_eq_some_iff.mp found
    have stays : ¬(c = '*' ∧ cs.head? = some '/') := by
      rintro ⟨rfl, slash⟩
      obtain ⟨rest, rfl⟩ := List.head?_eq_some_iff.mp slash
      exact other rest rfl rfl
    simp only [Template.run, step, stays, ↓reduceIte, ih inner, List.drop_succ_cons]
    rw [Nat.add_assoc, Nat.add_comm 1]

/-- Where no mark closes a block comment, a scan of it has no end. -/
theorem run_blockComment_none (found : blockCommentLength cs = none) (r : Nat × List Span) :
    Template.run pos 0 ⟨[.substitution start depth], .blockComment, spans⟩ cs ≠ .ok r := by
  fun_induction blockCommentLength cs generalizing pos with
  | case1 => exact fun closed => by cases closed
  | case2 cs => cases found
  | case3 c cs other ih =>
    have stays : ¬(c = '*' ∧ cs.head? = some '/') := by
      rintro ⟨rfl, slash⟩
      obtain ⟨rest, rfl⟩ := List.head?_eq_some_iff.mp slash
      exact other rest rfl rfl
    simp only [Template.run, step, stays, ↓reduceIte]
    exact ih (Option.map_eq_none_iff.mp found)

/-- A string ends behind its closing quote. -/
theorem run_quoted {q : Char} (quote : q ≠ '\\') {body : List Char} (isBody : StringBody q body) :
    Template.run pos 0 ⟨[.substitution start depth], .quoted q, spans⟩ (body ++ q :: cs) =
      Template.run (pos + (body.length + 1)) 0 ⟨[.substitution start depth], .code, spans⟩ cs := by
  induction isBody generalizing pos with
  | nil => simp [Template.run, step]
  | plain unquoted bare line _ ih =>
    simp only [List.cons_append, Template.run, step, unquoted, bare, ↓reduceIte, ih, List.length_cons]
    rw [Nat.add_assoc, Nat.add_comm 1]
  | escape line _ ih =>
    simp only [List.cons_append, Template.run, step, quote.symm, ↓reduceIte, ih, List.length_cons]
    congr 1
    omega

/-- A scan goes through a template literal as a scan of the literal alone does. -/
theorem continues_template {c : Char} (opened : c = '\x60') :
    Continues [.substitution start depth] (.template pos) spans (pos + 1) cs (Template.scan pos (c :: cs))
      (Template.run pos 0 ⟨[.substitution start depth], .code, spans⟩ (c :: cs)) := by
  have goes : Continues [.substitution start depth] (.template pos) spans (pos + 1) cs
      (Template.run (pos + 1) 0 ⟨[] ++ [.template pos], .code, []⟩ cs)
      (Template.run (pos + 1) 0 ⟨[] ++ .template pos :: [.substitution start depth], .code, spans⟩ cs) :=
    run_append (List.cons_ne_nil _ _) [] (calm_code _)
  have opens : Template.run pos 0 ⟨[.substitution start depth], .code, spans⟩ (c :: cs) =
      Template.run (pos + 1) 0 ⟨.template pos :: [.substitution start depth], .code, spans⟩ cs := by
    subst opened
    simp [Template.run, step, stepCode]
  rw [opens]
  exact goes

/-- A template literal ends where a scan of it alone ends. -/
theorem run_template {c : Char} (opened : c = '\x60') {stop : Nat} {own : List Span}
    (closed : Template.scan pos (c :: cs) = .ok (stop, own)) :
    Template.run pos 0 ⟨[.substitution start depth], .code, spans⟩ (c :: cs) =
      Template.run stop 0 ⟨[.substitution start depth], .code, spans⟩ ((c :: cs).drop (stop - pos)) := by
  have goes : Continues [.substitution start depth] (.template pos) spans (pos + 1) cs _ _ :=
    continues_template opened
  rw [closed] at goes
  cases goes with
  | closes low marked same =>
    rw [same]
    have further : stop - pos = stop - (pos + 1) + 1 := by
      simp only [Frame.behind] at low
      omega
    rw [further, List.drop_succ_cons]
    rfl

/-- A substitution with a template literal that has no end has none, either. -/
theorem run_template_error {c : Char} (opened : c = '\x60') {e : Failure}
    (failed : Template.scan pos (c :: cs) = .error e) (r : Nat × List Span) :
    Template.run pos 0 ⟨[.substitution start depth], .code, spans⟩ (c :: cs) ≠ .ok r := by
  have goes : Continues [.substitution start depth] (.template pos) spans (pos + 1) cs _ _ :=
    continues_template opened
  rw [failed] at goes
  intro closed
  rw [closed] at goes
  cases goes

/-- A comment ends where the lexer ends it. -/
theorem run_comment {c : Char} {n : Nat} (found : commentLength (c :: cs) = some n) :
    Template.run pos 0 ⟨[.substitution start depth], .code, spans⟩ (c :: cs) =
      Template.run (pos + n) 0 ⟨[.substitution start depth], .code, spans⟩ ((c :: cs).drop n) := by
  unfold commentLength at found
  split at found
  next rest same =>
    obtain ⟨rfl, rfl⟩ := List.cons.inj same
    obtain rfl := Option.some.inj found
    have goes : Template.run pos 0 ⟨[.substitution start depth], .code, spans⟩ ('/' :: '/' :: rest) =
        Template.run (pos + 2) 0 ⟨[.substitution start depth], .lineComment, spans⟩ rest := by
      simp [Template.run, step, stepCode]
    rw [goes, run_lineComment, Nat.add_comm 2, List.drop_succ_cons, List.drop_succ_cons, Nat.add_assoc,
      Nat.add_comm 2]
  next rest same =>
    obtain ⟨rfl, rfl⟩ := List.cons.inj same
    obtain ⟨m, inner, rfl⟩ := Option.map_eq_some_iff.mp found
    have goes : Template.run pos 0 ⟨[.substitution start depth], .code, spans⟩ ('/' :: '*' :: rest) =
        Template.run (pos + 2) 0 ⟨[.substitution start depth], .blockComment, spans⟩ rest := by
      simp [Template.run, step, stepCode]
    rw [goes, run_blockComment inner, List.drop_succ_cons, List.drop_succ_cons, Nat.add_assoc,
      Nat.add_comm 2]
  · cases found

/-- A string ends where the lexer ends it. -/
theorem run_string {c : Char} {n : Nat} (found : stringLength (c :: cs) = some n) :
    Template.run pos 0 ⟨[.substitution start depth], .code, spans⟩ (c :: cs) =
      Template.run (pos + n) 0 ⟨[.substitution start depth], .code, spans⟩ ((c :: cs).drop n) := by
  simp only [stringLength] at found
  split at found
  next quote =>
    obtain ⟨m, inner, rfl⟩ := Option.map_eq_some_iff.mp found
    obtain ⟨body, rest, rfl, isBody, rfl⟩ := body_of_closingQuote inner
    have goes : Template.run pos 0 ⟨[.substitution start depth], .code, spans⟩ (c :: (body ++ c :: rest)) =
        Template.run (pos + 1) 0 ⟨[.substitution start depth], .quoted c, spans⟩ (body ++ c :: rest) := by
      rcases quote with rfl | rfl <;> simp [Template.run, step, stepCode]
    have other : c ≠ '\\' := by rcases quote with rfl | rfl <;> decide
    have dropped : (body ++ c :: rest).drop (body.length + 1) = rest := by simp
    rw [goes, run_quoted other isBody, List.drop_succ_cons, dropped, Nat.add_assoc, Nat.add_comm 1]
  · cases found

end Pieces

/-! ## Braces -/

/-- The kinds with a brace in them. -/
def isCurly : TokenKind → Bool
  | .lbrace | .rbrace | .exactLbrace | .exactRbrace => true
  | _ => false

/-- The open braces behind a lexeme, given those in front of it.  There are none if it closes the
substitution. -/
def nested : Shape → Nat → Option Nat
  | .token .lbrace, depth | .token .exactLbrace, depth => some (depth + 1)
  | .token .rbrace, 0 | .token .exactRbrace, 0 => none
  | .token .rbrace, depth + 1 | .token .exactRbrace, depth + 1 => some depth
  | _, depth => some depth

theorem nested_of_not_isCurly {k : TokenKind} (other : isCurly k = false) (depth : Nat) :
    nested (.token k) depth = some depth := by
  cases k <;> first | rfl | cases other

theorem isCurly_ofWord (s : String) : isCurly (.ofWord s) = false := by
  have words : ∀ p ∈ TokenKind.reservedWords, isCurly p.2 = false := by decide
  rw [TokenKind.ofWord]
  cases found : TokenKind.reservedWords.lookup s with
  | none => rfl
  | some k =>
    obtain ⟨_, _, same, -⟩ := List.lookup_eq_some_iff.mp found
    exact words (s, k) (by rw [same]; simp)

/-- The marks that mean something to a scan of code. -/
theorem marks_plain : ∀ m ∈ marks, m.1.all isPlain ∧ isCurly m.2 = false
    ∨ m = (['\x7b', '|'], .exactLbrace) ∨ m = (['|', '\x7d'], .exactRbrace) ∨ m = (['/', '='], .assignOp)
    ∨ m = (['\x7b'], .lbrace) ∨ m = (['\x7d'], .rbrace) ∨ m = (['/'], .divide) := by decide

/-- What a scan of a substitution makes of a lexeme.  It is in code behind the lexeme, at the depth that
the lexeme leads to, or the lexeme closes the substitution.  Then it is a brace, or a bar and a brace. -/
structure Steps (start : Nat) (spans : List Span) (pos depth : Nat) (text : List Char) (shape : Shape)
    (n : Nat) : Prop where
  further : ∀ depth', nested shape depth = some depth' →
    Template.run pos 0 ⟨[.substitution start depth], .code, spans⟩ text =
      Template.run (pos + n) 0 ⟨[.substitution start depth'], .code, spans⟩ (text.drop n)
  closes : nested shape depth = none →
    Template.run pos 0 ⟨[.substitution start depth], .code, spans⟩ text = .ok (pos, spans.reverse)
      ∨ Template.run pos 0 ⟨[.substitution start depth], .code, spans⟩ text = .ok (pos + 1, spans.reverse)
        ∧ n = 2 ∧ shape = .token .exactRbrace

section Steps

variable {pos start depth n : Nat} {spans : List Span} {c : Char} {cs : List Char} {k : TokenKind}
  {shape : Shape} {r : Nat × List Span}

theorem steps_of_eq (keeps : nested shape depth = some depth)
    (same : Template.run pos 0 ⟨[.substitution start depth], .code, spans⟩ cs =
      Template.run (pos + n) 0 ⟨[.substitution start depth], .code, spans⟩ (cs.drop n)) :
    Steps start spans pos depth cs shape n where
  further depth' nests := by
    obtain rfl : depth = depth' := Option.some.inj (keeps.symm.trans nests)
    exact same
  closes none := by
    rw [keeps] at none
    cases none

theorem run_slash {rest : List Char} (uncommented : commentLength ('/' :: rest) = none)
    (open_ : rest.head? ≠ some '*') :
    Template.run pos 0 ⟨[.substitution start depth], .code, spans⟩ ('/' :: rest) =
      Template.run (pos + 1) 0 ⟨[.substitution start depth], .code, spans⟩ rest := by
  have line : rest.head? ≠ some '/' := by
    intro slash
    obtain ⟨_, rfl⟩ := List.head?_eq_some_iff.mp slash
    cases uncommented
  simp [Template.run, step, stepCode, line, open_]

theorem steps_mark (uncommented : commentLength (c :: cs) = none) (open_ : c = '/' → cs.head? ≠ some '*')
    (found : mark? (c :: cs) = some (k, n)) : Steps start spans pos depth (c :: cs) (.token k) n := by
  unfold mark? at found
  split at found
  next rest same =>
    rw [same]
    split at found <;> cases found
    · exact steps_of_eq rfl (run_plain_drop rfl (by simp))
    · exact steps_of_eq rfl (run_plain_drop rfl (by simp))
  next =>
    obtain ⟨m, fits, same⟩ := Option.map_eq_some_iff.mp found
    cases same
    have starts : m.1.isPrefixOf (c :: cs) :=
      List.find?_some (p := fun m : List Char × TokenKind => m.1.isPrefixOf (c :: cs)) fits
    obtain ⟨rest, same⟩ := List.isPrefixOf_iff_prefix.mp starts
    have sort := marks_plain m (List.mem_of_find?_eq_some fits)
    obtain ⟨chars, kind⟩ := m
    dsimp only at same sort ⊢
    rcases sort with ⟨plain, other⟩ | sort
    · refine steps_of_eq (nested_of_not_isCurly other depth) ?_
      rw [← same, run_plain_append plain, List.drop_left]
    simp only [Prod.mk.injEq] at sort
    rcases sort with ⟨rfl, rfl⟩ | ⟨rfl, rfl⟩ | ⟨rfl, rfl⟩ | ⟨rfl, rfl⟩ | ⟨rfl, rfl⟩ | ⟨rfl, rfl⟩
    · rw [← same]
      refine ⟨fun depth' nests => ?_, fun none => by cases none⟩
      cases nests
      simp [Template.run, step, stepCode]
    · rw [← same]
      cases depth with
      | zero => exact ⟨fun depth' nests => (by cases nests), fun _ => .inr ⟨rfl, rfl, rfl⟩⟩
      | succ depth =>
        refine ⟨fun depth' nests => ?_, fun none => by cases none⟩
        cases nests
        simp [Template.run, step, stepCode]
    · rw [← same]
      exact steps_of_eq rfl (by simp [Template.run, step, stepCode])
    · rw [← same]
      refine ⟨fun depth' nests => ?_, fun none => by cases none⟩
      cases nests
      simp [Template.run, step, stepCode]
    · rw [← same]
      cases depth with
      | zero => exact ⟨fun depth' nests => (by cases nests), fun _ => .inl rfl⟩
      | succ depth =>
        refine ⟨fun depth' nests => ?_, fun none => by cases none⟩
        cases nests
        simp [Template.run, step, stepCode]
    · obtain ⟨rfl, rfl⟩ := List.cons.inj same
      exact steps_of_eq rfl (run_slash uncommented (open_ rfl))

/-- A slash and a star that open no comment are no code of a substitution. -/
theorem head?_ne_of_closed (measured : measure pos c cs = .ok (shape, n))
    (closed : Template.run pos 0 ⟨[.substitution start depth], .code, spans⟩ (c :: cs) = .ok r)
    (other : shape ≠ .comment) : c = '/' → cs.head? ≠ some '*' := by
  have uncommented := commentLength_of_measure measured other
  rintro rfl star
  obtain ⟨rest, rfl⟩ := List.head?_eq_some_iff.mp star
  have goes : Template.run (pos + 2) 0 ⟨[.substitution start depth], .blockComment, spans⟩ rest = .ok r := by
    simpa [Template.run, step, stepCode] using closed
  exact run_blockComment_none (Option.map_eq_none_iff.mp uncommented) r goes

/-- The scan of a substitution goes lexeme by lexeme. -/
theorem steps_measure (measured : measure pos c cs = .ok (shape, n))
    (open_ : shape ≠ .comment → c = '/' → cs.head? ≠ some '*') :
    Steps start spans pos depth (c :: cs) shape n := by
  cases measured_of_measure measured with
  | blank blank => exact steps_of_eq rfl (run_plain (by rcases blank with rfl | rfl | rfl <;> decide))
  | lineEnd ended => exact steps_of_eq rfl (run_plain (by subst ended; decide))
  | template opened scanned =>
    have := scan_bounds scanned
    refine steps_of_eq rfl ?_
    rw [run_template opened scanned, Nat.add_sub_cancel' (by omega)]
  | comment found => exact steps_of_eq rfl (run_comment found)
  | number _ found =>
    exact steps_of_eq rfl
      (run_plain_drop (all_plain_of_inner (all_inner_numberLength found)) (numberLength_bounds found).2)
  | string _ found => exact steps_of_eq rfl (run_string found)
  | name _ found =>
    exact steps_of_eq (nested_of_not_isCurly (isCurly_ofWord _) depth)
      (run_plain_drop (all_plain_of_inner (all_inner_nameLength ‹_›)) (nameLength_bounds ‹_›).2)
  | mark uncommented found => exact steps_mark uncommented (open_ (by simp)) found

end Steps

/-! ## Keeping step -/

/-- The scan of a substitution behind a lexeme.  It is back in code, or the lexeme starts at the
closing brace, or it is a bar and the closing brace. -/
def Synced (start : Nat) (spans : List Span) (pos : Nat) (text : List Char) (shape : Shape) (n : Nat)
    (r : Nat × List Span) : Prop :=
  (∃ depth, Template.run (pos + n) 0 ⟨[.substitution start depth], .code, spans⟩ (text.drop n) = .ok r)
    ∨ r.1 = pos ∨ (r.1 = pos + 1 ∧ n = 2 ∧ shape = .token .exactRbrace)

section Synced

variable {pos start depth n : Nat} {spans : List Span} {c : Char} {cs : List Char} {shape : Shape}
  {r : Nat × List Span}

theorem Steps.synced (steps : Steps start spans pos depth cs shape n)
    (closed : Template.run pos 0 ⟨[.substitution start depth], .code, spans⟩ cs = .ok r) :
    Synced start spans pos cs shape n r := by
  cases nests : nested shape depth with
  | some depth' => exact .inl ⟨depth', (steps.further depth' nests).symm.trans closed⟩
  | none =>
    rcases steps.closes nests with here | ⟨next, two, bar⟩
    · rw [closed] at here
      cases here
      exact .inr (.inl rfl)
    · rw [closed] at next
      cases next
      exact .inr (.inr ⟨rfl, two, bar⟩)

/-- The scan of a substitution behind a lexeme. -/
theorem sync_measure (measured : measure pos c cs = .ok (shape, n))
    (closed : Template.run pos 0 ⟨[.substitution start depth], .code, spans⟩ (c :: cs) = .ok r) :
    Synced start spans pos (c :: cs) shape n r := by
  have steps : Steps start spans pos depth (c :: cs) shape n :=
    steps_measure measured (head?_ne_of_closed measured closed)
  exact steps.synced closed

end Synced

end Retype.Lexer
