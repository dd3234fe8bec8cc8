import Mathlib.Data.List.Find
import Retype.Proofs.Token.Measure

/-!
# Lexemes in front of a border

No number, name or mark goes on with a blank, a line end or a closing brace.  So to numbers, names and
marks such a character is like the end of the text.  There is one exception: a bar and a closing brace
are one mark.

Comments, strings and template literals hold arbitrary text.  One that ends inside a text does not
depend on what is behind that text.
-/

namespace Retype.Lexer

/-! ## Numbers, names and marks -/

/-- The characters that no lexeme goes on with, unless it holds arbitrary text. -/
def isBorder (x : Char) : Bool := x = ' ' || x = '\n' || x = '\x7d'

section Border

variable {x : Char} {cs post : List Char} (border : isBorder x)
include border

theorem border_cases : x = ' ' ∨ x = '\n' ∨ x = '\x7d' := by
  simpa [isBorder, or_assoc] using border

theorem stops_of_border {p : Char → Bool} (each : ['\x7d', ' ', '\n'].all (!p ·)) : p x = false := by
  simp only [List.all_cons, Bool.and_eq_true, Bool.not_eq_true'] at each
  rcases border_cases border with rfl | rfl | rfl
  · exact each.2.1
  · exact each.2.2.1
  · exact each.1

theorem takeWhile_border {p : Char → Bool} (each : ['\x7d', ' ', '\n'].all (!p ·)) (cs post : List Char) :
    (cs ++ x :: post).takeWhile p = cs.takeWhile p := by
  induction cs with
  | nil => simp [stops_of_border border each]
  | cons c cs ih => simp only [List.cons_append, List.takeWhile_cons, ih]

theorem countIf_border {p : Char → Bool} (each : ['\x7d', ' ', '\n'].all (!p ·)) (cs post : List Char) :
    countIf p (cs ++ x :: post) = countIf p cs := by
  cases cs with
  | nil => simp [countIf, stops_of_border border each]
  | cons c cs => rfl

theorem exponentLength_border (cs post : List Char) :
    exponentLength (cs ++ x :: post) = exponentLength cs := by
  cases cs with
  | nil => rcases border_cases border with rfl | rfl | rfl <;> simp [exponentLength]
  | cons c cs =>
    simp only [List.cons_append, exponentLength]
    rw [countIf_border border (by decide), List.drop_append_of_le_length (countIf_le _ _),
      takeWhile_border border (by decide)]

theorem withExponent_border {mantissa : Nat} (inside : mantissa ≤ cs.length) :
    withExponent mantissa (cs ++ x :: post) = withExponent mantissa cs := by
  have exponent := exponentLength_le (cs.drop mantissa)
  rw [List.length_drop] at exponent
  simp only [withExponent]
  rw [List.drop_append_of_le_length inside, exponentLength_border border,
    List.drop_append_of_le_length (by omega), countIf_border border (by decide)]

theorem radixLength_border (cs post : List Char) : radixLength (cs ++ x :: post) = radixLength cs := by
  rcases cs with _ | ⟨c, _ | ⟨d, cs⟩⟩
  · rcases border_cases border with rfl | rfl | rfl <;> simp [radixLength]
  · by_cases zero : c = '0'
    · subst zero
      rcases border_cases border with rfl | rfl | rfl <;> simp [radixLength, isRadixMark]
    · simp [radixLength, zero]
  · by_cases zero : c = '0'
    · subst zero
      simp only [List.cons_append, radixLength]
      rw [takeWhile_border border (by decide), List.drop_append_of_le_length (length_takeWhile_le _ _),
        countIf_border border (by decide)]
    · simp [radixLength, zero]

theorem decimalLength_border (cs post : List Char) :
    decimalLength (cs ++ x :: post) = decimalLength cs := by
  cases cs with
  | nil =>
    have digit : Text.isDigit x = false := stops_of_border border (by decide)
    rcases border_cases border with rfl | rfl | rfl <;> simp [decimalLength, digit]
  | cons c cs =>
    by_cases point : c = '.'
    · subst point
      have := length_takeWhile_le Text.isDigit cs
      simp only [List.cons_append, decimalLength]
      rw [takeWhile_border border (by decide), ← List.cons_append,
        withExponent_border border (by rw [List.length_cons]; omega)]
    · have whole := length_takeWhile_le (fun c => Text.isDigit c || c = '_') (c :: cs)
      simp only [List.cons_append, decimalLength]
      rw [← List.cons_append]
      generalize c :: cs = ds at whole
      rw [takeWhile_border border (by decide)]
      generalize (ds.takeWhile fun c => Text.isDigit c || decide (c = '_')).length = n at whole
      rw [List.drop_append_of_le_length whole, countIf_border border (by decide),
        takeWhile_border border (by decide)]
      have pointed := countIf_drop_le (· = '.') whole
      by_cases none : countIf (· = '.') (ds.drop n) = 0
      · have fraction := takeWhile_drop_le Text.isDigit whole
        simp only [none, if_true]
        rw [withExponent_border border (by omega)]
      · have one : countIf (· = '.') (ds.drop n) = 1 := by
          generalize ds.drop n = after at none ⊢
          cases after <;> simp_all [countIf]
        rw [one] at pointed ⊢
        have fraction := takeWhile_drop_le Text.isDigit pointed
        rw [List.drop_append_of_le_length pointed, takeWhile_border border (by decide)]
        simp only [Nat.one_ne_zero, if_false]
        rw [withExponent_border border (by omega)]

theorem numberLength_border (cs post : List Char) :
    numberLength (cs ++ x :: post) = numberLength cs := by
  simp only [numberLength, radixLength_border border, decimalLength_border border]

theorem nameLength_border (cs post : List Char) : nameLength (cs ++ x :: post) = nameLength cs := by
  cases cs with
  | nil =>
    have start : isNameStart x = false := stops_of_border border (by decide)
    simp [nameLength, start]
  | cons c cs => simp only [List.cons_append, nameLength, takeWhile_border (p := isNamePart) border (by decide)]

omit border in
/-- A border inside a mark is a brace behind a bar. -/
theorem marks_border : ∀ m ∈ marks, ∀ x ∈ m.1.tail, isBorder x → m.1 = ['|', '\x7d'] := by
  have checked : (marks.all fun m => m.1.tail.all fun x => !isBorder x || m.1 == ['|', '\x7d']) = true := rfl
  intro m mem x inside border
  have here := List.all_eq_true.mp (List.all_eq_true.mp checked m mem) x inside
  rw [border] at here
  exact eq_of_beq here

theorem isPrefixOf_border {m : List Char × TokenKind} (mem : m ∈ marks) {c : Char}
    (open_ : c = '|' → cs = [] → x ≠ '\x7d') :
    m.1.isPrefixOf (c :: cs ++ x :: post) = m.1.isPrefixOf (c :: cs) := by
  rw [Bool.eq_iff_iff, List.isPrefixOf_iff_prefix, List.isPrefixOf_iff_prefix]
  refine ⟨fun starts => ?_, fun starts => starts.trans (List.prefix_append _ _)⟩
  by_cases short : m.1.length ≤ (c :: cs).length
  · exact List.prefix_of_prefix_length_le starts (List.prefix_append _ _) short
  · -- The mark goes on behind the text, so the border is in it.
    obtain ⟨more, same⟩ :=
      List.prefix_of_prefix_length_le (List.prefix_append _ (x :: post)) starts (by omega)
    obtain ⟨behind, whole⟩ := starts
    rw [← same, List.append_assoc, List.append_cancel_left_eq] at whole
    cases more with
    | nil => exact ⟨[], by simp [← same]⟩
    | cons d more =>
      obtain ⟨rfl, -⟩ := List.cons.inj whole
      have bar := marks_border m mem d (by rw [← same]; simp) border
      rw [← same] at bar
      cases cs with
      | nil =>
        obtain ⟨first, second⟩ := List.cons.inj bar
        exact absurd (List.cons.inj second).1 (open_ first rfl)
      | cons e cs => simp at bar

omit border in
theorem mark?_of_not_chain {c : Char} (chain : ¬(c = '?' ∧ cs.head? = some '.')) : mark? (c :: cs)
    = (marks.find? fun m => m.1.isPrefixOf (c :: cs)).map fun m => (m.2, m.1.length) := by
  unfold mark?
  split
  next rest same =>
    obtain ⟨rfl, rfl⟩ := List.cons.inj same
    exact absurd ⟨rfl, rfl⟩ chain
  next => rfl

theorem mark?_border {c : Char} (open_ : c = '|' → cs = [] → x ≠ '\x7d') :
    mark? (c :: cs ++ x :: post) = mark? (c :: cs) := by
  by_cases chain : c = '?' ∧ cs.head? = some '.'
  · obtain ⟨rfl, point⟩ := chain
    obtain ⟨rest, rfl⟩ := List.head?_eq_some_iff.mp point
    simp only [List.cons_append, mark?, countIf_border (p := Text.isDigit) border (by decide)]
  · have other : ¬(c = '?' ∧ (cs ++ x :: post).head? = some '.') := by
      cases cs with
      | nil =>
        rintro ⟨-, point⟩
        obtain rfl : x = '.' := Option.some.inj point
        cases border
      | cons d cs => exact chain
    rw [List.cons_append, mark?_of_not_chain chain, mark?_of_not_chain other]
    congr 1
    exact List.find?_congr fun m mem => isPrefixOf_border border mem open_

end Border

/-! ## Comments, strings and template literals -/

section Cut

variable {cs post : List Char} {n : Nat}

theorem two_le_blockCommentLength (found : blockCommentLength cs = some n) : 2 ≤ n := by
  fun_induction blockCommentLength cs generalizing n with
  | case1 => cases found
  | case2 cs =>
    cases found
    exact Nat.le_refl 2
  | case3 c cs other ih =>
    obtain ⟨m, inner, rfl⟩ := Option.map_eq_some_iff.mp found
    exact Nat.le_succ_of_le (ih inner)

theorem blockCommentLength_step {c : Char} (other : ¬(c = '*' ∧ cs.head? = some '/')) :
    blockCommentLength (c :: cs) = (blockCommentLength cs).map (· + 1) := by
  rw [blockCommentLength]
  rintro rest rfl rfl
  exact other ⟨rfl, rfl⟩

/-- A block comment that ends inside a text is one of that text. -/
theorem blockCommentLength_of_append (found : blockCommentLength (cs ++ post) = some n)
    (inside : n ≤ cs.length) : blockCommentLength cs = some n := by
  induction cs generalizing n with
  | nil =>
    have := two_le_blockCommentLength found
    simp only [List.length_nil] at inside
    omega
  | cons c cs ih =>
    by_cases ends : c = '*' ∧ cs.head? = some '/'
    · obtain ⟨rfl, slash⟩ := ends
      obtain ⟨rest, rfl⟩ := List.head?_eq_some_iff.mp slash
      exact found
    · have further : ¬(c = '*' ∧ (cs ++ post).head? = some '/') := by
        cases cs with
        | nil =>
          have := two_le_blockCommentLength found
          simp only [List.length_cons, List.length_nil] at inside
          omega
        | cons d cs => exact ends
      rw [List.cons_append, blockCommentLength_step further] at found
      rw [blockCommentLength_step ends]
      obtain ⟨m, inner, rfl⟩ := Option.map_eq_some_iff.mp found
      rw [ih inner (Nat.le_of_succ_le_succ inside)]
      rfl

theorem blockCommentLength_append (found : blockCommentLength cs = some n) (post : List Char) :
    blockCommentLength (cs ++ post) = some n := by
  fun_induction blockCommentLength cs generalizing n with
  | case1 => cases found
  | case2 cs => exact found
  | case3 c cs other ih =>
    obtain ⟨m, inner, rfl⟩ := Option.map_eq_some_iff.mp found
    have stays : ¬(c = '*' ∧ (cs ++ post).head? = some '/') := by
      cases cs with
      | nil => cases inner
      | cons d cs =>
        rintro ⟨rfl, slash⟩
        obtain rfl := Option.some.inj slash
        exact other cs rfl rfl
    rw [List.cons_append, blockCommentLength_step stays, ih inner]
    rfl

theorem commentLength_of_ne {c d : Char} (other : ¬(c = '/' ∧ (d = '/' ∨ d = '*'))) :
    commentLength (c :: d :: cs) = none := by
  unfold commentLength
  split
  next same =>
    cases same
    exact absurd ⟨rfl, .inl rfl⟩ other
  next same =>
    cases same
    exact absurd ⟨rfl, .inr rfl⟩ other
  next => rfl

/-- A comment that ends inside a text is one of that text. -/
theorem commentLength_of_append {x : Char} (border : isBorder x)
    (found : commentLength (cs ++ x :: post) = some n) (inside : n ≤ cs.length) :
    commentLength cs = some n := by
  rcases cs with _ | ⟨c, _ | ⟨d, cs⟩⟩
  · have := (commentLength_bounds found).1
    simp only [List.length_nil] at inside
    omega
  · have other : ¬(c = '/' ∧ (x = '/' ∨ x = '*')) := by
      rcases border_cases border with rfl | rfl | rfl <;> simp
    rw [List.singleton_append, commentLength_of_ne other] at found
    cases found
  by_cases line : c = '/' ∧ d = '/'
  · obtain ⟨rfl, rfl⟩ := line
    simp only [List.cons_append, commentLength, Option.some.injEq, List.length_cons] at found inside ⊢
    rw [List.takeWhile_append] at found
    split at found
    · rw [List.length_append] at found
      omega
    · exact found
  by_cases block : c = '/' ∧ d = '*'
  · obtain ⟨rfl, rfl⟩ := block
    obtain ⟨m, inner, rfl⟩ := Option.map_eq_some_iff.mp found
    have comment := blockCommentLength_of_append inner (by simpa using inside)
    simp only [commentLength, comment]
    rfl
  · have other : ¬(c = '/' ∧ (d = '/' ∨ d = '*')) :=
      fun both => both.2.elim (fun slash => line ⟨both.1, slash⟩) fun star => block ⟨both.1, star⟩
    rw [List.cons_append, List.cons_append, commentLength_of_ne other] at found
    cases found

theorem isSome_commentLength_append (found : commentLength cs = some n) (post : List Char) :
    ∃ m, commentLength (cs ++ post) = some m := by
  unfold commentLength at found
  split at found
  · exact ⟨_, rfl⟩
  · obtain ⟨m, inner, -⟩ := Option.map_eq_some_iff.mp found
    have longer := blockCommentLength_append inner post
    exact ⟨m + 2, by simp only [List.cons_append, commentLength, longer]; rfl⟩
  · cases found

/-- A string that ends inside a text is one of that text. -/
theorem stringLength_of_append (found : stringLength (cs ++ post) = some n) (inside : n ≤ cs.length) :
    stringLength cs = some n := by
  cases cs with
  | nil =>
    have := (stringLength_bounds found).1
    simp only [List.length_nil] at inside
    omega
  | cons c cs =>
    simp only [List.cons_append, stringLength] at found ⊢
    split at found
    next quote =>
      have other : c ≠ '\\' := by rcases quote with rfl | rfl <;> decide
      obtain ⟨m, inner, rfl⟩ := Option.map_eq_some_iff.mp found
      obtain ⟨body, rest, same, isBody, rfl⟩ := body_of_closingQuote inner
      have starts : body ++ [c] <+: cs ++ post := ⟨rest, by simp [same]⟩
      obtain ⟨more, rfl⟩ := List.prefix_of_prefix_length_le starts (List.prefix_append cs post)
        (by simpa using inside)
      rw [if_pos quote, List.append_assoc, List.singleton_append, closingQuote_body other isBody]
      rfl
    · cases found

theorem stringLength_append (found : stringLength cs = some n) (post : List Char) :
    stringLength (cs ++ post) = some n := by
  cases cs with
  | nil => cases found
  | cons c cs =>
    simp only [List.cons_append, stringLength] at found ⊢
    split at found
    next quote =>
      have other : c ≠ '\\' := by rcases quote with rfl | rfl <;> decide
      obtain ⟨m, inner, rfl⟩ := Option.map_eq_some_iff.mp found
      obtain ⟨body, rest, rfl, isBody, rfl⟩ := body_of_closingQuote inner
      rw [if_pos quote, List.append_assoc, List.cons_append, closingQuote_body other isBody]
      rfl
    · cases found

/-- A template literal that ends inside a text is one of that text. -/
theorem scan_of_append {pos stop : Nat} {own : List Template.Span} {c : Char}
    (scanned : Template.scan pos (c :: (cs ++ post)) = .ok (stop, own))
    (inside : stop ≤ pos + 1 + cs.length) : Template.scan pos (c :: cs) = .ok (stop, own) := by
  have low : pos + 1 < stop := (scan_bounds scanned).1
  have alone : Template.run (pos + 1) 0 ⟨[] ++ [.template pos], .code, []⟩
      ((cs ++ post).take (stop - (pos + 1))) = .ok (stop, own) := Template.run_take (Template.calm_code _) scanned
  rw [List.take_append_of_le_length (by omega)] at alone
  have whole := Template.run_extend alone (cs.drop (stop - (pos + 1)))
  rwa [List.take_append_drop] at whole

end Cut

end Retype.Lexer
