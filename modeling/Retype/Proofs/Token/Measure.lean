import Mathlib.Data.List.TakeWhile
import Retype.Proofs.Printer.StringLiteral
import Retype.Proofs.Token.Scan

/-!
# Where a lexeme ends

`Lexer.measure` says how long the lexeme is that starts a text.  It is never empty, and it never ends
behind the text (`measure_bounds`).
-/

namespace Retype.Lexer

/-! ## Comments -/

theorem length_takeWhile_le (p : Char → Bool) (cs : List Char) : (cs.takeWhile p).length ≤ cs.length :=
  (List.takeWhile_sublist p).length_le

theorem blockCommentLength_le {cs : List Char} {n : Nat} (found : blockCommentLength cs = some n) :
    n ≤ cs.length := by
  fun_induction blockCommentLength cs generalizing n with
  | case1 => simp at found
  | case2 cs => simp at found; simp [← found]
  | case3 c cs _ ih =>
    obtain ⟨m, inner, rfl⟩ := Option.map_eq_some_iff.mp found
    simpa using ih inner

theorem commentLength_bounds {cs : List Char} {n : Nat} (found : commentLength cs = some n) :
    0 < n ∧ n ≤ cs.length := by
  fun_cases commentLength cs with
  | case1 cs =>
    have := length_takeWhile_le (· ≠ '\n') cs
    simp only [commentLength, Option.some.injEq] at found
    simp only [List.length_cons]
    omega
  | case2 cs =>
    obtain ⟨m, inner, rfl⟩ := Option.map_eq_some_iff.mp found
    have := blockCommentLength_le inner
    simp only [List.length_cons]
    omega
  | case3 => simp_all [commentLength]

/-! ## Numbers -/

theorem countIf_le (p : Char → Bool) (cs : List Char) : countIf p cs ≤ cs.length := by
  cases cs with
  | nil => simp [countIf]
  | cons c cs => simp only [countIf, List.length_cons]; split <;> omega

theorem countIf_drop_le (p : Char → Bool) {n : Nat} {cs : List Char} (inside : n ≤ cs.length) :
    n + countIf p (cs.drop n) ≤ cs.length := by
  have := countIf_le p (cs.drop n)
  simp only [List.length_drop] at this
  omega

theorem takeWhile_drop_le (p : Char → Bool) {n : Nat} {cs : List Char} (inside : n ≤ cs.length) :
    n + ((cs.drop n).takeWhile p).length ≤ cs.length := by
  have := length_takeWhile_le p (cs.drop n)
  simp only [List.length_drop] at this
  omega

theorem exponentLength_le (cs : List Char) : exponentLength cs ≤ cs.length := by
  cases cs with
  | nil => simp [exponentLength]
  | cons e cs =>
    have := takeWhile_drop_le Text.isDigit (countIf_le (fun c => c = '+' || c = '-') cs)
    simp only [exponentLength, List.length_cons]
    split
    · split <;> omega
    · omega

theorem le_withExponent (mantissa : Nat) (cs : List Char) : mantissa ≤ withExponent mantissa cs := by
  simp only [withExponent]
  omega

theorem withExponent_le {mantissa : Nat} {cs : List Char} (inside : mantissa ≤ cs.length) :
    withExponent mantissa cs ≤ cs.length := by
  have exponent := exponentLength_le (cs.drop mantissa)
  rw [List.length_drop] at exponent
  exact countIf_drop_le _ (by omega)

theorem radixLength_bounds {cs : List Char} {n : Nat} (found : radixLength cs = some n) :
    0 < n ∧ n ≤ cs.length := by
  simp only [radixLength] at found
  split at found
  next x cs =>
    split at found
    · have := countIf_drop_le (· = 'n') (length_takeWhile_le isRadixDigit cs)
      obtain rfl := Option.some.inj found
      simp only [List.length_cons]
      omega
    · cases found
  · cases found

theorem decimalLength_bounds {cs : List Char} {n : Nat} (found : decimalLength cs = some n) :
    0 < n ∧ n ≤ cs.length := by
  simp only [decimalLength] at found
  split at found
  · cases found
  next rest =>
    split at found
    · cases found
    · obtain rfl := Option.some.inj found
      have := length_takeWhile_le Text.isDigit rest
      exact ⟨lt_of_lt_of_le (by omega) (le_withExponent _ _), withExponent_le (by simp; omega)⟩
  next c rest _ =>
    split at found
    next digit =>
      obtain rfl := Option.some.inj found
      have whole := length_takeWhile_le (fun c => Text.isDigit c || c = '_') (c :: rest)
      have some_whole : 0 < ((c :: rest).takeWhile fun c => Text.isDigit c || c = '_').length := by
        simp [digit]
      refine ⟨lt_of_lt_of_le (by omega) (le_withExponent _ _), withExponent_le ?_⟩
      have point := countIf_drop_le (· = '.') whole
      split
      next none => simpa [none] using takeWhile_drop_le Text.isDigit whole
      next some =>
        have one : countIf (· = '.')
            ((c :: rest).drop ((c :: rest).takeWhile fun c => Text.isDigit c || c = '_').length) = 1 := by
          generalize List.drop _ (c :: rest) = after at some ⊢
          cases after <;> simp_all [countIf]
        rw [one] at point ⊢
        exact takeWhile_drop_le Text.isDigit point
    · cases found

theorem numberLength_bounds {cs : List Char} {n : Nat} (found : numberLength cs = some n) :
    0 < n ∧ n ≤ cs.length := by
  simp only [numberLength] at found
  split at found
  next radix => exact radixLength_bounds (radix.trans found)
  next => exact decimalLength_bounds found

/-! ## Strings, names and marks -/

theorem closingQuote_le {q : Char} {cs : List Char} {n : Nat} (found : closingQuote q cs = some n) :
    n ≤ cs.length := by
  obtain ⟨body, rest, rfl, -, rfl⟩ := body_of_closingQuote found
  simp

theorem stringLength_bounds {cs : List Char} {n : Nat} (found : stringLength cs = some n) :
    0 < n ∧ n ≤ cs.length := by
  simp only [stringLength] at found
  split at found
  next c cs =>
    split at found
    · obtain ⟨m, inner, rfl⟩ := Option.map_eq_some_iff.mp found
      exact ⟨Nat.succ_pos m, Nat.succ_le_succ (closingQuote_le inner)⟩
    · cases found
  · cases found

theorem nameLength_bounds {cs : List Char} {n : Nat} (found : nameLength cs = some n) :
    0 < n ∧ n ≤ cs.length := by
  simp only [nameLength] at found
  split at found
  next c cs =>
    split at found
    · have := length_takeWhile_le isNamePart cs
      obtain rfl := Option.some.inj found
      simp only [List.length_cons]
      omega
    · cases found
  · cases found

theorem marks_ne_nil : ∀ m ∈ marks, m.1 ≠ [] := by decide

theorem mark?_bounds {cs : List Char} {kind : TokenKind} {n : Nat} (found : mark? cs = some (kind, n)) :
    0 < n ∧ n ≤ cs.length := by
  simp only [mark?] at found
  split at found
  · split at found <;> cases found <;> simp
  · obtain ⟨m, fits, same⟩ := Option.map_eq_some_iff.mp found
    cases same
    have starts : m.1.isPrefixOf cs := List.find?_some (p := fun m : List Char × TokenKind => m.1.isPrefixOf cs) fits
    exact ⟨List.length_pos_iff.mpr (marks_ne_nil m (List.mem_of_find?_eq_some fits)), 
      (List.isPrefixOf_iff_prefix.mp starts).length_le⟩

/-! ## Lexemes -/

theorem scan_bounds {pos : Nat} {c : Char} {cs : List Char} {stop : Nat} {spans : List Template.Span}
    (closed : Template.scan pos (c :: cs) = .ok (stop, spans)) :
    pos + 1 < stop ∧ stop ≤ pos + 1 + cs.length := by
  obtain ⟨low, marked⟩ := Template.marked_of_run closed
  obtain ⟨inside, -⟩ := List.getElem?_eq_some_iff.mp marked
  simp only [Template.Frame.behind, List.drop_succ_cons, List.drop_zero] at low inside
  omega

/-- What the lexeme that starts a text can be. -/
inductive Measured (pos : Nat) (c : Char) (cs : List Char) : Shape → Nat → Prop where
  | blank (blank : c = ' ' ∨ c = '\t' ∨ c = '\r') : Measured pos c cs .blank 1
  | lineEnd (ended : c = '\n') : Measured pos c cs .lineEnd 1
  | template {stop : Nat} {spans : List Template.Span} (opened : c = '\x60')
      (closed : Template.scan pos (c :: cs) = .ok (stop, spans)) :
      Measured pos c cs (.token .template) (stop - pos)
  | comment {n : Nat} (found : commentLength (c :: cs) = some n) : Measured pos c cs .comment n
  | number {n : Nat} (uncommented : commentLength (c :: cs) = none)
      (found : numberLength (c :: cs) = some n) : Measured pos c cs (.token .number) n
  | string {n : Nat} (uncommented : commentLength (c :: cs) = none)
      (found : stringLength (c :: cs) = some n) : Measured pos c cs (.token .string) n
  | name {n : Nat} (uncommented : commentLength (c :: cs) = none)
      (found : nameLength (c :: cs) = some n) :
      Measured pos c cs (.token (.ofWord (String.ofList ((c :: cs).take n)))) n
  | mark {k : TokenKind} {n : Nat} (uncommented : commentLength (c :: cs) = none)
      (found : mark? (c :: cs) = some (k, n)) : Measured pos c cs (.token k) n

theorem measured_of_measure {pos : Nat} {c : Char} {cs : List Char} {shape : Shape} {n : Nat}
    (found : measure pos c cs = .ok (shape, n)) : Measured pos c cs shape n := by
  simp only [measure] at found
  split at found
  next blank => cases found; exact .blank blank
  split at found
  next ended => cases found; exact .lineEnd ended
  split at found
  next opened =>
    cases closed : Template.scan pos (c :: cs) with
    | error e => rw [closed] at found; cases found
    | ok r => rw [closed] at found; cases found; exact .template opened closed
  split at found
  next comment => cases found; exact .comment comment
  next uncommented =>
    split at found
    next number => cases found; exact .number uncommented number
    split at found
    next string => cases found; exact .string uncommented string
    split at found
    next name => cases found; exact .name uncommented name
    split at found
    next mark => cases found; exact .mark uncommented mark
    · cases found

/-- A lexeme is not empty and lies in the text. -/
theorem measure_bounds {pos : Nat} {c : Char} {cs : List Char} {shape : Shape} {n : Nat}
    (found : measure pos c cs = .ok (shape, n)) : 0 < n ∧ n ≤ cs.length + 1 := by
  cases measured_of_measure found with
  | blank | lineEnd => omega
  | template opened closed =>
    have := scan_bounds closed
    omega
  | comment found => exact commentLength_bounds found
  | number _ found => exact numberLength_bounds found
  | string _ found => exact stringLength_bounds found
  | name _ named => exact nameLength_bounds named
  | mark _ found => exact mark?_bounds found

theorem measure_comment {pos : Nat} {c : Char} {cs : List Char} {n : Nat}
    (found : commentLength (c :: cs) = some n) : measure pos c cs = .ok (.comment, n) := by
  obtain rfl : c = '/' := by
    unfold commentLength at found
    split at found
    next same => exact (List.cons.inj same).1
    next same => exact (List.cons.inj same).1
    · cases found
  simp [measure, found]

theorem commentLength_of_measure {pos : Nat} {c : Char} {cs : List Char} {shape : Shape} {n : Nat}
    (measured : measure pos c cs = .ok (shape, n)) (other : shape ≠ .comment) :
    commentLength (c :: cs) = none := by
  cases found : commentLength (c :: cs) with
  | none => rfl
  | some m =>
    rw [measure_comment found] at measured
    cases measured
    exact absurd rfl other

end Retype.Lexer
