import Retype.Printer.Layout
import Retype.Token.Lexer

/-!
# The quotes of a string

A string of the source stands between single or between double quotes, and is printed between
double ones.  The printer takes the backslash off a single quote and puts one in front of a double
quote.  It does so character by character and reads no escapes.

A *body* is what stands between the quotes.  `StringBody` says which texts are bodies, and
`Lexer.stringLength` measures exactly the strings that are made of them.  `stringValue` is what a
string denotes: the code units that are left when its escapes are read.  A reader goes over the body
one character at a time, and its state says which escape is under way.

The printed string is a string again, and denotes the same, unless the body escapes a double quote.
That escape is not needed between single quotes, but it is allowed.  The printer puts a second
backslash in front of the quote, the two backslashes are read as one character, and the quote ends
the string.
-/

namespace Retype

/-! ## Strings of the source -/

namespace Lexer

/-- What may stand between the quotes of a string: characters other than the quote, the backslash
and the line end, and any character but a line end behind a backslash. -/
inductive StringBody (q : Char) : List Char → Prop
  | nil : StringBody q []
  | plain {c : Char} {cs : List Char} (unquoted : c ≠ q) (bare : c ≠ '\\') (line : c ≠ '\n')
      (rest : StringBody q cs) : StringBody q (c :: cs)
  | escape {c : Char} {cs : List Char} (line : c ≠ '\n') (rest : StringBody q cs) :
      StringBody q ('\\' :: c :: cs)

/-- A text that is a string between the quotes `q`, from its first character to its last. -/
def IsString (q : Char) (text : List Char) : Prop :=
  ∃ body, StringBody q body ∧ text = q :: body ++ [q]

variable {q c : Char} {cs body : List Char}

theorem stringBody_cons_iff (bare : c ≠ '\\') :
    StringBody q (c :: cs) ↔ c ≠ q ∧ c ≠ '\n' ∧ StringBody q cs := by
  constructor
  · intro body
    cases body with
    | plain unquoted bare line rest => exact ⟨unquoted, line, rest⟩
    | escape line rest => exact absurd rfl bare
  · rintro ⟨unquoted, line, rest⟩
    exact .plain unquoted bare line rest

theorem stringBody_escape_iff :
    StringBody q ('\\' :: c :: cs) ↔ c ≠ '\n' ∧ StringBody q cs := by
  constructor
  · intro body
    cases body with
    | plain unquoted bare line rest => exact absurd rfl bare
    | escape line rest => exact ⟨line, rest⟩
  · rintro ⟨line, rest⟩
    exact .escape line rest

theorem closingQuote_plain (bare : c ≠ '\\') :
    closingQuote q (c :: cs)
      = if c = q then some 1 else if c = '\n' then none else (closingQuote q cs).map (· + 1) := by
  rw [closingQuote]
  · simp [bare]
  · exact fun _ _ same => absurd same bare

/-- The closing quote stands behind a body. -/
theorem closingQuote_body (quote : q ≠ '\\') (isBody : StringBody q body) (rest : List Char) :
    closingQuote q (body ++ q :: rest) = some (body.length + 1) := by
  induction isBody with
  | nil => simp [closingQuote_plain quote]
  | plain unquoted bare line _ ih => simp [closingQuote_plain bare, unquoted, line, ih]
  | escape line _ ih => simp [closingQuote, line, ih]

/-- Nothing but a body stands in front of the closing quote. -/
theorem body_of_closingQuote {n : Nat} (found : closingQuote q cs = some n) :
    ∃ body rest, cs = body ++ q :: rest ∧ StringBody q body ∧ n = body.length + 1 := by
  fun_induction closingQuote q cs generalizing n with
  | case1 => cases found
  | case2 => cases found
  | case3 c cs line ih =>
    obtain ⟨k, inner, rfl⟩ := Option.map_eq_some_iff.mp found
    obtain ⟨body, rest, rfl, isBody, rfl⟩ := ih inner
    exact ⟨'\\' :: c :: body, rest, rfl, .escape line isBody, rfl⟩
  | case4 cs _ =>
    cases found
    exact ⟨[], cs, rfl, .nil, rfl⟩
  | case5 => cases found
  | case6 c cs _ unquoted other ih =>
    obtain ⟨k, inner, rfl⟩ := Option.map_eq_some_iff.mp found
    obtain ⟨body, rest, rfl, isBody, rfl⟩ := ih inner
    obtain ⟨bare, line⟩ := not_or.mp other
    exact ⟨c :: body, rest, rfl, .plain unquoted bare line isBody, rfl⟩

theorem closingQuote_eq_length_iff (quote : q ≠ '\\') :
    closingQuote q cs = some cs.length ↔ ∃ body, StringBody q body ∧ cs = body ++ [q] := by
  constructor
  · intro found
    obtain ⟨body, rest, rfl, isBody, length⟩ := body_of_closingQuote found
    have ends : rest = [] := by simpa using length
    exact ⟨body, isBody, by rw [ends]⟩
  · rintro ⟨body, isBody, rfl⟩
    rw [closingQuote_body quote isBody, List.length_append, List.length_singleton]

/-- The lexer takes a text as one string exactly if the text is a string between quotes. -/
theorem stringLength_eq_length_iff {text : List Char} :
    stringLength text = some text.length ↔ IsString '"' text ∨ IsString '\x27' text := by
  have at_quote (q : Char) (quote : q ≠ '\\') (cs : List Char) :
      (closingQuote q cs).map (· + 1) = some (q :: cs).length ↔ IsString q (q :: cs) := by
    rw [List.length_cons, Option.map_eq_some_iff]
    simp [closingQuote_eq_length_iff quote, IsString]
  cases text with
  | nil => simp [stringLength, IsString]
  | cons c cs =>
    by_cases double : c = '"'
    · subst double
      rw [stringLength, if_pos (.inl rfl), at_quote _ (by decide)]
      simp [IsString]
    · by_cases single : c = '\x27'
      · subst single
        rw [stringLength, if_pos (.inr rfl), at_quote _ (by decide)]
        simp [IsString]
      · simp [stringLength, IsString, double, single]

end Lexer

/-! ## What a string denotes -/

/-- The code units of a code point. -/
def codeUnits (n : Nat) : List Nat :=
  if n < 0x10000 then [n]
  else [0xd800 + (n - 0x10000) / 0x400, 0xdc00 + (n - 0x10000) % 0x400]

/-- The value of a digit in a base up to sixteen. -/
def digitIn? (base : Nat) (c : Char) : Option Nat :=
  let value :=
    if '0' ≤ c ∧ c ≤ '9' then c.toNat - '0'.toNat
    else if 'a' ≤ c ∧ c ≤ 'f' then c.toNat - 'a'.toNat + 10
    else if 'A' ≤ c ∧ c ≤ 'F' then c.toNat - 'A'.toNat + 10
    else base
  if value < base then some value else none

/-- The code units of an escape that is one letter, and of a character that needs no escape. -/
def letterUnits (c : Char) : List Nat :=
  match c with
  | 'b' => [0x08]
  | 't' => [0x09]
  | 'n' => [0x0a]
  | 'v' => [0x0b]
  | 'f' => [0x0c]
  | 'r' => [0x0d]
  | c => codeUnits c.toNat

/-- Where a reader of a string is. -/
inductive Reader where
  /-- Between two characters. -/
  | ready
  /-- Behind a backslash. -/
  | escape
  /-- Behind a backslash and a carriage return.  A line feed belongs to the same line end. -/
  | lineEnd
  /-- Behind `\x`, or in the four digits behind `\u`, with digits left to read. -/
  | digits (left value : Nat)
  /-- Behind `\u`. -/
  | unicode
  /-- Behind `\u` and an opening brace, with the value of the digits so far. -/
  | braced (value : Option Nat)
  /-- Behind octal digits, with the number of digits that may follow. -/
  | octal (left value : Nat)
  deriving DecidableEq, Repr

namespace Reader

/-- Reads a character between two characters.  A string has no line end in it. -/
def readPlain (c : Char) : Option (List Nat × Reader) :=
  if c = '\\' then some ([], escape)
  else if c = '\n' ∨ c = '\r' then none
  else some (codeUnits c.toNat, ready)

/-- Reads the character behind a backslash.  A line end there is left out of the string. -/
def readEscape (c : Char) : List Nat × Reader :=
  if c = 'x' then ([], digits 2 0)
  else if c = 'u' then ([], unicode)
  else if c = '\r' then ([], lineEnd)
  else if c = '\n' ∨ c = '\u2028' ∨ c = '\u2029' then ([], ready)
  else
    match digitIn? 8 c with
    | some d => ([], octal (if d ≤ 3 then 2 else 1) d)
    | none => (letterUnits c, ready)

/-- Reads one character: the code units that are complete, and where the reader is then. -/
def step : Reader → Char → Option (List Nat × Reader)
  | ready, c => readPlain c
  | escape, c => some (readEscape c)
  | lineEnd, c => if c = '\n' then some ([], ready) else readPlain c
  | digits left value, c =>
    (digitIn? 16 c).map fun d =>
      if left ≤ 1 then ([value * 16 + d], ready) else ([], digits (left - 1) (value * 16 + d))
  | unicode, c =>
    if c = '\x7b' then some ([], braced none) else (digitIn? 16 c).map fun d => ([], digits 3 d)
  | braced value, c =>
    if c = '\x7d' then value.map fun v => (codeUnits v, ready)
    else
      (digitIn? 16 c).bind fun d =>
        let v := value.getD 0 * 16 + d
        if v ≤ 0x10ffff then some ([], braced (some v)) else none
  | octal left value, c =>
    match digitIn? 8 c with
    | some d =>
      some (if left ≤ 1 then ([value * 8 + d], ready) else ([], octal (left - 1) (value * 8 + d)))
    | none => (readPlain c).map fun r => (value :: r.1, r.2)

/-- The code units that are complete only at the end, if a string may end there. -/
def finish : Reader → Option (List Nat)
  | ready | lineEnd => some []
  | octal _ value => some [value]
  | _ => none

/-- The code units of the characters from a place on. -/
def read (r : Reader) : List Char → Option (List Nat)
  | [] => r.finish
  | c :: cs => (r.step c).bind fun next => (read next.2 cs).map (next.1 ++ ·)

end Reader

/-- What a string denotes, the quotes around it left out.  There is nothing that a string with a
malformed escape denotes. -/
def stringValue (text : List Char) : Option (List Nat) := Reader.ready.read text.tail.dropLast

/-! ## Other quotes around a body -/

namespace Reader

variable {r next : Reader} {c : Char} {out : List Nat} {cs ds : List Char}

theorem readPlain_ne_escape (bare : c ≠ '\\') (result : readPlain c = some (out, next)) :
    next ≠ escape := by
  rw [readPlain, if_neg bare] at result
  split at result
  · cases result
  · cases result
    simp

theorem readEscape_ne_escape : (readEscape c).2 ≠ escape := by
  unfold readEscape
  repeat' split
  all_goals simp

/-- A reader comes behind a backslash by a backslash only. -/
theorem step_ne_escape (outside : r ≠ escape) (bare : c ≠ '\\') (result : r.step c = some (out, next)) :
    next ≠ escape := by
  cases r with
  | ready => exact readPlain_ne_escape bare result
  | escape => exact absurd rfl outside
  | lineEnd =>
    rw [step] at result
    split at result
    · cases result
      simp
    · exact readPlain_ne_escape bare result
  | digits left value =>
    obtain ⟨d, -, found⟩ := Option.map_eq_some_iff.mp result
    split at found <;> cases found <;> simp
  | unicode =>
    rw [step] at result
    split at result
    · cases result
      simp
    · obtain ⟨d, -, found⟩ := Option.map_eq_some_iff.mp result
      cases found
      simp
  | braced value =>
    rw [step] at result
    split at result
    · obtain ⟨v, -, found⟩ := Option.map_eq_some_iff.mp result
      cases found
      simp
    · obtain ⟨d, -, found⟩ := Option.bind_eq_some_iff.mp result
      dsimp only at found
      split at found <;> cases found
      simp
  | octal left value =>
    rw [step] at result
    split at result
    · split at result <;> cases result <;> simp
    · obtain ⟨⟨units, after⟩, plain, found⟩ := Option.map_eq_some_iff.mp result
      cases found
      exact readPlain_ne_escape bare plain

/-- Outside of an escape, a backslash starts one or cannot be read. -/
theorem step_backslash (outside : r ≠ escape) (result : r.step '\\' = some (out, next)) :
    next = escape := by
  cases r with
  | escape => exact absurd rfl outside
  | braced value =>
    rw [step, if_neg (by decide), show digitIn? 16 '\\' = none by decide] at result
    cases result
  | digits | unicode => cases result
  | ready | lineEnd | octal =>
    cases result
    rfl

/-- What follows a character matters only as far as the reader gets there. -/
theorem read_cons_congr (same : ∀ out next, r.step c = some (out, next) → next.read cs = next.read ds) :
    r.read (c :: cs) = r.read (c :: ds) := by
  rw [read, read]
  cases found : r.step c with
  | none => rfl
  | some result => simp [same result.1 result.2 found]

/-- A quote is the same with a backslash in front of it as without. -/
theorem read_quote {q : Char} (quote : q = '"' ∨ q = '\x27') (outside : r ≠ escape) :
    r.read ('\\' :: q :: cs) = r.read (q :: cs) := by
  have plain : readPlain q = some (codeUnits q.toNat, ready) := by rcases quote with rfl | rfl <;> rfl
  have escaped : readEscape q = (codeUnits q.toNat, ready) := by rcases quote with rfl | rfl <;> rfl
  have noHex : digitIn? 16 q = none := by rcases quote with rfl | rfl <;> decide
  have noOctal : digitIn? 8 q = none := by rcases quote with rfl | rfl <;> decide
  have other : q ≠ '\n' ∧ q ≠ '\x7b' ∧ q ≠ '\x7d' := by rcases quote with rfl | rfl <;> decide
  have backslash : readPlain '\\' = some ([], escape) := rfl
  have backslash16 : digitIn? 16 '\\' = none := by decide
  have backslash8 : digitIn? 8 '\\' = none := by decide
  cases r with
  | escape => exact absurd rfl outside
  | ready => simp [read, step, plain, escaped, backslash, Function.comp_def]
  | lineEnd => simp [read, step, plain, escaped, backslash, other.1, Function.comp_def]
  | digits | unicode | braced =>
    -- neither the backslash nor the quote is a digit, so both sides stop
    simp [read, step, noHex, backslash16, other]
  | octal => simp [read, step, noOctal, backslash8, plain, backslash, escaped, Function.comp_def]

end Reader

namespace Printer

open Lexer (StringBody IsString)

/-- The body between double quotes of a string whose body between single quotes is given. -/
def requoted (body : List Char) : List Char := escapeDouble (unescapeSingle body)

/-- Whether a character stands behind the backslash of an escape. -/
def escapes (q : Char) : List Char → Bool
  | '\\' :: c :: cs => c = q || escapes q cs
  | _ :: cs => escapes q cs
  | [] => false

/-- A string between single quotes that escapes a double quote. -/
def escapesDouble : List Char → Bool
  | '\x27' :: body => escapes '"' body.dropLast
  | _ => false

variable {c : Char} {cs body : List Char}

theorem requoted_plain (bare : c ≠ '\\') :
    requoted (c :: cs) = if c = '"' then '\\' :: '"' :: requoted cs else c :: requoted cs := by
  rw [requoted, unescapeSingle, escapeDouble]
  · rfl
  · exact fun _ same => absurd same bare

theorem requoted_single : requoted ('\\' :: '\x27' :: cs) = '\x27' :: requoted cs := by
  rw [requoted, unescapeSingle, escapeDouble]
  rfl

/-- The backslash of an escape is none in front of what follows the escape. -/
theorem unescapeSingle_escape (other : c ≠ '\x27') (isBody : StringBody '\x27' cs) :
    unescapeSingle ('\\' :: c :: cs) = '\\' :: c :: unescapeSingle cs := by
  rw [unescapeSingle]
  · rw [unescapeSingle]
    rintro ds rfl rfl
    exact ((Lexer.stringBody_cons_iff (by decide)).mp isBody).1 rfl
  · rintro ds - same
    exact other (List.cons.inj same).1

theorem requoted_escape (other : c ≠ '\x27') (isBody : StringBody '\x27' cs) :
    requoted ('\\' :: c :: cs)
      = '\\' :: (if c = '"' then '\\' :: '"' :: requoted cs else c :: requoted cs) := by
  rw [requoted, unescapeSingle_escape other isBody, escapeDouble, if_neg (by decide), escapeDouble]
  rfl

theorem escapes_plain {q : Char} (bare : c ≠ '\\') : escapes q (c :: cs) = escapes q cs := by
  rw [escapes]
  exact fun _ _ same => absurd same bare

/-- The new body is a body between double quotes, unless a double quote was escaped. -/
theorem stringBody_requoted_iff (isBody : StringBody '\x27' body) :
    StringBody '"' (requoted body) ↔ escapes '"' body = false := by
  induction isBody with
  | nil => exact iff_of_true .nil rfl
  | plain unquoted bare line rest ih =>
    rw [requoted_plain bare, escapes_plain bare, ← ih]
    split
    next => rw [Lexer.stringBody_escape_iff]; simp
    next double => rw [Lexer.stringBody_cons_iff bare]; simp [double, line]
  | @escape c cs line rest ih =>
    rw [escapes, Bool.or_eq_false_iff, ← ih]
    by_cases single : c = '\x27'
    · subst single
      rw [requoted_single, Lexer.stringBody_cons_iff (by decide)]
      simp
    · rw [requoted_escape single rest]
      by_cases double : c = '"'
      · -- the second backslash takes the first for its own, and the quote is bare
        subst double
        rw [if_pos rfl, Lexer.stringBody_escape_iff, Lexer.stringBody_cons_iff (by decide)]
        simp
      · rw [if_neg double, Lexer.stringBody_escape_iff]
        simp [double, line]

/-- The new body denotes what the old one does, unless a double quote was escaped. -/
theorem read_requoted {r : Reader} (isBody : StringBody '\x27' body) (none : escapes '"' body = false)
    (outside : r ≠ .escape) : r.read (requoted body) = r.read body := by
  -- the reader is in the same state on both sides and never inside an escape
  induction isBody generalizing r with
  | nil => rfl
  | plain unquoted bare line rest ih =>
    rw [escapes_plain bare] at none
    have go {c : Char} {cs : List Char} (bare : c ≠ '\\')
        (ih : ∀ {r : Reader}, r ≠ .escape → r.read (requoted cs) = r.read cs) :
        r.read (c :: requoted cs) = r.read (c :: cs) :=
      Reader.read_cons_congr fun out next result => ih (Reader.step_ne_escape outside bare result)
    rw [requoted_plain bare]
    split
    next double =>
      subst double
      rw [Reader.read_quote (.inl rfl) outside]
      exact go bare (ih none)
    next => exact go bare (ih none)
  | @escape c cs line rest ih =>
    rw [escapes, Bool.or_eq_false_iff] at none
    by_cases single : c = '\x27'
    · subst single
      rw [requoted_single, Reader.read_quote (.inr rfl) outside]
      refine Reader.read_cons_congr fun out next result => ih none.2 ?_
      exact Reader.step_ne_escape outside (by decide) result
    · rw [requoted_escape single rest, if_neg (by simpa using none.1)]
      refine Reader.read_cons_congr fun out next result => ?_
      cases Reader.step_backslash outside result
      refine Reader.read_cons_congr fun out next result => ih none.2 ?_
      rw [show next = (Reader.readEscape c).2 from congrArg Prod.snd (Option.some.inj result).symm]
      exact Reader.readEscape_ne_escape

theorem isString_quoted_iff {q : Char} : IsString q (q :: body ++ [q]) ↔ StringBody q body := by
  simp [IsString]

/-- A string of the source is printed as a string between double quotes that denotes the same,
exactly if it does not escape a double quote between single ones. -/
theorem doubleQuoted_denotes_iff (raw : String)
    (matched : Lexer.stringLength raw.toList = some raw.toList.length) :
    IsString '"' (doubleQuoted raw).toList
        ∧ stringValue (doubleQuoted raw).toList = stringValue raw.toList
      ↔ escapesDouble raw.toList = false := by
  rcases Lexer.stringLength_eq_length_iff.mp matched with double | single
  · obtain ⟨body, -, text⟩ := id double
    have same : doubleQuoted raw = raw := by simp [doubleQuoted, text]
    rw [same]
    exact iff_of_true ⟨double, rfl⟩ (by simp [text, escapesDouble])
  · obtain ⟨body, isBody, text⟩ := single
    have printed : (doubleQuoted raw).toList = '"' :: requoted body ++ ['"'] := by
      simp [doubleQuoted, text, requoted]
    have values : stringValue (doubleQuoted raw).toList = Reader.ready.read (requoted body)
        ∧ stringValue raw.toList = Reader.ready.read body := by
      simp [stringValue, printed, text]
    have whole : escapesDouble raw.toList = escapes '"' body := by simp [text, escapesDouble]
    rw [values.1, values.2, printed, isString_quoted_iff, stringBody_requoted_iff isBody, whole]
    exact and_iff_left_of_imp fun none => read_requoted isBody none (by simp)

theorem doubleQuoted_denotes_mixed :
    Lexer.stringLength "'\\\\\\'\"\\x41'".toList = some 11
      ∧ IsString '"' (doubleQuoted "'\\\\\\'\"\\x41'").toList
      ∧ stringValue (doubleQuoted "'\\\\\\'\"\\x41'").toList = some [0x5c, 0x27, 0x22, 0x41] := by
  have printed := (doubleQuoted_denotes_iff "'\\\\\\'\"\\x41'" (by decide)).mpr (by decide)
  exact ⟨by decide, printed.1, printed.2.trans (by decide)⟩

/-- Between single quotes, an escaped double quote ends the printed string too early. -/
theorem doubleQuoted_splits_escaped :
    Lexer.stringLength "'\\\"'".toList = some 4
      ∧ (doubleQuoted "'\\\"'").toList = "\"\\\\\"\"".toList
      ∧ ¬ IsString '"' (doubleQuoted "'\\\"'").toList
      ∧ Lexer.stringLength (doubleQuoted "'\\\"'").toList = some 4 := by
  refine ⟨by decide, by decide, ?_, by decide⟩
  intro isString
  have whole := Lexer.stringLength_eq_length_iff.mpr (.inl isString)
  exact absurd whole (by decide)

end Printer

end Retype
