import Retype.Proofs.Token.Brace
import Retype.Proofs.Token.Exact
import Retype.Proofs.Token.Order
import Retype.Proofs.Token.Shift

/-!
# Substitutions read alone

The code of a substitution is read in place: the text is cut from the start of the body on, far beyond
the closing brace, and what starts at the brace or behind it is left out.  Reading the body alone gives
the same tokens, comments and failures, at other offsets and on other lines (`expand_whole`).

This does not hold of all bodies.  In a body that ends in a bar the lexer takes the bar and the closing
brace for one mark, and goes on behind the substitution as if it were code.  It may find comments there.
The same holds of the substitutions inside the body, so a body is *whole* if neither it nor one of them
ends in a bar.
-/

namespace Retype.Expand

open Lexer
open Template (Span scanSubstitution)

/-! ## Up to the closing brace -/

section Collect

variable {read read' : Reader} {stop q k : Nat} {failure failure' : Option Failure} {ls more : List Lexeme}

/-- Lexemes in front of the end of a substitution are collected as if there were no end. -/
theorem collect_until (early : ∀ l ∈ ls, l.pos < stop)
    (ends : collect read (some stop) failure more = collect read none failure' []) :
    collect read (some stop) failure (ls ++ more) = collect read none failure' ls := by
  induction ls with
  | nil => exact ends
  | cons l ls ih =>
    obtain ⟨here, early⟩ := List.forall_mem_cons.mp early
    rw [List.cons_append, collect, collect, ih early]
    cases comment : l.comment? with
    | some c => rfl
    | none =>
      cases token : l.token? with
      | none => rfl
      | some t =>
        have inside : t.pos < stop := (eq_of_token? token).2.1 ▸ here
        simp [inside]

/-- Behind a whole body nothing is collected. -/
theorem collect_behind {line : Nat} {alone : Option Failure} (behind : Behind stop line alone more failure) :
    collect read (some stop) failure more = collect read none alone [] := by
  cases behind with
  | fails e => rfl
  | closes more failure =>
    rw [collect]
    simp [Lexeme.comment?, Lexeme.token?, collect]

theorem piece_move (kind : TokenKind) (text : List Char) (t : Token) (offset : Nat) :
    piece kind text (t.move q k) offset = (piece kind text t offset).move q k := by
  simp only [piece, Token.move, linesBefore, Nat.add_right_comm]

/-- The substitutions of a literal that stands somewhere else. -/
theorem substitutions_move {t : Token} {spans : List Span} {quasis : List (List Char)}
    (each : ∀ s ∈ spans, read' (t.pos + q + s.start) (t.line + k + linesBefore t s.start) (t.pos + q + s.stop)
      = shift q k (read (t.pos + s.start) (t.line + linesBefore t s.start) (t.pos + s.stop))) :
    substitutions read' (t.move q k) spans quasis = shift q k (substitutions read t spans quasis) := by
  induction spans generalizing quasis with
  | nil => rfl
  | cons s spans ih =>
    obtain ⟨here, each⟩ := List.forall_mem_cons.mp each
    cases quasis with
    | nil => rfl
    | cons p quasis =>
      have here : read' ((t.move q k).pos + s.start) ((t.move q k).line + linesBefore (t.move q k) s.start)
          ((t.move q k).pos + s.stop) = _ := here
      rw [substitutions, substitutions, ih each, here]
      cases read (t.pos + s.start) (t.line + linesBefore t s.start) (t.pos + s.stop) with
      | error e => rfl
      | ok body =>
        cases substitutions read t spans quasis with
        | error e => rfl
        | ok rest =>
          refine congrArg Except.ok ?_
          rw [join_move, join_move, piece_move]
          rfl

/-- A literal that stands somewhere else. -/
theorem template_move {t : Token} {spans : List Span} {quasis : List (List Char)}
    (split : Template.split t.text.toList = .ok (quasis, spans))
    (each : ∀ s ∈ spans, read' (t.pos + q + s.start) (t.line + k + linesBefore t s.start) (t.pos + q + s.stop)
      = shift q k (read (t.pos + s.start) (t.line + linesBefore t s.start) (t.pos + s.stop))) :
    template read' (t.move q k) = shift q k (template read t) := by
  have split' : Template.split (t.move q k).text.toList = .ok (quasis, spans) := split
  rw [template, template, split, split']
  cases spans with
  | nil => rfl
  | cons s spans =>
    cases quasis with
    | nil => rfl
    | cons p quasis =>
      have moved : substitutions read' (t.move q k) (s :: spans) quasis = _ := substitutions_move each
      simp only [bind, Except.bind, moved]
      cases substitutions read t (s :: spans) quasis with
      | error e => rfl
      | ok rest =>
        refine congrArg Except.ok ?_
        rw [join_move, piece_move]
        rfl

/-- Lexemes that stand somewhere else. -/
theorem collect_move (each : ∀ l ∈ ls, ∀ t, l.token? = some t → t.kind = .template →
      template read' (t.move q k) = shift q k (template read t)) :
    collect read' none (failure.map (Failure.move q)) (ls.map (Lexeme.move q k))
      = shift q k (collect read none failure ls) := by
  induction ls with
  | nil => cases failure <;> rfl
  | cons l ls ih =>
    obtain ⟨here, each⟩ := List.forall_mem_cons.mp each
    rw [List.map_cons, collect, collect, comment?_move, token?_move, ih each]
    cases comment : l.comment? with
    | some c =>
      cases collect read none failure ls with
      | error e => rfl
      | ok rest => exact congrArg Except.ok (join_move ⟨[], [c]⟩ rest).symm
    | none =>
      cases token : l.token? with
      | none => rfl
      | some t =>
        simp only [Option.map_some, Option.map_none, Option.any_none, Bool.false_eq_true, if_false]
        by_cases literal : t.kind = .template
        · have literal' : (t.move q k).kind = .template := literal
          rw [if_pos literal', if_pos literal, here t token literal]
          exact (shift_join _ _).symm
        · have other : (t.move q k).kind ≠ .template := literal
          rw [if_neg other, if_neg literal]
          exact (shift_join (.ok ⟨[t], []⟩) _).symm

end Collect

/-! ## Literals among lexemes -/

theorem ofWord_ne_template (s : String) : TokenKind.ofWord s ≠ .template := by
  have words : ∀ p ∈ TokenKind.reservedWords, p.2 ≠ .template := by decide
  rw [TokenKind.ofWord]
  cases found : TokenKind.reservedWords.lookup s with
  | none => decide
  | some k =>
    obtain ⟨_, _, same, -⟩ := List.lookup_eq_some_iff.mp found
    exact words (s, k) (by rw [same]; simp)

theorem marks_ne_template : ∀ m ∈ marks, m.2 ≠ .template := by decide

theorem mark?_ne_template {cs : List Char} {n : Nat} : mark? cs ≠ some (.template, n) := by
  intro found
  unfold mark? at found
  split at found
  · split at found <;> cases found
  · obtain ⟨m, fits, same⟩ := Option.map_eq_some_iff.mp found
    exact marks_ne_template m (List.mem_of_find?_eq_some fits) (Prod.mk.inj same).1

/-- A lexeme that is a template literal is one to a scan. -/
theorem scan_of_measure {pos n : Nat} {c : Char} {cs : List Char}
    (measured : measure pos c cs = .ok (.token .template, n)) :
    c = '\x60' ∧ ∃ spans, Template.scan pos (c :: cs) = .ok (pos + n, spans) := by
  generalize shape : Shape.token .template = kind at measured
  cases measured_of_measure measured with
  | template opened closed =>
    have := scan_bounds closed
    exact ⟨opened, _, by rw [closed, Nat.add_sub_cancel' (by omega)]⟩
  | name uncommented found => exact absurd (Shape.token.inj shape).symm (ofWord_ne_template _)
  | mark uncommented found =>
    obtain rfl := Shape.token.inj shape
    exact absurd found mark?_ne_template
  | blank | lineEnd | comment | number | string => cases shape

/-- A template literal in a text, with its substitutions. -/
structure LiteralAt (cs : List Char) (pos line : Nat) (t : Token) (spans : List Span) : Prop where
  stands : ∃ before after, cs = before ++ (t.text.toList ++ after) ∧ t.pos = pos + before.length
    ∧ t.line = line + before.count '\n'
  split : Template.split t.text.toList = .ok (Template.quasis t.text.toList 1 spans, spans)
  laid : Template.Laid t.text.toList t.text.toList.length 1 spans

/-- A token that is a template literal has substitutions that a scan finds. -/
theorem exists_literalAt {pos line : Nat} {cs : List Char} {l : Lexeme} {t : Token}
    (member : l ∈ (lexemes pos line 0 cs).1) (token : l.token? = some t) (literal : t.kind = .template) :
    ∃ spans, LiteralAt cs pos line t spans := by
  obtain ⟨left, cut, -⟩ := cut_lexemes pos line cs
  obtain ⟨before, c, rest, after, rfl, piece, offset, counted, measured⟩ := cut.exists_measure member
  obtain ⟨text, pos_, line_, -⟩ := eq_of_token? token
  rw [shape_of_token? token, literal] at measured
  rw [text] at piece measured
  rw [pos_] at offset measured
  rw [line_] at counted
  obtain ⟨-, spans, scanned⟩ := scan_of_measure measured
  obtain ⟨own, alone, -⟩ := Template.scan_take scanned
  rw [Nat.add_sub_cancel_left, piece, List.take_left] at alone
  refine ⟨own, ⟨before, after, by rw [piece], offset, counted⟩, ?_, ?_⟩
  · rw [Template.split, alone]
    rfl
  · exact (Template.laid_of_literal (Template.literal_of_scan alone) rfl).1

/-- The body of a substitution of a literal, in the text around the literal. -/
theorem exists_body {text lit more : List Char} {pos : Nat} (same : text.drop pos = lit ++ more)
    {spans : List Span} (laid : Template.Laid lit lit.length 1 spans) {s : Span} (mem : s ∈ spans) :
    pos + s.stop = pos + s.start + (s.body lit).length
      ∧ (∃ post, text.drop (pos + s.start) = s.body lit ++ '\x7d' :: post)
      ∧ scanSubstitution (pos + s.start) (text.drop (pos + s.start))
        = .ok (pos + s.start + (s.body lit).length) := by
  obtain ⟨low, le, high⟩ := laid.bounds mem
  have size : (s.body lit).length = s.stop - s.start := by
    rw [Template.Span.body, Template.slice, List.length_drop, List.length_take]
    omega
  have ends : pos + s.stop = pos + s.start + (s.body lit).length := by omega
  refine ⟨ends, ⟨lit.drop (s.stop + 1) ++ more, ?_⟩, ?_⟩
  · rw [← List.drop_drop, same, List.drop_append_of_le_length (by omega),
      Template.drop_eq_slice_append lit le, Template.drop_of_getElem? (laid.marked mem).2.2]
    simp [Template.Span.body]
  · rw [← ends]
    exact scanSubstitution_of_literal same (laid.closed mem)

/-- The body of a substitution is shorter than the text. -/
theorem LiteralAt.body_lt {text : List Char} {pos line : Nat} {t : Token} {spans : List Span}
    (atPlace : LiteralAt text pos line t spans) {s : Span} (mem : s ∈ spans) :
    (s.body t.text.toList).length < text.length := by
  obtain ⟨before, after, parts, -⟩ := atPlace.stands
  have long := congrArg List.length parts
  rw [List.length_append, List.length_append] at long
  have := atPlace.laid.bounds mem
  rw [Template.Span.body, Template.slice, List.length_drop, List.length_take]
  omega

theorem lexemes_pos_lt (pos line : Nat) (cs : List Char) :
    ∀ l ∈ (lexemes pos line 0 cs).1, l.pos < pos + cs.length := by
  intro l member
  obtain ⟨left, cut, -⟩ := cut_lexemes pos line cs
  exact cut.pos_lt member

theorem exists_of_shift_eq_ok {q k : Nat} {x : Except Failure Lexed} {found : Lexed}
    (shifted : shift q k x = .ok found) : ∃ own, x = .ok own ∧ found = own.move q k := by
  cases x with
  | error e => cases shifted
  | ok own =>
    cases shifted
    exact ⟨own, rfl, rfl⟩

/-! ## Whole bodies -/

/-- The body of a substitution that does not end in a bar, like the bodies of all substitutions in it. -/
inductive Whole : List Char → Prop where
  | intro {body : List Char} (bare : body.getLast? ≠ some '|')
      (inner : ∀ l ∈ (lexemes 0 1 0 body).1, ∀ t, l.token? = some t → t.kind = .template →
        ∀ quasis spans, Template.split t.text.toList = .ok (quasis, spans) →
          ∀ s ∈ spans, Whole (s.body t.text.toList)) : Whole body

/-- Reading a whole body in place is reading it alone. -/
theorem expand_whole {body : List Char} (whole : Whole body) {text post : List Char}
    {start k depth depth' : Nat} (same : text.drop start = body ++ '\x7d' :: post)
    (closed : scanSubstitution start (text.drop start) = .ok (start + body.length))
    (deep : body.length < depth) (deep' : body.length < depth') :
    expand text depth start (1 + k) (some (start + body.length))
      = shift start k (expand body depth' 0 1 none) := by
  induction whole generalizing text post start k depth depth' with
  | @intro body bare inner ih =>
    obtain ⟨d, rfl⟩ := Nat.exists_eq_succ_of_ne_zero (Nat.ne_zero_of_lt deep)
    obtain ⟨d', rfl⟩ := Nat.exists_eq_succ_of_ne_zero (Nat.ne_zero_of_lt deep')
    obtain ⟨found, scanned⟩ := Template.scanSubstitution_eq_ok_iff.mp closed
    rw [same] at scanned
    obtain ⟨more, failure, cut, behind⟩ := lexemes_brace (1 + k) scanned bare
    have early := lexemes_pos_lt start (1 + k) body
    have moved := lexemes_move start k 0 1 0 body
    rw [Nat.zero_add] at moved
    rw [expand, expand, same, cut, collect_until early (collect_behind behind), moved, List.drop_zero]
    refine collect_move fun l member t token literal => ?_
    obtain ⟨spans, atPlace⟩ := exists_literalAt member token literal
    refine template_move atPlace.split fun s mem => ?_
    obtain ⟨before, after, parts, offset, counted⟩ := atPlace.stands
    rw [Nat.zero_add] at offset
    have inBody : body.drop t.pos = t.text.toList ++ after := by rw [offset, parts, List.drop_left]
    have inText : text.drop (t.pos + start) = t.text.toList ++ (after ++ '\x7d' :: post) := by
      rw [Nat.add_comm, ← List.drop_drop, same, offset, parts, List.append_assoc, List.drop_left,
        List.append_assoc]
    -- The body of an inner substitution is read in place twice, here in the text and there in the body.
    obtain ⟨endsHere, ⟨_, hereBody⟩, closedHere⟩ := exists_body inText atPlace.laid mem
    obtain ⟨endsThere, ⟨_, thereBody⟩, closedThere⟩ := exists_body inBody atPlace.laid mem
    have short := atPlace.body_lt mem
    have line : t.line + linesBefore t s.start = 1 + (before.count '\n' + linesBefore t s.start) := by omega
    have line' : t.line + k + linesBefore t s.start = 1 + (before.count '\n' + linesBefore t s.start + k) := by
      omega
    rw [endsHere, endsThere, line, line',
      ih l member t token literal _ _ atPlace.split s mem hereBody closedHere
        (Nat.lt_of_lt_of_le short (Nat.le_of_lt_succ deep)) (Nat.lt_succ_self _),
      ih l member t token literal _ _ atPlace.split s mem thereBody closedThere
        (Nat.lt_of_lt_of_le short (Nat.le_of_lt_succ deep')) (Nat.lt_succ_self _),
      shift_shift, Nat.add_right_comm]

/-- Whether a body is whole, looking at most `depth` substitutions deep. -/
def isWhole : (depth : Nat) → List Char → Bool
  | 0, _ => false
  | depth + 1, body => body.getLast? ≠ some '|' && (lexemes 0 1 0 body).1.all fun l =>
    l.token?.all fun t => t.kind ≠ .template || (Template.split t.text.toList).toOption.all fun r =>
      r.2.all fun s => isWhole depth (s.body t.text.toList)

theorem whole_of_isWhole {depth : Nat} {body : List Char} (whole : isWhole depth body) : Whole body := by
  induction depth generalizing body with
  | zero => cases whole
  | succ depth ih =>
    rw [isWhole, Bool.and_eq_true, List.all_eq_true] at whole
    obtain ⟨bare, inner⟩ := whole
    refine .intro (of_decide_eq_true bare) fun l member t token literal quasis spans split s mem => ih ?_
    have here := inner l member
    rw [token, Option.all_some, split, Bool.or_eq_true] at here
    exact List.all_eq_true.mp (here.resolve_left (by simp [literal])) s mem

/-! ## What a substitution gives -/

/-- Reads the code of a substitution in place. -/
def inPlace (text : List Char) (depth : Nat) : Reader :=
  fun start line stop => expand text depth start line (some stop)

theorem orders_inPlace (text : List Char) (depth : Nat) : (inPlace text depth).Orders text := by
  intro start line stop body closed read
  obtain ⟨spans, closed⟩ := Template.scanSubstitution_eq_ok_iff.mp closed
  refine placed_expand depth (fun s same => ?_) read
  cases same
  exact .inr ⟨_, _, _, _, closed⟩

theorem join_assoc (a b c : Lexed) : join (join a b) c = join a (join b c) := by simp [join]

/-- The tokens in front of a substitution of a literal, but for the head of the literal. -/
def EndsInPiece (front : Lexed) : Prop :=
  front.tokens = [] ∨ ∃ ts before, front.tokens = ts ++ [before] ∧ before.kind = .templateMiddle

/-- What a substitution gives stands between a piece of the literal and the piece behind it. -/
theorem exists_between {read : Reader} {t : Token} {s : Span} {spans : List Span} {quasis : List (List Char)}
    (long : spans.length ≤ quasis.length) (mem : s ∈ spans) {found : Lexed}
    (expanded : substitutions read t spans quasis = .ok found) :
    ∃ front body after back,
      read (t.pos + s.start) (t.line + linesBefore t s.start) (t.pos + s.stop) = .ok body
        ∧ found = join front (join body (join ⟨[after], []⟩ back)) ∧ EndsInPiece front
        ∧ (after.kind = .templateMiddle ∨ after.kind = .templateTail) ∧ after.pos = t.pos + s.stop := by
  induction spans generalizing quasis found with
  | nil => cases mem
  | cons s' spans ih =>
    cases quasis with
    | nil => simp at long
    | cons p quasis =>
      obtain ⟨body, readBody, expanded⟩ := exists_of_bind_eq_ok expanded
      obtain ⟨rest, readRest, expanded⟩ := exists_of_bind_eq_ok expanded
      cases expanded
      rcases List.mem_cons.mp mem with rfl | later
      · refine ⟨{}, body, piece (if spans.isEmpty then .templateTail else .templateMiddle) p t s.stop, rest,
          readBody, ?_, .inl rfl, ?_, rfl⟩
        · rw [join_assoc]
          rfl
        · cases spans with
          | nil => exact .inr rfl
          | cons _ _ => exact .inl rfl
      · obtain ⟨front, own, after, back, readOwn, rfl, piece, kind, pos⟩ :=
          ih (by simpa using long) later readRest
        refine ⟨_, own, after, back, readOwn, (join_assoc _ front _).symm, ?_, kind, pos⟩
        rcases piece with none | ⟨ts, before, some_, middle⟩
        · refine .inr ⟨body.tokens, Expand.piece .templateMiddle p t s'.stop, ?_, rfl⟩
          cases spans with
          | nil => cases later
          | cons _ _ => simp [join, none]
        · exact .inr ⟨_, before, by rw [join, some_, ← List.append_assoc], middle⟩

/-- Reading a substitution of a literal in place is reading its body alone, and this is what stands
between the pieces of the literal. -/
structure Alone (text : List Char) (depth : Nat) (t : Token) (s : Span) : Prop where
  /-- Tokens, comments and failures are those of the body, moved to the place of the body. -/
  read : inPlace text depth (t.pos + s.start) (t.line + linesBefore t s.start) (t.pos + s.stop)
    = shift (t.pos + s.start) ((text.take (t.pos + s.start)).count '\n')
      (expand (s.body t.text.toList) ((s.body t.text.toList).length + 1) 0 1 none)
  /-- If the literal can be read then so can the body, and what it gives stands between the pieces. -/
  between : ∀ found, template (inPlace text depth) t = .ok found → ∃ own front before after back,
    expand (s.body t.text.toList) ((s.body t.text.toList).length + 1) 0 1 none = .ok own
      ∧ found = join front (join ⟨[before], []⟩ (join
        (own.move (t.pos + s.start) ((text.take (t.pos + s.start)).count '\n')) (join ⟨[after], []⟩ back)))
      ∧ (before.kind = .templateHead ∨ before.kind = .templateMiddle)
      ∧ (after.kind = .templateMiddle ∨ after.kind = .templateTail) ∧ after.pos = t.pos + s.stop

theorem exists_between_template {read : Reader} {t : Token} {s : Span} {spans : List Span}
    (split : Template.split t.text.toList = .ok (Template.quasis t.text.toList 1 spans, spans))
    (mem : s ∈ spans) {found : Lexed} (expanded : template read t = .ok found) :
    ∃ front before body after back,
      read (t.pos + s.start) (t.line + linesBefore t s.start) (t.pos + s.stop) = .ok body
        ∧ found = join front (join ⟨[before], []⟩ (join body (join ⟨[after], []⟩ back)))
        ∧ (before.kind = .templateHead ∨ before.kind = .templateMiddle)
        ∧ (after.kind = .templateMiddle ∨ after.kind = .templateTail) ∧ after.pos = t.pos + s.stop := by
  have long := Template.length_quasis t.text.toList 1 spans
  obtain ⟨_, same, expanded⟩ := exists_of_bind_eq_ok expanded
  rw [split] at same
  cases same
  generalize Template.quasis t.text.toList 1 spans = quasis at expanded long
  cases spans with
  | nil => cases mem
  | cons s' spans =>
    cases quasis with
    | nil => cases long
    | cons p quasis =>
      obtain ⟨rest, readRest, expanded⟩ := exists_of_bind_eq_ok expanded
      cases expanded
      obtain ⟨⟨_, cs⟩, own, after, back, readOwn, rfl, piece, kinds⟩ :=
        exists_between (Nat.le_of_succ_le_succ long.ge) mem readRest
      rcases piece with none | ⟨ts, before, some_, middle⟩
      · obtain rfl := none
        refine ⟨⟨[], cs⟩, Expand.piece .templateHead p t 0, own, after, back, readOwn, ?_, .inl rfl, kinds⟩
        simp [join]
      · obtain rfl := some_
        refine ⟨⟨Expand.piece .templateHead p t 0 :: ts, cs⟩, before, own, after, back, readOwn, ?_,
          .inr middle, kinds⟩
        simp [join]

/-- The number of lines in front of the body of a substitution. -/
theorem LiteralAt.line {text : List Char} {start : Nat} {t : Token} {spans : List Span}
    (atPlace : LiteralAt (text.drop start) start (1 + (text.take start).count '\n') t spans) {s : Span}
    (mem : s ∈ spans) : t.line + linesBefore t s.start = 1 + (text.take (t.pos + s.start)).count '\n' := by
  obtain ⟨before, after, parts, offset, counted⟩ := atPlace.stands
  have inside := atPlace.laid.bounds mem
  rw [counted, offset, Nat.add_assoc start, List.take_add, parts, List.take_length_add_append,
    List.take_append_of_le_length (by omega), List.count_append, List.count_append, linesBefore]
  omega

/-- Reading a substitution with a whole body in place is reading the body alone. -/
theorem LiteralAt.inPlace_eq {text : List Char} {start : Nat} {t : Token} {spans : List Span}
    (atPlace : LiteralAt (text.drop start) start (1 + (text.take start).count '\n') t spans) {s : Span}
    (mem : s ∈ spans) (whole : Whole (s.body t.text.toList)) {depth : Nat}
    (deep : (s.body t.text.toList).length < depth) :
    inPlace text depth (t.pos + s.start) (t.line + linesBefore t s.start) (t.pos + s.stop)
      = shift (t.pos + s.start) ((text.take (t.pos + s.start)).count '\n')
        (expand (s.body t.text.toList) ((s.body t.text.toList).length + 1) 0 1 none) := by
  obtain ⟨before, after, parts, offset, -⟩ := atPlace.stands
  have inText : text.drop t.pos = t.text.toList ++ after := by
    rw [offset, ← List.drop_drop, parts, List.drop_left]
  obtain ⟨ends, ⟨post, same⟩, closed⟩ := exists_body inText atPlace.laid mem
  rw [inPlace, atPlace.line mem, ends]
  exact expand_whole whole same closed deep (Nat.lt_succ_self _)

/-- A substitution with a whole body is read as if the body stood alone. -/
theorem expand_substitution {text : List Char} {start : Nat} {l : Lexeme} {t : Token}
    (member : l ∈ (lexemes start (1 + (text.take start).count '\n') 0 (text.drop start)).1)
    (token : l.token? = some t) (literal : t.kind = .template) :
    ∃ quasis spans, Template.split t.text.toList = .ok (quasis, spans)
      ∧ ∀ s ∈ spans, Whole (s.body t.text.toList) →
        ∀ depth, (s.body t.text.toList).length < depth → Alone text depth t s := by
  obtain ⟨spans, atPlace⟩ := exists_literalAt member token literal
  refine ⟨_, spans, atPlace.split, ?_⟩
  intro s mem whole depth deep
  obtain ⟨before, after, parts, offset, -⟩ := atPlace.stands
  have inText : text.drop t.pos = t.text.toList ++ after := by
    rw [offset, ← List.drop_drop, parts, List.drop_left]
  obtain ⟨ends, ⟨post, same⟩, closed⟩ := exists_body inText atPlace.laid mem
  have read : inPlace text depth (t.pos + s.start) (t.line + linesBefore t s.start) (t.pos + s.stop)
      = shift (t.pos + s.start) ((text.take (t.pos + s.start)).count '\n')
        (expand (s.body t.text.toList) ((s.body t.text.toList).length + 1) 0 1 none) := by
    rw [inPlace, atPlace.line mem, ends]
    exact expand_whole whole same closed deep (Nat.lt_succ_self _)
  refine ⟨read, ?_⟩
  intro found expanded
  obtain ⟨front, before, body, after, back, readBody, rfl, kinds⟩ :=
    exists_between_template atPlace.split mem expanded
  rw [read] at readBody
  cases alone : expand (s.body t.text.toList) ((s.body t.text.toList).length + 1) 0 1 none with
  | error e =>
    rw [alone] at readBody
    cases readBody
  | ok own =>
    rw [alone] at readBody
    cases readBody
    exact ⟨own, front, before, after, back, rfl, rfl, kinds⟩

/-- A substitution with a template literal, a nested substitution and a comment in it. -/
theorem expand_substitution_nested :
    Alone "x =\n\x60a\n$\x7b f(\x60b$\x7bc\x7d\x60) /* d */ \x7de\x60;".toList 33
        ⟨.template, "\x60a\n$\x7b f(\x60b$\x7bc\x7d\x60) /* d */ \x7de\x60", 2, 4⟩ ⟨5, 25⟩
      ∧ ((inPlace "x =\n\x60a\n$\x7b f(\x60b$\x7bc\x7d\x60) /* d */ \x7de\x60;".toList 33 9 3 29).toOption.map
        fun found => (found.tokens.map fun t => (t.kind, t.line, t.pos), found.comments))
      = some ([(.name, 3, 10), (.lparen, 3, 11), (.templateHead, 3, 12), (.name, 3, 16),
        (.templateTail, 3, 17), (.rparen, 3, 19)], [⟨21, "/* d */"⟩]) := by
  have member : ⟨.token .template, "\x60a\n$\x7b f(\x60b$\x7bc\x7d\x60) /* d */ \x7de\x60".toList, 2, 4⟩
      ∈ (lexemes 0 (1 + ("x =\n\x60a\n$\x7b f(\x60b$\x7bc\x7d\x60) /* d */ \x7de\x60;".toList.take 0).count '\n')
        0 ("x =\n\x60a\n$\x7b f(\x60b$\x7bc\x7d\x60) /* d */ \x7de\x60;".toList.drop 0)).1 := by
    decide +kernel
  obtain ⟨quasis, spans, split, alone⟩ := expand_substitution member rfl rfl
  have parts : (Template.split
      "\x60a\n$\x7b f(\x60b$\x7bc\x7d\x60) /* d */ \x7de\x60".toList).toOption.map (·.2) = some [⟨5, 25⟩] := by
    decide +kernel
  have split : Template.split "\x60a\n$\x7b f(\x60b$\x7bc\x7d\x60) /* d */ \x7de\x60".toList
      = .ok (quasis, spans) := split
  rw [split] at parts
  obtain rfl : spans = [⟨5, 25⟩] := Option.some.inj parts
  refine ⟨alone _ List.mem_cons_self ?_ 33 (by decide), by decide +kernel⟩
  have whole : isWhole 2 (Span.body "\x60a\n$\x7b f(\x60b$\x7bc\x7d\x60) /* d */ \x7de\x60".toList ⟨5, 25⟩) := by
    decide +kernel
  exact whole_of_isWhole whole

/-- A body that does not end in a bar, with a substitution in it that does.  In place, the code behind the
inner substitution is taken for a comment that reaches beyond the whole literal. -/
theorem inPlace_finds_comment_behind_bar :
    (lex "\x60$\x7b \x60$\x7ba |\x7d/*\x60 \x7d\x60 /* x */".toList).toOption
        = some ⟨[⟨.template, "\x60$\x7b \x60$\x7ba |\x7d/*\x60 \x7d\x60", 1, 0⟩], [⟨18, "/* x */"⟩]⟩
      ∧ (Span.body "\x60$\x7b \x60$\x7ba |\x7d/*\x60 \x7d\x60".toList ⟨3, 15⟩).getLast? = some ' '
      ∧ (inPlace "\x60$\x7b \x60$\x7ba |\x7d/*\x60 \x7d\x60 /* x */".toList 26 3 1 15).toOption.map (·.comments)
        = some [⟨11, "/*\x60 \x7d\x60 /* x */"⟩]
      ∧ (expand (Span.body "\x60$\x7b \x60$\x7ba |\x7d/*\x60 \x7d\x60".toList ⟨3, 15⟩) 13 0 1 none).toOption.map
        (·.comments) = some [] := by
  decide +kernel

end Retype.Expand
