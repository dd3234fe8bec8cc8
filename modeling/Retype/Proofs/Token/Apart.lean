import Retype.Proofs.Token.Behind
import Retype.Proofs.Token.Stream

/-!
# Substitutions that end in a bar

If the body of a substitution ends in a bar then its last token is a mark of two characters: the bar and
the closing brace, two bars, or the start of an exact object type (`barred_of_collect`).  The next token
is a piece of the template literal.  No expression ends in such a mark.  So where none of these marks
stands in front of a piece, no substitution ends in a bar (`sound_of_apart`).
-/

namespace Retype

open Lexer Expand

/-! ## Lexemes that end in a bar -/

/-- The marks that a body may have at its end if it ends in a bar. -/
def barred : TokenKind → Bool
  | .orOr | .exactLbrace | .exactRbrace => true
  | _ => false

/-- Tokens of which no such mark stands in front of a piece of a template literal. -/
def Apart (ts : List Token) : Prop := ts.IsChain fun t u => barred t.kind → goesOn u.kind = false

namespace Lexer

section Last

variable {pos n : Nat} {c : Char} {cs : List Char}

theorem ne_bar_of_inner (inner : (cs.take n).all isInner) (some_ : 0 < n) : cs[n - 1]? ≠ some '|' := by
  intro last
  have mem : '|' ∈ cs.take n := by
    refine List.mem_of_getElem? (i := n - 1) ?_
    rw [List.getElem?_take_of_lt (by omega), last]
  exact absurd (List.all_eq_true.mp inner _ mem) (by decide)

theorem last_of_blockCommentLength (found : blockCommentLength cs = some n) : cs[n - 1]? = some '/' := by
  fun_induction blockCommentLength cs generalizing n with
  | case1 => cases found
  | case2 cs =>
    cases found
    rfl
  | case3 c cs other ih =>
    obtain ⟨m, inner, rfl⟩ := Option.map_eq_some_iff.mp found
    have := two_le_blockCommentLength inner
    rw [Nat.add_sub_cancel, ← ih inner, show m = m - 1 + 1 by omega, List.getElem?_cons_succ]
    rfl

theorem not_of_getElem?_takeWhile {p : Char → Bool} (next : cs[(cs.takeWhile p).length]? = some c) :
    p c = false := by
  induction cs with
  | nil => cases next
  | cons d cs ih =>
    by_cases holds : p d
    · rw [List.takeWhile_cons_of_pos holds] at next
      exact ih next
    · rw [List.takeWhile_cons_of_neg holds] at next
      cases next
      exact Bool.eq_false_of_not_eq_true holds

/-- A comment ends in a slash, or at the end of the line. -/
theorem not_comment_of_bar (last : (c :: cs)[n - 1]? = some '|') (next : (c :: cs)[n]? = some '\x7d') :
    commentLength (c :: cs) ≠ some n := by
  intro found
  unfold commentLength at found
  split at found
  next rest same =>
    obtain rfl := Option.some.inj found
    rw [same, Nat.add_comm, List.getElem?_cons_succ, List.getElem?_cons_succ] at next
    exact absurd (not_of_getElem?_takeWhile next) (by decide)
  next rest same =>
    obtain ⟨m, inner, rfl⟩ := Option.map_eq_some_iff.mp found
    have := two_le_blockCommentLength inner
    rw [same, show m + 2 - 1 = m - 1 + 1 + 1 by omega, List.getElem?_cons_succ, List.getElem?_cons_succ,
      last_of_blockCommentLength inner] at last
    cases last
  · cases found

/-- A string ends in its quote. -/
theorem not_string_of_bar (last : (c :: cs)[n - 1]? = some '|') : stringLength (c :: cs) ≠ some n := by
  intro found
  simp only [stringLength] at found
  split at found
  next quote =>
    obtain ⟨m, inner, rfl⟩ := Option.map_eq_some_iff.mp found
    obtain ⟨body, rest, rfl, -, rfl⟩ := body_of_closingQuote inner
    have ends : (c :: (body ++ c :: rest))[body.length + 1 + 1 - 1]? = some c := by simp
    rw [ends] at last
    cases last
    simp at quote
  · cases found

theorem marks_of_bar : ∀ m ∈ marks, 0 < m.1.length
    ∧ (m.1[m.1.length - 1]? = some '|' → barred m.2 ∨ m.1 = ['|']) := by decide

/-- A bar and a brace are one mark. -/
theorem find?_marks_bar (rest : List Char) :
    marks.find? (fun m => m.1.isPrefixOf ('|' :: '\x7d' :: rest)) = some (['|', '\x7d'], .exactRbrace) := rfl

/-- A mark that ends in a bar in front of a brace. -/
theorem barred_of_mark? {k : TokenKind} (last : (c :: cs)[n - 1]? = some '|')
    (next : (c :: cs)[n]? = some '\x7d') (found : mark? (c :: cs) = some (k, n)) : barred k := by
  unfold mark? at found
  split at found
  next rest same =>
    rw [same] at last
    split at found <;> cases found <;> cases last
  next =>
    obtain ⟨m, fits, same⟩ := Option.map_eq_some_iff.mp found
    cases same
    have starts : m.1.isPrefixOf (c :: cs) :=
      List.find?_some (p := fun m : List Char × TokenKind => m.1.isPrefixOf (c :: cs)) fits
    have mem := List.mem_of_find?_eq_some fits
    obtain ⟨rest, same⟩ := List.isPrefixOf_iff_prefix.mp starts
    obtain ⟨some_, sort⟩ := marks_of_bar m mem
    rw [← same, List.getElem?_append_left (by omega)] at last
    refine (sort last).resolve_right fun alone => ?_
    rw [alone] at same next
    obtain ⟨rfl, rfl⟩ := List.cons.inj same
    obtain ⟨rest, rfl⟩ := List.head?_eq_some_iff.mp (List.head?_eq_getElem? ▸ next)
    change marks.find? (fun m => m.1.isPrefixOf ('|' :: '\x7d' :: rest)) = _ at fits
    rw [find?_marks_bar] at fits
    cases fits
    cases alone

/-- A lexeme that ends in a bar in front of a brace. -/
theorem barred_of_measure {shape : Shape} (last : (c :: cs)[n - 1]? = some '|')
    (next : (c :: cs)[n]? = some '\x7d') (measured : measure pos c cs = .ok (shape, n)) :
    ∃ k, shape = .token k ∧ barred k := by
  cases measured_of_measure measured with
  | blank blank =>
    obtain rfl := Option.some.inj last
    simp at blank
  | lineEnd ended =>
    obtain rfl := Option.some.inj last
    cases ended
  | template opened closed =>
    rename_i stop _
    obtain ⟨low, marked⟩ := Template.marked_of_run closed
    simp only [Template.Frame.behind, List.drop_succ_cons, List.drop_zero] at low marked
    rw [show stop - pos - 1 = stop - (pos + 1) - 1 + 1 by omega, List.getElem?_cons_succ, marked] at last
    cases last
  | comment found => exact absurd found (not_comment_of_bar last next)
  | number uncommented found =>
    exact absurd last (ne_bar_of_inner (all_inner_numberLength found) (numberLength_bounds found).1)
  | string uncommented found => exact absurd found (not_string_of_bar last)
  | name uncommented found =>
    exact absurd last (ne_bar_of_inner (all_inner_nameLength found) (nameLength_bounds found).1)
  | mark uncommented found => exact ⟨_, rfl, barred_of_mark? last next found⟩

end Last

end Lexer

namespace Expand

open Template (Span scanSubstitution)

/-! ## The last token of a body -/

/-- The last token of a body that ends in a bar. -/
theorem barred_of_collect {text : List Char} {read : Reader} (reads : read.Orders text) {pos line : Nat}
    {cs left : List Char} {ls : List Lexeme} (cut : Cut pos line cs ls left) (same : text.drop pos = cs)
    {front post : List Char} (bar : cs = front ++ '|' :: '\x7d' :: post) {start depth : Nat} {spans own : List Span}
    (closed : Template.run pos 0 ⟨[.substitution start depth], .code, spans⟩ cs
      = .ok (pos + front.length + 1, own)) {failure : Option Failure} (done : failure = none → left = [])
    {found : Lexed} (collected : collect read (some (pos + front.length + 1)) failure ls = .ok found) :
    ∃ t, found.tokens.getLast? = some t ∧ barred t.kind := by
  induction cut generalizing front depth found with
  | nil pos line cs =>
    cases failure with
    | some e => cases collected
    | none =>
      rw [done rfl] at bar
      simp at bar
  | @cons pos line c cs piece more left shape ls measured whole further ih =>
    have dropped : (c :: cs).drop piece.length = more := by rw [whole, List.drop_left]
    have step : InStep (some (pos + front.length + 1)) pos (c :: cs) := by
      rintro _ ⟨⟩
      exact .inr ⟨_, _, _, _, closed⟩
    have rest {found : Lexed} (collected : collect read (some (pos + front.length + 1)) failure ls = .ok found) :
        Placed (pos + piece.length) (some (pos + front.length + 1)) found.tokens :=
      placed_collect reads further (by rw [← List.drop_drop, same, dropped]) (dropped ▸ step.next measured)
        collected
    have stops (s : Nat) (mem : s ∈ some (pos + front.length + 1)) : pos < s := by
      cases mem
      omega
    have collects := collects_of_collect collected
    generalize found.tokens = ts at collects ⊢
    -- A lexeme that reaches the end of the body, so no other token starts in front of the brace.
    have reaches {k : TokenKind} (kind : shape = .token k) (bars : barred k) (long : front.length < piece.length) :
        ∃ t, ts.getLast? = some t ∧ barred t.kind := by
      subst kind
      cases collects with
      | skips other => cases other
      | ends token mem le =>
        have := stops _ mem
        cases token
        dsimp only at le
        omega
      | plain token other collected =>
        have placed := rest collected
        have none := List.eq_nil_iff_forall_not_mem.mpr fun u mem => by
          have low := placed.low u mem
          have high := placed.high u mem _ rfl
          omega
        cases token
        rw [none]
        exact ⟨_, rfl, bars⟩
      | literal token literal =>
        cases token
        obtain rfl : k = .template := literal
        cases bars
    rcases sync_measure measured closed with ⟨depth', closed'⟩ | here | ⟨next, two, bar'⟩
    · have le := (Template.marked_of_run closed').1
      simp only [Template.Frame.behind] at le
      rcases Nat.lt_or_ge front.length piece.length with long | short
      · have size : piece.length = front.length + 1 := by omega
        obtain ⟨k, kind, bars⟩ := barred_of_measure (by rw [bar, size]; simp) (by rw [bar, size]; simp) measured
        exact reaches kind bars long
      · obtain ⟨front', rfl, cut'⟩ : ∃ front', front = piece ++ front' ∧ more = front' ++ '|' :: '\x7d' :: post := by
          refine ⟨front.drop piece.length, ?_, ?_⟩
          · have starts : (front ++ '|' :: '\x7d' :: post).take piece.length = piece := by
              rw [← bar, whole, List.take_left]
            rw [List.take_append_of_le_length short] at starts
            conv_lhs => rw [← List.take_append_drop piece.length front, starts]
          · rw [← dropped, bar, List.drop_append_of_le_length short]
        have place : pos + (piece ++ front').length + 1 = pos + piece.length + front'.length + 1 := by
          rw [List.length_append]
          omega
        rw [dropped, place] at closed'
        have last {later : Lexed} (collected : collect read (some (pos + (piece ++ front').length + 1)) failure ls
            = .ok later) : ∃ t, later.tokens.getLast? = some t ∧ barred t.kind := by
          rw [place] at collected
          exact ih (by rw [← List.drop_drop, same, dropped]) cut' closed' done collected
        cases collects with
        | skips other collected => exact last collected
        | ends token mem le =>
          have := stops _ mem
          have := (eq_of_token? token).2.1
          dsimp only at this
          omega
        | plain token other collected =>
          obtain ⟨t, ends, bars⟩ := last collected
          exact ⟨t, by rw [List.getLast?_cons, ends]; rfl, bars⟩
        | literal token literal expands collected =>
          obtain ⟨t, ends, bars⟩ := last collected
          exact ⟨t, by rw [List.getLast?_append, ends]; rfl, bars⟩
    · dsimp only at here
      omega
    · exact reaches bar' rfl (by dsimp only at next; omega)

/-! ## Bodies that end in no bar -/

/-- The tokens of a literal stand in a row. -/
theorem infix_of_collect {read : Reader} {failure : Option Failure} {ls : List Lexeme} {found : Lexed}
    (collected : collect read none failure ls = .ok found) {l : Lexeme} (mem : l ∈ ls) {t : Token}
    (token : l.token? = some t) (literal : t.kind = .template) :
    ∃ own, template read t = .ok own ∧ own.tokens <:+: found.tokens := by
  induction ls generalizing found with
  | nil => cases mem
  | cons l' ls ih =>
    have collects := collects_of_collect collected
    generalize found.tokens = ts at collects ⊢
    rcases List.mem_cons.mp mem with rfl | later
    · cases collects with
      | skips other =>
        rw [token] at other
        cases other
      | ends _ stops => cases stops
      | plain token' other =>
        rw [token] at token'
        cases token'
        exact absurd literal other
      | literal token' _ expands =>
        rw [token] at token'
        cases token'
        exact ⟨_, expands, List.prefix_append _ _ |>.isInfix⟩
    · cases collects with
      | skips _ rest => exact ih rest later
      | ends _ stops => cases stops
      | plain _ _ rest =>
        obtain ⟨own, expands, part⟩ := ih rest later
        exact ⟨own, expands, part.trans (List.suffix_cons _ _).isInfix⟩
      | literal _ _ _ rest =>
        obtain ⟨own, expands, part⟩ := ih rest later
        exact ⟨own, expands, part.trans (List.suffix_append _ _).isInfix⟩

/-- A body that is whole if it can be read in place, and no barred mark comes in front of a piece. -/
def Reveals (text : List Char) (depth : Nat) (body : List Char) : Prop :=
  ∀ start k post found after, text.drop start = body ++ '\x7d' :: post →
    scanSubstitution start (text.drop start) = .ok (start + body.length) →
    inPlace text depth start (1 + k) (start + body.length) = .ok found → goesOn after.kind →
    Apart (found.tokens ++ [after]) → Whole body

/-- What is read of a part of the text shows whether the substitutions in it are whole. -/
theorem sound_of_collect {text cs tail : List Char} {start k depth : Nat} (same : text.drop start = cs ++ tail)
    {failure : Option Failure} {found : Lexed}
    (collected : collect (inPlace text depth) none failure (lexemes start (1 + k) 0 cs).1 = .ok found)
    (apart : Apart found.tokens) (shorter : ∀ body : List Char, body.length < cs.length → Reveals text depth body) :
    Sound cs := by
  intro l member t token literal quasis spans split s mem
  obtain ⟨spans', atPlace⟩ := exists_literalAt member token literal
  obtain ⟨-, rfl⟩ := Prod.mk.inj (Except.ok.inj (atPlace.split.symm.trans split))
  have moved := lexemes_move start k 0 1 0 cs
  rw [Nat.zero_add] at moved
  rw [moved] at collected
  have token' : (l.move start k).token? = some (t.move start k) := by rw [token?_move, token]; rfl
  obtain ⟨own, expands, part⟩ := infix_of_collect collected (List.mem_map_of_mem member) token' literal
  obtain ⟨front, before, body, after, back, readBody, rfl, -, kind, -⟩ :=
    exists_between_template (t := t.move start k) atPlace.split mem expands
  obtain ⟨before', rest, parts, offset, counted⟩ := atPlace.stands
  have inText : text.drop (t.pos + start) = t.text.toList ++ (rest ++ tail) := by
    rw [Nat.add_comm, ← List.drop_drop, same, offset, Nat.zero_add, parts, List.append_assoc, List.drop_left,
      List.append_assoc]
  obtain ⟨ends, ⟨post, inBody⟩, closed⟩ := exists_body inText atPlace.laid mem
  have line : (t.move start k).line + linesBefore (t.move start k) s.start
      = 1 + (before'.count '\n' + k + linesBefore t s.start) := by
    show t.line + k + linesBefore t s.start = _
    omega
  have goes : goesOn after.kind := by rcases kind with kind | kind <;> rw [kind] <;> rfl
  rw [line] at readBody
  refine shorter _ (atPlace.body_lt mem) _ _ post body after inBody closed (ends ▸ readBody) goes ?_
  have own := List.IsChain.infix apart part
  refine List.IsChain.infix own ?_
  exact ⟨front.tokens ++ [before], back.tokens, by simp [join]⟩

/-- A body that is read in front of a piece. -/
theorem reveals (text : List Char) {depth : Nat} {body : List Char} (deep : body.length < depth) :
    Reveals text depth body := by
  induction n : body.length using Nat.strongRecOn generalizing body depth with
  | _ n ih =>
    subst n
    intro start k post found after same closed expanded piece apart
    obtain ⟨depth, rfl⟩ := Nat.exists_eq_succ_of_ne_zero (Nat.ne_zero_of_lt deep)
    obtain ⟨own, scanned⟩ := Template.scanSubstitution_eq_ok_iff.mp closed
    obtain ⟨front, -, last⟩ := List.isChain_append.mp apart
    rw [inPlace, expand] at expanded
    have bare : body.getLast? ≠ some '|' := by
      intro ends
      obtain ⟨shorter, rfl⟩ := List.getLast?_eq_some_iff.mp ends
      obtain ⟨left, cut, done⟩ := cut_lexemes start (1 + k) (text.drop start)
      have bar : text.drop start = shorter ++ '|' :: '\x7d' :: post := by rw [same, List.append_assoc]; rfl
      rw [List.length_append, ← Nat.add_assoc] at scanned expanded
      obtain ⟨t, isLast, bars⟩ :=
        barred_of_collect (orders_inPlace text depth) cut rfl bar scanned done expanded
      rw [last t isLast after rfl bars] at piece
      cases piece
    rw [same] at scanned expanded
    obtain ⟨more, failure, cut, behind⟩ := lexemes_brace (1 + k) scanned bare
    rw [cut, collect_until (lexemes_pos_lt start (1 + k) body) (collect_behind behind)] at expanded
    refine whole_iff.mpr ⟨bare, sound_of_collect same expanded front fun inner short => ?_⟩
    exact ih _ short (Nat.lt_of_lt_of_le short (Nat.le_of_lt_succ deep)) rfl

/-- If no barred mark stands in front of a piece then the substitutions of a text are whole. -/
theorem sound_of_apart {text : List Char} {depth : Nat} (deep : text.length < depth) {found : Lexed}
    (expanded : expand text depth 0 1 none = .ok found) (apart : Apart found.tokens) : Sound text := by
  obtain ⟨depth, rfl⟩ := Nat.exists_eq_succ_of_ne_zero (Nat.ne_zero_of_lt deep)
  have same : text.drop 0 = text ++ [] := by rw [List.drop_zero, List.append_nil]
  refine sound_of_collect (k := 0) same expanded apart fun body short => ?_
  exact reveals text (Nat.lt_of_lt_of_le short (Nat.le_of_lt_succ deep))

end Expand

namespace Stream

open Semicolon Context

/-! ## The tokens that the parser reads -/

theorem barred_of_settles {k l : TokenKind} (settles : Settles k l) : barred l = barred k := by
  cases settles <;> rfl

theorem apart_retags {ts us : List Token} (retags : List.Forall₂ Retags ts us) (apart : Apart us) : Apart ts := by
  have kinds (ts : List Token) : Apart ts
      ↔ (ts.map fun t => (barred t.kind, goesOn t.kind)).IsChain fun p q => p.1 → q.2 = false := by
    rw [List.isChain_map]
    rfl
  have same : (ts.map fun t => (barred t.kind, goesOn t.kind)) = us.map fun t => (barred t.kind, goesOn t.kind) := by
    refine List.forall₂_eq_eq_eq ▸ List.forall₂_map_left_iff.mpr (List.forall₂_map_right_iff.mpr (retags.imp ?_))
    rintro t u ⟨-, settles⟩
    rw [barred_of_settles settles, goesOn_of_settles settles]
  rw [kinds] at apart ⊢
  rwa [same]

theorem apart_of_fill (s : Setting) {prev : Token} {ts : List Token} (apart : Apart (prev :: fill s prev ts)) :
    Apart (prev :: ts) := by
  induction ts generalizing s prev with
  | nil => exact List.isChain_singleton _
  | cons t ts ih =>
    rw [fill] at apart
    split at apart
    next missing =>
      obtain ⟨-, rest⟩ := List.isChain_cons_cons.mp apart
      obtain ⟨-, rest⟩ := List.isChain_cons_cons.mp rest
      exact List.isChain_cons_cons.mpr ⟨fun _ => goesOn_of_missingIn missing, ih _ rest⟩
    next =>
      obtain ⟨first, rest⟩ := List.isChain_cons_cons.mp apart
      exact List.isChain_cons_cons.mpr ⟨first, ih _ rest⟩

/-- Settled kinds and inserted semicolons bring no mark and no piece together or apart. -/
theorem apart_of_insertAll {ts : List Token} (apart : Apart (insertAll (classify ts))) : Apart ts := by
  refine apart_retags (retags_classify ts) ?_
  generalize classify ts = us at apart ⊢
  cases us with
  | nil => exact .nil
  | cons t us =>
    rw [insertAll_eq_fill] at apart
    exact apart_of_fill _ apart

end Stream

end Retype
