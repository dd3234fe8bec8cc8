import Retype.Proofs.Token.Lowered

/-!
# Blanks behind tokens

A token that is no piece of a template literal is a lexeme of the text, or of the body of a substitution.
So a blank right behind it is one of code (`code_of_mem`).
-/

namespace Retype.Expand

open Lexer
open Template (Span)

/-- The kinds of template literals and of their pieces. -/
def isTemplate : TokenKind → Bool
  | .template | .templateHead | .templateMiddle | .templateTail => true
  | _ => false

section Mem

variable {read : Reader} {t op : Token} {found : Lexed}

theorem mem_substitutions {spans : List Span} {quasis : List (List Char)}
    (expanded : substitutions read t spans quasis = .ok found) (mem : op ∈ found.tokens)
    (plain : isTemplate op.kind = false) : ∃ s ∈ spans, ∃ body,
      read (t.pos + s.start) (t.line + linesBefore t s.start) (t.pos + s.stop) = .ok body ∧ op ∈ body.tokens := by
  induction spans generalizing quasis found with
  | nil =>
    cases expanded
    cases mem
  | cons s spans ih =>
    cases quasis with
    | nil =>
      cases expanded
      cases mem
    | cons q quasis =>
      obtain ⟨body, readBody, expanded⟩ := exists_of_bind_eq_ok expanded
      obtain ⟨rest, readRest, expanded⟩ := exists_of_bind_eq_ok expanded
      cases expanded
      simp only [join, List.mem_append, List.mem_singleton] at mem
      rcases mem with (own | rfl) | later
      · exact ⟨s, List.mem_cons_self, body, readBody, own⟩
      · cases spans <;> cases plain
      · obtain ⟨s', mem, more⟩ := ih readRest later
        exact ⟨s', List.mem_cons_of_mem _ mem, more⟩

theorem mem_template (literal : t.kind = .template) (expanded : template read t = .ok found)
    (mem : op ∈ found.tokens) (plain : isTemplate op.kind = false) :
    ∃ quasis spans, Template.split t.text.toList = .ok (quasis, spans) ∧ ∃ s ∈ spans, ∃ body,
      read (t.pos + s.start) (t.line + linesBefore t s.start) (t.pos + s.stop) = .ok body ∧ op ∈ body.tokens := by
  obtain ⟨⟨quasis, spans⟩, split, expanded⟩ := exists_of_bind_eq_ok expanded
  refine ⟨quasis, spans, split, ?_⟩
  dsimp only at expanded
  split at expanded
  · obtain ⟨rest, readRest, expanded⟩ := exists_of_bind_eq_ok expanded
    cases expanded
    rcases List.mem_cons.mp mem with rfl | later
    · cases plain
    · exact mem_substitutions readRest later plain
  · cases expanded
    rw [List.mem_singleton.mp mem, literal] at plain
    cases plain

/-- The tokens that are collected from a lexeme and from others behind it. -/
inductive Collects (read : Reader) (stop : Option Nat) (failure : Option Failure) (l : Lexeme) (ls : List Lexeme) :
    (tokens : List Token) → Prop where
  | skips {later : Lexed} (other : l.token? = none) (rest : collect read stop failure ls = .ok later) :
      Collects read stop failure l ls later.tokens
  | ends {t : Token} {s : Nat} (token : l.token? = some t) (stops : s ∈ stop) (le : s ≤ t.pos) :
      Collects read stop failure l ls []
  | plain {t : Token} {later : Lexed} (token : l.token? = some t) (other : t.kind ≠ .template)
      (rest : collect read stop failure ls = .ok later) : Collects read stop failure l ls (t :: later.tokens)
  | literal {t : Token} {own later : Lexed} (token : l.token? = some t) (literal : t.kind = .template)
      (expands : template read t = .ok own) (rest : collect read stop failure ls = .ok later) :
      Collects read stop failure l ls (own.tokens ++ later.tokens)

theorem token?_of_comment? {l : Lexeme} {c : Comment} (comment : l.comment? = some c) : l.token? = none := by
  unfold Lexeme.comment? at comment
  split at comment
  next shape => rw [Lexeme.token?, shape]
  next => cases comment

theorem collects_of_collect {stop : Option Nat} {failure : Option Failure} {l : Lexeme} {ls : List Lexeme}
    (collected : collect read stop failure (l :: ls) = .ok found) :
    Collects read stop failure l ls found.tokens := by
  rw [collect] at collected
  split at collected
  next c comment =>
    obtain ⟨later, rest, collected⟩ := exists_of_bind_eq_ok collected
    cases collected
    show Collects read stop failure l ls later.tokens
    exact .skips (token?_of_comment? comment) rest
  next none => exact .skips none collected
  next t _ token =>
    split at collected
    next late =>
      cases collected
      cases stop with
      | none => cases late
      | some s => exact .ends token rfl (of_decide_eq_true late)
    next =>
      by_cases literal : t.kind = .template
      · rw [if_pos literal] at collected
        obtain ⟨own, expands, collected⟩ := exists_of_bind_eq_ok collected
        obtain ⟨later, rest, collected⟩ := exists_of_bind_eq_ok collected
        cases collected
        exact .literal token literal expands rest
      · rw [if_neg literal] at collected
        obtain ⟨own, expands, collected⟩ := exists_of_bind_eq_ok collected
        obtain ⟨later, rest, collected⟩ := exists_of_bind_eq_ok collected
        cases expands
        cases collected
        exact .plain token literal rest

theorem mem_collect {failure : Option Failure} {ls : List Lexeme}
    (collected : collect read none failure ls = .ok found) (mem : op ∈ found.tokens) :
    ∃ l ∈ ls, ∃ t, l.token? = some t ∧ (t.kind ≠ .template ∧ op = t
      ∨ t.kind = .template ∧ ∃ own, template read t = .ok own ∧ op ∈ own.tokens) := by
  induction ls generalizing found with
  | nil =>
    cases failure <;> cases collected
    cases mem
  | cons l ls ih =>
    have later {found : Lexed} (collected : collect read none failure ls = .ok found) (mem : op ∈ found.tokens) :
        ∃ l' ∈ l :: ls, ∃ t, l'.token? = some t ∧ (t.kind ≠ .template ∧ op = t
          ∨ t.kind = .template ∧ ∃ own, template read t = .ok own ∧ op ∈ own.tokens) := by
      obtain ⟨l', member, more⟩ := ih collected mem
      exact ⟨l', List.mem_cons_of_mem _ member, more⟩
    generalize tokens : found.tokens = ts at mem
    cases tokens ▸ collects_of_collect collected with
    | skips other rest => exact later rest mem
    | ends token stops => cases stops
    | plain token other rest =>
      rcases List.mem_cons.mp mem with rfl | there
      · exact ⟨l, List.mem_cons_self, op, token, .inl ⟨other, rfl⟩⟩
      · exact later rest there
    | literal token literal expands rest =>
      rcases List.mem_append.mp mem with here | there
      · exact ⟨l, List.mem_cons_self, _, token, .inr ⟨literal, _, expands, here⟩⟩
      · exact later rest there

end Mem

/-- A blank of code behind some lexemes of a text. -/
theorem exists_code {pos line : Nat} {cs left : List Char} {ls : List Lexeme} (cut : Cut pos line cs ls left)
    {l : Lexeme} (mem : l ∈ ls) : ∃ before c rest after, cs = before ++ c :: rest ∧ c :: rest = l.text ++ after
      ∧ l.pos = pos + before.length ∧ measure 0 c rest = .ok (l.shape, l.text.length)
      ∧ ∀ i, Code (c :: rest) i → Code cs (before.length + i) := by
  induction cut with
  | nil => cases mem
  | @cons pos line c cs piece more left shape ls measured same further ih =>
    have fromStart : measure 0 c cs = .ok (shape, piece.length) := by
      rw [← Nat.zero_add pos, measure_move] at measured
      cases start : measure 0 c cs with
      | error e =>
        rw [start] at measured
        cases measured
      | ok r =>
        rw [start] at measured
        exact measured
    rcases List.mem_cons.mp mem with rfl | later
    · refine ⟨[], c, cs, more, rfl, same, rfl, fromStart, fun i code => ?_⟩
      rw [List.length_nil, Nat.zero_add]
      exact code
    · obtain ⟨before, d, rest, after, rfl, text, offset, starts, codes⟩ := ih later
      refine ⟨piece ++ before, d, rest, after, by rw [same, List.append_assoc], text, ?_, starts, fun i code => ?_⟩
      · rw [offset, List.length_append, Nat.add_assoc]
      · obtain ⟨_, front, rfl⟩ := List.exists_cons_of_length_pos (measure_bounds measured).1
        obtain ⟨rfl, rfl⟩ := List.cons.inj same
        rw [List.length_append, Nat.add_assoc]
        exact .later fromStart (codes i code)

section Behind

variable {text : List Char} {l : Lexeme} {t : Token} (member : l ∈ (lexemes 0 1 0 text).1) (token : l.token? = some t)
include member token

/-- A blank right behind a lexeme that is a token. -/
theorem code_behind : t.pos < t.endPos ∧ t.endPos ≤ text.length
    ∧ (text[t.endPos]? = some ' ' → Code text t.endPos) := by
  obtain ⟨left, cut, -⟩ := cut_lexemes 0 1 text
  obtain ⟨before, c, rest, after, rfl, piece, offset, measured, codes⟩ := exists_code cut member
  obtain ⟨chars, pos_, -, -⟩ := eq_of_token? token
  have some_ := (measure_bounds measured).1
  have place : t.endPos = before.length + l.text.length := by
    rw [Token.endPos, ← pos_, offset, chars, String.length_toList, Nat.zero_add]
  rw [place]
  refine ⟨by omega, ?_, fun blank => codes _ ?_⟩
  · rw [piece, List.length_append, List.length_append]
    omega
  · rw [List.getElem?_append_right (Nat.le_add_right _ _), Nat.add_sub_cancel_left, piece,
      List.getElem?_append_right (Nat.le_refl _), Nat.sub_self] at blank
    obtain ⟨more, rfl⟩ := List.head?_eq_some_iff.mp (List.head?_eq_getElem? ▸ blank)
    obtain ⟨_, front, text⟩ := List.exists_cons_of_length_pos some_
    rw [text] at piece measured ⊢
    obtain ⟨rfl, rfl⟩ := List.cons.inj piece
    exact .later measured .blank

/-- A blank of the code of a substitution is one of the text. -/
theorem code_inside (literal : t.kind = .template) {spans : List Span} (atPlace : LiteralAt text 0 1 t spans)
    {s : Span} (mem : s ∈ spans) {i : Nat} (code : Code (s.body t.text.toList) i) :
    Code text (t.pos + s.start + i) := by
  obtain ⟨left, cut, -⟩ := cut_lexemes 0 1 text
  obtain ⟨before, c, rest, after, -, piece, offset, measured, codes⟩ := exists_code cut member
  obtain ⟨chars, pos_, -, -⟩ := eq_of_token? token
  rw [shape_of_token? token, literal] at measured
  obtain ⟨rfl, -⟩ := scan_of_measure measured
  obtain ⟨⟨stop, own⟩, scanned, same⟩ := exists_of_bind_eq_ok atPlace.split
  obtain rfl : own = spans := (Prod.mk.inj (Except.ok.inj same)).2
  have scanned := Template.scan_append scanned after
  have body : s.body (t.text.toList ++ after) = s.body t.text.toList := by
    have := atPlace.laid.bounds mem
    rw [Template.Span.body, Template.slice, List.take_append_of_le_length (by omega)]
    rfl
  rw [← chars, ← piece] at scanned body
  rw [← pos_, offset, Nat.zero_add, Nat.add_assoc]
  refine codes _ (.inside scanned mem ?_)
  rwa [body, chars]

end Behind

/-- A blank in the text of a substitution, in front of the brace. -/
theorem LiteralAt.getElem?_body {text : List Char} {t : Token} {spans : List Span}
    (atPlace : LiteralAt text 0 1 t spans) {s : Span} (mem : s ∈ spans) {i : Nat}
    (le : i ≤ (s.body t.text.toList).length) (blank : text[t.pos + s.start + i]? = some ' ') :
    (s.body t.text.toList)[i]? = some ' ' := by
  obtain ⟨after, inText⟩ := atPlace.drop_eq
  obtain ⟨-, ⟨post, same⟩, -⟩ := exists_body inText atPlace.laid mem
  rw [← List.getElem?_drop, same] at blank
  have early : i < (s.body t.text.toList).length := by
    refine Nat.lt_of_le_of_ne le fun last => ?_
    rw [last, List.getElem?_append_right (Nat.le_refl _), Nat.sub_self] at blank
    cases blank
  rwa [List.getElem?_append_left early] at blank

/-- A blank right behind a token is one of code. -/
theorem code_of_mem {text : List Char} (sound : Sound text) {depth : Nat} (deep : text.length < depth)
    {found : Lexed} (expanded : expand text depth 0 1 none = .ok found) {op : Token} (mem : op ∈ found.tokens)
    (plain : isTemplate op.kind = false) : op.pos < op.endPos ∧ op.endPos ≤ text.length
      ∧ (text[op.endPos]? = some ' ' → Code text op.endPos) := by
  induction n : text.length using Nat.strongRecOn generalizing text depth found op with
  | _ n ih =>
    subst n
    obtain ⟨d, rfl⟩ := Nat.exists_eq_succ_of_ne_zero (Nat.ne_zero_of_lt deep)
    rw [expand, List.drop_zero] at expanded
    obtain ⟨l, member, t, token, place⟩ := mem_collect expanded mem
    rcases place with ⟨-, rfl⟩ | ⟨literal, own, expands, inside⟩
    · exact code_behind member token
    obtain ⟨spans, atPlace⟩ := exists_literalAt member token literal
    obtain ⟨_, _, split, s, within, body, readBody, inBody⟩ := mem_template literal expands inside plain
    obtain ⟨-, rfl⟩ := Prod.mk.inj (Except.ok.inj (atPlace.split.symm.trans split))
    have whole := sound l member t token literal _ _ atPlace.split s within
    have readBody : inPlace text d (t.pos + s.start) (t.line + linesBefore t s.start) (t.pos + s.stop)
      = .ok body := readBody
    rw [atPlace.inPlace_eq_alone within whole (Nat.le_of_lt_succ deep)] at readBody
    obtain ⟨own, inner, rfl⟩ := exists_of_shift_eq_ok readBody
    obtain ⟨u, inOwn, rfl⟩ := List.mem_map.mp inBody
    obtain ⟨low, high, code⟩ := ih _ (atPlace.body_lt within) (whole_iff.mp whole).2 (Nat.lt_succ_self _) inner
      inOwn plain rfl
    have place : (u.move (t.pos + s.start) ((text.take (t.pos + s.start)).count '\n')).endPos
        = t.pos + s.start + u.endPos := by
      simp only [Token.endPos, Token.move]
      omega
    rw [place]
    refine ⟨?_, ?_, fun blank => ?_⟩
    · simp only [Token.endPos, Token.move] at low ⊢
      omega
    · have reach := (code_behind member token).2.1
      have bounds := atPlace.laid.bounds within
      obtain ⟨_, _, -, -, ends⟩ := exists_around atPlace.laid within
      rw [Token.endPos, ← String.length_toList] at reach
      omega
    · exact code_inside member token literal atPlace within (code (atPlace.getElem?_body within high blank))

end Retype.Expand
