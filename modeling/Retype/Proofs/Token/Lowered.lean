import Retype.Proofs.Token.Alone
import Retype.Proofs.Token.Break

/-!
# Tokens of a text with a line end more

A blank of the code of a text is replaced by a line end.  The tokens of the text stay the same, at the
same offsets, and those behind the blank go down by one line (`expand_code`).  The substitutions of the
text have to be whole, since the code behind another substitution says nothing about the place where
the blank is.
-/

namespace Retype

/-- A token goes down by one line if it stands at an offset or behind it. -/
def Token.lower (p : Nat) (t : Token) : Token := if p ≤ t.pos then t.move 0 1 else t

/-- The tokens at an offset and behind it go down by one line. -/
def Lexer.Lexed.lower (p : Nat) (found : Lexed) : Lexed := ⟨found.tokens.map (Token.lower p), found.comments⟩

namespace Expand

open Lexer
open Template (Span scanSubstitution)

/-! ## Going down -/

section Lower

variable {p q k : Nat} {t : Token} {found : Lexed}

theorem lower_of_le (le : p ≤ t.pos) : t.lower p = t.move 0 1 := if_pos le

theorem lower_of_lt (lt : t.pos < p) : t.lower p = t := if_neg (Nat.not_le_of_lt lt)

theorem join_lower (a b : Lexed) : (join a b).lower p = join (a.lower p) (b.lower p) := by
  simp [join, Lexed.lower]

theorem lower_eq_self (above : ∀ t ∈ found.tokens, t.pos < p) : found.lower p = found := by
  have same : found.tokens.map (Token.lower p) = found.tokens.map id :=
    List.map_congr_left fun t member => lower_of_lt (above t member)
  rw [Lexed.lower, same, List.map_id]

theorem move_succ (le : p ≤ q) : found.move q (k + 1) = (found.move q k).lower p := by
  rw [Lexed.lower, Lexed.move, Lexed.move, List.map_map]
  congr 1
  refine List.map_congr_left fun t _ => ?_
  have behind : p ≤ (t.move q k).pos := Nat.le_add_left_of_le le
  exact (lower_of_le behind).symm

theorem move_lower : (found.lower p).move q k = (found.move q k).lower (q + p) := by
  rw [Lexed.lower, Lexed.lower, Lexed.move, Lexed.move, List.map_map, List.map_map]
  congr 1
  refine List.map_congr_left fun t _ => ?_
  rw [Function.comp_apply, Function.comp_apply]
  by_cases le : p ≤ t.pos
  · have behind : q + p ≤ (t.move q k).pos := by
      simp only [Token.move]
      omega
    rw [lower_of_le le, lower_of_le behind]
    simp only [Token.move, Nat.add_zero, Nat.add_right_comm]
  · have above : (t.move q k).pos < q + p := by
      simp only [Token.move]
      omega
    rw [lower_of_lt (Nat.lt_of_not_le le), lower_of_lt above]

end Lower

/-! ## Literals -/

section Literal

variable {read read' : Reader} {p : Nat} {t t' : Token} {spans : List Span}

theorem substitutions_lower {quasis : List (List Char)}
    (pieces : ∀ s ∈ spans, ∀ kind q, piece kind q t' s.stop = (piece kind q t s.stop).lower p)
    (bodies : ∀ s ∈ spans, ∀ body,
      read (t.pos + s.start) (t.line + linesBefore t s.start) (t.pos + s.stop) = .ok body →
      read' (t'.pos + s.start) (t'.line + linesBefore t' s.start) (t'.pos + s.stop) = .ok (body.lower p))
    {found : Lexed} (expanded : substitutions read t spans quasis = .ok found) :
    substitutions read' t' spans quasis = .ok (found.lower p) := by
  induction spans generalizing quasis found with
  | nil =>
    cases expanded
    rfl
  | cons s spans ih =>
    cases quasis with
    | nil =>
      cases expanded
      rfl
    | cons q quasis =>
      obtain ⟨body, readBody, expanded⟩ := exists_of_bind_eq_ok expanded
      obtain ⟨rest, readRest, expanded⟩ := exists_of_bind_eq_ok expanded
      cases expanded
      obtain ⟨here, pieces⟩ := List.forall_mem_cons.mp pieces
      obtain ⟨first, bodies⟩ := List.forall_mem_cons.mp bodies
      rw [substitutions, first body readBody, ih pieces bodies readRest]
      refine congrArg Except.ok ?_
      rw [join_lower, join_lower, here]
      rfl

/-- A literal of a text, and that of the text with a line end at the offset `p`. -/
structure LoweredLiteral (p : Nat) (t t' : Token) (spans : List Span) : Prop where
  pos : t'.pos = t.pos
  split : Template.split t.text.toList = .ok (Template.quasis t.text.toList 1 spans, spans)
  split' : Template.split t'.text.toList = .ok (Template.quasis t.text.toList 1 spans, spans)
  bare : spans = [] → t' = t.lower p
  head : ∀ q, piece .templateHead q t' 0 = (piece .templateHead q t 0).lower p
  pieces : ∀ s ∈ spans, ∀ kind q, piece kind q t' s.stop = (piece kind q t s.stop).lower p
  bodies : ∀ s ∈ spans,
    s.body t'.text.toList = s.body t.text.toList ∧ (t.pos + s.stop ≤ p ∨ p < t.pos + s.start)
      ∨ ∃ i, Code (s.body t.text.toList) i ∧ p = t.pos + s.start + i
        ∧ s.body t'.text.toList = (s.body t.text.toList).set i '\n'

theorem LoweredLiteral.template (lowered : LoweredLiteral p t t' spans)
    (bodies : ∀ s ∈ spans, ∀ body,
      read (t.pos + s.start) (t.line + linesBefore t s.start) (t.pos + s.stop) = .ok body →
      read' (t'.pos + s.start) (t'.line + linesBefore t' s.start) (t'.pos + s.stop) = .ok (body.lower p))
    {found : Lexed} (expanded : template read t = .ok found) :
    template read' t' = .ok (found.lower p) := by
  obtain ⟨_, split, expanded⟩ := exists_of_bind_eq_ok expanded
  rw [lowered.split] at split
  cases split
  rw [Expand.template, lowered.split']
  obtain ⟨q, quasis, cut⟩ := exists_quasis t.text.toList 1 spans
  rw [cut] at expanded ⊢
  cases spans with
  | nil =>
    cases expanded
    rw [lowered.bare rfl]
    rfl
  | cons s spans =>
    obtain ⟨rest, readRest, expanded⟩ := exists_of_bind_eq_ok expanded
    cases expanded
    have later := substitutions_lower lowered.pieces bodies readRest
    simp only [bind, Except.bind, later]
    rw [join_lower, lowered.head]
    rfl

end Literal

/-! ## Pieces of a literal with a line end more -/

section Set

variable {lit : List Char} {pos stop m : Nat} {x : Char} {spans : List Span} {s : Span}

theorem slice_set {a b : Nat} (outside : m < a ∨ b ≤ m) :
    Template.slice (lit.set m x) a b = Template.slice lit a b := by
  rw [Template.slice, Template.slice, List.take_set]
  rcases outside with before | behind
  · rw [List.drop_set_of_lt before]
  · rw [List.set_eq_of_length_le (by rw [List.length_take]; omega)]

theorem slice_set_inside (a b i : Nat) :
    Template.slice (lit.set (a + i) x) a b = (Template.slice lit a b).set i x := by
  rw [Template.slice, Template.slice, List.take_set, List.drop_set, if_neg (by omega), Nat.add_sub_cancel_left]

theorem quasis_set_of_lt (laid : Template.Laid lit stop pos spans) (before : m < pos) :
    Template.quasis (lit.set m x) pos spans = Template.quasis lit pos spans := by
  induction laid with
  | nil low =>
    rw [Template.quasis, Template.quasis, List.dropLast_eq_take, List.dropLast_eq_take, List.length_set,
      List.take_set, List.drop_set_of_lt before]
  | cons low _ _ closed _ ih =>
    have := Template.le_of_scanSubstitution closed
    rw [Template.quasis, Template.quasis, slice_set (.inl before), ih (by omega)]

/-- The texts around the substitutions do not depend on the bodies. -/
theorem quasis_set (laid : Template.Laid lit stop pos spans) (mem : s ∈ spans) (low : s.start ≤ m)
    (high : m < s.stop) : Template.quasis (lit.set m x) pos spans = Template.quasis lit pos spans := by
  induction laid with
  | nil => cases mem
  | @cons pos s' spans start _ _ closed further ih =>
    have := Template.le_of_scanSubstitution closed
    rw [Template.quasis, Template.quasis]
    rcases List.mem_cons.mp mem with rfl | later
    · rw [slice_set (.inr (by omega)), quasis_set_of_lt further (by omega)]
    · have := (further.bounds later).1
      rw [slice_set (.inr (by omega)), ih later]

theorem count_take_set (blank : lit[m]? = some ' ') (n : Nat) :
    ((lit.set m '\n').take n).count '\n' = (lit.take n).count '\n' + if m < n then 1 else 0 := by
  rw [List.take_set]
  split
  next inside => exact count_set (by rw [List.getElem?_take_of_lt inside, blank])
  next => rw [List.set_eq_of_length_le (by rw [List.length_take]; omega), Nat.add_zero]

end Set

theorem piece_lower {p m : Nat} {t t' : Token} (pos : t'.pos = t.pos)
    (line : t'.line + linesBefore t' m = t.line + linesBefore t m + if p ≤ t.pos + m then 1 else 0)
    (kind : TokenKind) (q : List Char) : piece kind q t' m = (piece kind q t m).lower p := by
  by_cases behind : p ≤ t.pos + m
  · have below : p ≤ (piece kind q t m).pos := behind
    rw [if_pos behind] at line
    rw [lower_of_le below, piece, pos, line]
    rfl
  · have above : (piece kind q t m).pos < p := Nat.lt_of_not_le behind
    rw [if_neg behind] at line
    rw [lower_of_lt above, piece, pos, line]
    rfl

/-- Of two spans of a literal, one stands behind the other. -/
theorem spans_apart {lit : List Char} {stop pos : Nat} {spans : List Span} (laid : Template.Laid lit stop pos spans)
    {s s' : Span} (mem : s ∈ spans) (mem' : s' ∈ spans) (other : s ≠ s') :
    s.stop < s'.start ∨ s'.stop < s.start := by
  have symm : Std.Symm fun s t : Span => s.stop < t.start ∨ t.stop < s.start := ⟨fun _ _ => Or.symm⟩
  have apart : spans.Pairwise fun s t => s.stop < t.start ∨ t.stop < s.start := laid.pairwise.imp Or.inl
  exact apart.forall mem mem' other

theorem split_of_scan {lit : List Char} {stop : Nat} {spans : List Span}
    (scanned : Template.scan 0 lit = .ok (stop, spans)) :
    Template.split lit = .ok (Template.quasis lit 1 spans, spans) := by
  rw [Template.split, scanned]
  rfl

/-- A lexeme that is a literal, and the lexeme with a line end more. -/
theorem loweredLiteral_of_lowered {p : Nat} {l l' : Lexeme} (lowered : Lowered p l l') {t : Token}
    (token : l.token? = some t) {text : List Char} {pos line : Nat} {spans : List Span}
    (atPlace : LiteralAt text pos line t spans) :
    ∃ t', l'.token? = some t' ∧ t'.kind = t.kind ∧ LoweredLiteral p t t' spans := by
  obtain ⟨chars, offset, row, -⟩ := eq_of_token? token
  have kind := shape_of_token? token
  cases lowered with
  | same above ends =>
    rw [chars, offset] at ends
    refine ⟨t, token, rfl, rfl, atPlace.split, atPlace.split, fun _ => (lower_of_lt (offset ▸ above)).symm, ?_, ?_, ?_⟩
    · exact piece_lower rfl (by rw [if_neg (by omega)]; rfl) _
    · intro s mem
      have := atPlace.laid.bounds mem
      exact piece_lower rfl (by rw [if_neg (by omega)]; rfl)
    · intro s mem
      have := atPlace.laid.bounds mem
      exact .inl ⟨rfl, .inl (by omega)⟩
  | below behind =>
    rw [offset] at behind
    have still : (t.move 0 1).pos = t.pos := rfl
    have down (m : Nat) : (t.move 0 1).line + linesBefore (t.move 0 1) m
        = t.line + linesBefore t m + if p ≤ t.pos + m then 1 else 0 := by
      rw [if_pos (by omega)]
      exact Nat.add_right_comm ..
    refine ⟨t.move 0 1, by rw [token?_move, token]; rfl, rfl, rfl, atPlace.split, atPlace.split,
      fun _ => (lower_of_le behind.le).symm, ?_, ?_, ?_⟩
    · exact piece_lower still (down 0) _
    · exact fun s _ => piece_lower still (down s.stop)
    · exact fun s _ => .inl ⟨rfl, .inr (by omega)⟩
  | blank => cases token
  | @literal lit spans' s i line pos scanned scanned' mem inner place =>
    dsimp only at kind row
    obtain rfl : lit = t.text.toList := chars
    obtain rfl : pos = t.pos := offset
    obtain rfl : spans' = spans := (Prod.mk.inj (Except.ok.inj ((split_of_scan scanned).symm.trans atPlace.split))).2
    have blank := getElem?_body inner.getElem?
    have laid := atPlace.laid
    have low := (laid.bounds mem).1
    have split' := split_of_scan scanned'
    rw [quasis_set laid mem (Nat.le_add_right _ _) blank.2] at split'
    let t' : Token := { t with text := String.ofList (t.text.toList.set (s.start + i) '\n') }
    have chars' : t'.text.toList = t.text.toList.set (s.start + i) '\n' := String.toList_ofList
    have still : t'.pos = t.pos := rfl
    have line (m : Nat) (other : m ≠ s.start + i) : t'.line + linesBefore t' m
        = t.line + linesBefore t m + if p ≤ t.pos + m then 1 else 0 := by
      rw [linesBefore, chars', count_take_set blank.1, linesBefore, ← Nat.add_assoc]
      congr 2
      exact propext ⟨fun _ => by omega, fun _ => by omega⟩
    refine ⟨t', ?_, rfl, still, atPlace.split, chars' ▸ split', ?_, ?_, ?_, ?_⟩
    · rw [kind, row]
      rfl
    · rintro rfl
      cases mem
    · exact piece_lower still (line 0 (by omega)) _
    · intro s' mem'
      refine piece_lower still (line s'.stop fun same => ?_)
      have closing := (laid.marked mem').2.2
      rw [same, blank.1] at closing
      cases closing
    · intro s' mem'
      rw [chars']
      by_cases other : s' = s
      · subst other
        exact .inr ⟨i, inner, by omega, slice_set_inside _ _ _⟩
      · rcases spans_apart laid mem' mem other with before | behind
        · exact .inl ⟨slice_set (.inr (by omega)), .inl (by omega)⟩
        · exact .inl ⟨slice_set (.inl (by omega)), .inr (by omega)⟩

/-! ## Sound texts -/

/-- A text whose substitutions have whole bodies. -/
def Sound (text : List Char) : Prop :=
  ∀ l ∈ (lexemes 0 1 0 text).1, ∀ t, l.token? = some t → t.kind = .template →
    ∀ quasis spans, Template.split t.text.toList = .ok (quasis, spans) →
      ∀ s ∈ spans, Whole (s.body t.text.toList)

theorem whole_iff {body : List Char} : Whole body ↔ body.getLast? ≠ some '|' ∧ Sound body := by
  constructor
  · rintro ⟨bare, inner⟩
    exact ⟨bare, inner⟩
  · rintro ⟨bare, inner⟩
    exact .intro bare inner

/-- A lexeme that is a token stays one. -/
theorem token_of_lowered {p : Nat} {l l' : Lexeme} (lowered : Lowered p l l') : l'.comment? = l.comment?
    ∧ (l.token? = none ∧ l'.token? = none ∨ ∃ t t', l.token? = some t ∧ l'.token? = some t' ∧ t'.kind = t.kind
      ∧ (t.kind ≠ .template → t' = t.lower p)) := by
  cases lowered with
  | same above ends =>
    refine ⟨rfl, ?_⟩
    cases token : l.token? with
    | none => exact .inl ⟨rfl, rfl⟩
    | some t => exact .inr ⟨t, t, rfl, rfl, rfl, fun _ => (lower_of_lt ((eq_of_token? token).2.1 ▸ above)).symm⟩
  | below behind =>
    rw [comment?_move, token?_move]
    refine ⟨by cases l.comment? <;> rfl, ?_⟩
    cases token : l.token? with
    | none => exact .inl ⟨rfl, rfl⟩
    | some t =>
      exact .inr ⟨t, _, rfl, rfl, rfl, fun _ => (lower_of_le ((eq_of_token? token).2.1 ▸ behind.le)).symm⟩
  | blank => exact ⟨rfl, .inl ⟨rfl, rfl⟩⟩
  | literal => exact ⟨rfl, .inr ⟨_, _, rfl, rfl, rfl, fun other => absurd rfl other⟩⟩

theorem exists_of_forall₂ {α β : Type} {R : α → β → Prop} {xs : List α} {ys : List β}
    (all : List.Forall₂ R xs ys) {y : β} (mem : y ∈ ys) : ∃ x ∈ xs, R x y := by
  induction all with
  | nil => cases mem
  | cons first rest ih =>
    rcases List.mem_cons.mp mem with rfl | later
    · exact ⟨_, List.mem_cons_self, first⟩
    · obtain ⟨x, mem, holds⟩ := ih later
      exact ⟨x, List.mem_cons_of_mem _ mem, holds⟩

theorem getLast?_set_ne {body : List Char} {i : Nat} (bare : body.getLast? ≠ some '|') :
    (body.set i '\n').getLast? ≠ some '|' := by
  rw [List.getLast?_eq_getElem?, List.getElem?_set, List.length_set]
  rw [List.getLast?_eq_getElem?] at bare
  split
  · split <;> simp
  · exact bare

/-- A text with a blank of code replaced is sound, too. -/
theorem sound_set {text : List Char} (sound : Sound text) {i : Nat} (code : Code text i) :
    Sound (text.set i '\n') := by
  induction n : text.length using Nat.strongRecOn generalizing text i with
  | _ n ih =>
    subst n
    intro l' member' t' token' literal' quasis spans' split' s mem
    obtain ⟨all, -⟩ := lexemes_code code 0 1
    obtain ⟨l, member, lowered⟩ := exists_of_forall₂ all member'
    rw [Nat.zero_add] at lowered
    rcases (token_of_lowered lowered).2 with ⟨-, none⟩ | ⟨t, v, token, some_, kind, -⟩
    · rw [none] at token'
      cases token'
    obtain rfl : v = t' := Option.some.inj (some_.symm.trans token')
    have literal : t.kind = .template := kind ▸ literal'
    obtain ⟨spans, atPlace⟩ := exists_literalAt member token literal
    obtain ⟨u, same, -, parts⟩ := loweredLiteral_of_lowered lowered token atPlace
    obtain rfl : u = v := Option.some.inj (same.symm.trans some_)
    obtain ⟨-, rfl⟩ := Prod.mk.inj (Except.ok.inj (parts.split'.symm.trans split'))
    have whole := sound l member t token literal _ _ atPlace.split s mem
    rcases parts.bodies s mem with ⟨body, -⟩ | ⟨j, inner, -, body⟩
    · rwa [body]
    · obtain ⟨bare, inside⟩ := whole_iff.mp whole
      rw [body]
      exact whole_iff.mpr ⟨getLast?_set_ne bare, ih _ (atPlace.body_lt mem) inside inner rfl⟩

/-! ## Reading -/

theorem collect_lower {read read' : Reader} {p : Nat} {failure : Option Failure} {ls ls' : List Lexeme}
    (all : List.Forall₂ (Lowered p) ls ls')
    (literals : ∀ l ∈ ls, ∀ l' ∈ ls', Lowered p l l' → ∀ t t', l.token? = some t → l'.token? = some t' →
      t.kind = .template → ∀ found, template read t = .ok found → template read' t' = .ok (found.lower p))
    {found : Lexed} (collected : collect read none failure ls = .ok found) :
    collect read' none failure ls' = .ok (found.lower p) := by
  induction all generalizing found with
  | nil =>
    cases failure <;> cases collected
    rfl
  | @cons l l' ls ls' first rest ih =>
    have later {found : Lexed} (collected : collect read none failure ls = .ok found) :
        collect read' none failure ls' = .ok (found.lower p) :=
      ih (fun l mem l' mem' => literals l (List.mem_cons_of_mem _ mem) l' (List.mem_cons_of_mem _ mem')) collected
    obtain ⟨comment, token⟩ := token_of_lowered first
    rw [collect] at collected
    rw [collect, comment]
    cases found_ : l.comment? with
    | some c =>
      simp only [found_] at collected ⊢
      obtain ⟨more, collects, collected⟩ := exists_of_bind_eq_ok collected
      cases collected
      rw [later collects]
      exact congrArg Except.ok (join_lower ⟨[], [c]⟩ more).symm
    | none =>
      simp only [found_] at collected ⊢
      rcases token with ⟨none, none'⟩ | ⟨t, t', some_, some', kind, plain⟩
      · simp only [none, none'] at collected ⊢
        exact later collected
      · simp only [some_, some', Option.any_none, Bool.false_eq_true, if_false, kind] at collected ⊢
        by_cases literal : t.kind = .template
        · rw [if_pos literal] at collected ⊢
          obtain ⟨own, expands, collected⟩ := exists_of_bind_eq_ok collected
          obtain ⟨more, collects, collected⟩ := exists_of_bind_eq_ok collected
          cases collected
          rw [later collects, literals l List.mem_cons_self l' List.mem_cons_self first t t' some_ some' literal own
            expands]
          exact congrArg Except.ok (join_lower own more).symm
        · rw [if_neg literal] at collected ⊢
          obtain ⟨own, expands, collected⟩ := exists_of_bind_eq_ok collected
          obtain ⟨more, collects, collected⟩ := exists_of_bind_eq_ok collected
          cases expands
          cases collected
          rw [later collects, plain literal]
          exact congrArg Except.ok (join_lower ⟨[t], []⟩ more).symm

theorem LiteralAt.drop_eq {text : List Char} {t : Token} {spans : List Span} (atPlace : LiteralAt text 0 1 t spans) :
    ∃ after, text.drop t.pos = t.text.toList ++ after := by
  obtain ⟨before, after, parts, offset, -⟩ := atPlace.stands
  exact ⟨after, by rw [offset, Nat.zero_add, parts, List.drop_left]⟩

/-- The tokens of a substitution stand in front of its brace. -/
theorem LiteralAt.pos_lt {text : List Char} {t : Token} {spans : List Span} (atPlace : LiteralAt text 0 1 t spans)
    {s : Span} (mem : s ∈ spans) {depth line : Nat} {body : Lexed}
    (readBody : inPlace text depth (t.pos + s.start) line (t.pos + s.stop) = .ok body) :
    ∀ u ∈ body.tokens, u.pos < t.pos + s.stop := by
  obtain ⟨after, inText⟩ := atPlace.drop_eq
  obtain ⟨ends, -, closed⟩ := exists_body inText atPlace.laid mem
  rw [← ends] at closed
  exact fun u member => (orders_inPlace text depth _ _ _ _ closed readBody).high u member _ rfl

theorem LiteralAt.inPlace_eq_alone {text : List Char} {t : Token} {spans : List Span}
    (atPlace : LiteralAt text 0 1 t spans) {s : Span} (mem : s ∈ spans) (whole : Whole (s.body t.text.toList))
    {depth : Nat} (deep : text.length ≤ depth) :
    inPlace text depth (t.pos + s.start) (t.line + linesBefore t s.start) (t.pos + s.stop)
      = shift (t.pos + s.start) ((text.take (t.pos + s.start)).count '\n')
        (expand (s.body t.text.toList) ((s.body t.text.toList).length + 1) 0 1 none) := by
  have fromStart : LiteralAt (text.drop 0) 0 (1 + (text.take 0).count '\n') t spans := atPlace
  exact fromStart.inPlace_eq mem whole (Nat.lt_of_lt_of_le (atPlace.body_lt mem) deep)

/-- The body of a substitution with a line end more, or of one above or below it. -/
theorem inPlace_lower {text : List Char} {i : Nat} (blank : text[i]? = some ' ') {t t' : Token} {spans : List Span}
    (lowered : LoweredLiteral i t t' spans) (here : LiteralAt text 0 1 t spans)
    (there : LiteralAt (text.set i '\n') 0 1 t' spans) {s : Span} (mem : s ∈ spans)
    (whole : Whole (s.body t.text.toList)) (whole' : Whole (s.body t'.text.toList))
    (inner : ∀ j own, Code (s.body t.text.toList) j →
      expand (s.body t.text.toList) ((s.body t.text.toList).length + 1) 0 1 none = .ok own →
      expand ((s.body t.text.toList).set j '\n') ((s.body t.text.toList).length + 1) 0 1 none = .ok (own.lower j))
    {depth : Nat} (deep : text.length ≤ depth) {body : Lexed}
    (readBody : inPlace text depth (t.pos + s.start) (t.line + linesBefore t s.start) (t.pos + s.stop) = .ok body) :
    inPlace (text.set i '\n') depth (t'.pos + s.start) (t'.line + linesBefore t' s.start) (t'.pos + s.stop)
      = .ok (body.lower i) := by
  have above := here.pos_lt mem readBody
  have long : (text.set i '\n').length ≤ depth := by rwa [List.length_set]
  rw [here.inPlace_eq_alone mem whole deep] at readBody
  rw [there.inPlace_eq_alone mem whole' long, lowered.pos, count_take_set blank]
  obtain ⟨own, own_, rfl⟩ := exists_of_shift_eq_ok readBody
  rcases lowered.bodies s mem with ⟨same, upper | under⟩ | ⟨j, code, rfl, same⟩
  · rw [same, own_, shift_ok, if_neg (by have := here.laid.bounds mem; omega), Nat.add_zero,
      lower_eq_self fun u member => (above u member).trans_le upper]
  · rw [same, own_, shift_ok, if_pos under, move_succ (Nat.le_of_lt under)]
  · rw [same, List.length_set, inner j own code own_, shift_ok, if_neg (by omega), Nat.add_zero, move_lower]

/-- The tokens of a text with a blank of code replaced. -/
theorem expand_code {text : List Char} (sound : Sound text) {i : Nat} (code : Code text i) {depth : Nat}
    (deep : text.length < depth) {found : Lexed} (expanded : expand text depth 0 1 none = .ok found) :
    expand (text.set i '\n') depth 0 1 none = .ok (found.lower i) := by
  induction n : text.length using Nat.strongRecOn generalizing text i depth found with
  | _ n ih =>
    subst n
    obtain ⟨d, rfl⟩ := Nat.exists_eq_succ_of_ne_zero (Nat.ne_zero_of_lt deep)
    obtain ⟨all, fails⟩ := lexemes_code code 0 1
    have sound' := sound_set sound code
    rw [Nat.zero_add] at all
    rw [expand, List.drop_zero] at expanded ⊢
    rw [fails]
    refine collect_lower all ?_ expanded
    intro l member l' member' lowered t t' token token' literal own expands
    obtain ⟨spans, here⟩ := exists_literalAt member token literal
    obtain ⟨_, same, kind, parts⟩ := loweredLiteral_of_lowered lowered token here
    obtain rfl := Option.some.inj (same.symm.trans token')
    have literal' := kind.trans literal
    obtain ⟨spans', there⟩ := exists_literalAt member' token' literal'
    obtain rfl : spans' = spans := (Prod.mk.inj (Except.ok.inj (there.split.symm.trans parts.split'))).2
    refine parts.template (fun s mem body readBody => ?_) expands
    have whole := sound l member t token literal _ _ here.split s mem
    have whole' := sound' l' member' _ token' literal' _ _ there.split s mem
    refine inPlace_lower code.getElem? parts here there mem whole whole' ?_ (Nat.le_of_lt_succ deep) readBody
    intro j own inner expands
    exact ih _ (here.body_lt mem) (whole_iff.mp whole).2 inner (Nat.lt_succ_self _) expands rfl

end Expand

end Retype
