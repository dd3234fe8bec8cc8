import Mathlib.Data.List.Pairwise
import Retype.Proofs.Token.Measure
import Retype.Source

/-!
# The lexemes of a text make up the text

A *cut* of a text is the list of its lexemes up to some point, each at its offset and on its line, and
what is left of the text behind them.  `Lexer.lexemes` gives a cut (`cut_lexemes`).  Nothing is left
if it reports no failure.  Lexemes that are neither tokens nor comments are blanks and line ends.  So
the tokens and the comments of a text are pieces of it that do not overlap, and only blanks and line
ends stand between them (`lex_lossless`).
-/

namespace Retype

/-- The offset behind a comment. -/
def Comment.endPos (c : Comment) : Nat := c.pos + c.text.length

namespace Lexer

/-! ## Cuts -/

/-- A cut of a text that stands at an offset on a line: the lexemes, and what is left. -/
inductive Cut : (pos line : Nat) → List Char → List Lexeme → (left : List Char) → Prop where
  | nil (pos line : Nat) (cs : List Char) : Cut pos line cs [] cs
  | cons {pos line : Nat} {c : Char} {cs piece more left : List Char} {shape : Shape}
      {ls : List Lexeme} (measured : measure pos c cs = .ok (shape, piece.length))
      (same : c :: cs = piece ++ more)
      (further : Cut (pos + piece.length) (line + piece.count '\n') more ls left) :
      Cut pos line (c :: cs) (⟨shape, piece, line, pos⟩ :: ls) left

theorem nextLine_eq (line : Nat) (c : Char) : nextLine line c = line + [c].count '\n' := by
  simp only [nextLine, List.count_singleton, beq_iff_eq]
  split <;> rfl

/-- The characters of a lexeme under way are passed over. -/
theorem lexemes_append (pos line : Nat) (piece cs : List Char) :
    lexemes pos line piece.length (piece ++ cs) =
      lexemes (pos + piece.length) (line + piece.count '\n') 0 cs := by
  induction piece generalizing pos line with
  | nil => rfl
  | cons c piece ih =>
    rw [List.cons_append, List.length_cons, lexemes, ih, nextLine_eq, List.count_cons (l := piece),
      List.count_singleton]
    congr 1 <;> omega

/-- One lexeme, and the others from behind it on. -/
theorem lexemes_of_measure {pos line : Nat} {c : Char} {cs piece more : List Char} {shape : Shape}
    (measured : measure pos c cs = .ok (shape, piece.length)) (same : c :: cs = piece ++ more) :
    lexemes pos line 0 (c :: cs) =
      (⟨shape, piece, line, pos⟩ ::
          (lexemes (pos + piece.length) (line + piece.count '\n') 0 more).1,
        (lexemes (pos + piece.length) (line + piece.count '\n') 0 more).2) := by
  obtain ⟨d, rest, rfl⟩ := List.exists_cons_of_length_pos (measure_bounds measured).1
  obtain ⟨rfl, rfl⟩ : c = d ∧ cs = rest ++ more := by simpa using same
  rw [← lexemes_append, List.cons_append, List.length_cons, lexemes, lexemes, measured]
  simp

/-- The lexemes of a text are a cut of it.  If there is no failure then nothing is left, else the text
that is left starts with no lexeme. -/
theorem cut_lexemes (pos line : Nat) (cs : List Char) :
    ∃ left, Cut pos line cs (lexemes pos line 0 cs).1 left ∧
      ((lexemes pos line 0 cs).2 = none → left = []) := by
  induction n : cs.length using Nat.strong_induction_on generalizing pos line cs with
  | _ n ih =>
    cases cs with
    | nil => exact ⟨[], .nil pos line [], fun _ => rfl⟩
    | cons c cs =>
      cases measured : measure pos c cs with
      | error e =>
        refine ⟨c :: cs, ?_, ?_⟩
        · rw [lexemes, measured]
          exact .nil pos line _
        · rw [lexemes, measured]
          rintro ⟨⟩
      | ok r =>
        obtain ⟨shape, k⟩ := r
        obtain ⟨some, inside⟩ := measure_bounds measured
        have same : c :: cs = (c :: cs).take k ++ (c :: cs).drop k := (List.take_append_drop k _).symm
        have full : ((c :: cs).take k).length = k := List.length_take_of_le inside
        rw [← full] at measured
        obtain ⟨left, further, ended⟩ := ih ((c :: cs).drop k).length (by simp at n ⊢; omega)
          (pos + ((c :: cs).take k).length) (line + ((c :: cs).take k).count '\n') _ rfl
        rw [lexemes_of_measure measured same]
        exact ⟨left, .cons measured same further, ended⟩

namespace Cut

variable {pos line : Nat} {cs left : List Char} {ls : List Lexeme}

/-- A lexeme is measured where it stands, at its offset and on its line. -/
theorem exists_measure (cut : Cut pos line cs ls left) {l : Lexeme} (mem : l ∈ ls) :
    ∃ before c rest after, cs = before ++ c :: rest ∧ c :: rest = l.text ++ after
      ∧ l.pos = pos + before.length ∧ l.line = line + before.count '\n'
      ∧ measure l.pos c rest = .ok (l.shape, l.text.length) := by
  induction cut with
  | nil => cases mem
  | @cons pos line c cs piece more left shape ls measured same further ih =>
    rcases List.mem_cons.mp mem with rfl | later
    · exact ⟨[], c, cs, more, rfl, same, rfl, rfl, measured⟩
    · obtain ⟨before, d, rest, after, rfl, piece_, offset, counted, measured⟩ := ih later
      refine ⟨piece ++ before, d, rest, after, by rw [same, List.append_assoc], piece_, ?_, ?_, measured⟩
      · rw [offset, List.length_append, Nat.add_assoc]
      · rw [counted, List.count_append, Nat.add_assoc]

/-- A lexeme is a piece of the text at its offset and on its line. -/
theorem exists_append (cut : Cut pos line cs ls left) {l : Lexeme} (mem : l ∈ ls) :
    ∃ before after, cs = before ++ l.text ++ after ∧ l.pos = pos + before.length ∧
      l.line = line + before.count '\n' := by
  obtain ⟨before, c, rest, after, rfl, piece, offset, counted, -⟩ := cut.exists_measure mem
  exact ⟨before, after, by rw [piece, List.append_assoc], offset, counted⟩

theorem text_ne_nil (cut : Cut pos line cs ls left) {l : Lexeme} (mem : l ∈ ls) : l.text ≠ [] := by
  induction cut with
  | nil => cases mem
  | cons measured same further ih =>
    rcases List.mem_cons.mp mem with rfl | later
    · exact List.length_pos_iff.mp (measure_bounds measured).1
    · exact ih later

theorem le_pos (cut : Cut pos line cs ls left) {l : Lexeme} (mem : l ∈ ls) : pos ≤ l.pos := by
  obtain ⟨before, after, -, offset, -⟩ := cut.exists_append mem
  omega

theorem pos_lt (cut : Cut pos line cs ls left) {l : Lexeme} (mem : l ∈ ls) :
    l.pos < pos + cs.length := by
  obtain ⟨before, after, same, offset, -⟩ := cut.exists_append mem
  have some_ := List.length_pos_iff.mpr (cut.text_ne_nil mem)
  have size := congrArg List.length same
  rw [List.length_append, List.length_append] at size
  omega

/-- A lexeme ends where the next one starts, or before. -/
theorem pairwise (cut : Cut pos line cs ls left) :
    ls.Pairwise fun l m => l.pos + l.text.length ≤ m.pos := by
  induction cut with
  | nil => exact .nil
  | cons measured same further ih => exact .cons (fun m later => further.le_pos later) ih

/-- Every character of the text belongs to a lexeme, if nothing is left. -/
theorem exists_mem (cut : Cut pos line cs ls []) {i : Nat} (inside : i < cs.length) :
    ∃ l ∈ ls, l.pos ≤ pos + i ∧ pos + i < l.pos + l.text.length := by
  generalize ended : [] = left at cut
  induction cut generalizing i with
  | nil => simp [← ended] at inside
  | @cons pos line c cs piece more left shape ls measured same further ih =>
    by_cases early : i < piece.length
    · exact ⟨_, List.mem_cons_self, Nat.le_add_right .., Nat.add_lt_add_left early pos⟩
    · rw [same, List.length_append] at inside
      obtain ⟨l, later, low, high⟩ := ih (i := i - piece.length) (by omega) ended
      exact ⟨l, List.mem_cons_of_mem _ later, by omega, by omega⟩

/-- A lexeme that is neither a token nor a comment is a blank or a line end. -/
theorem isGap_of_mem (cut : Cut pos line cs ls left) {l : Lexeme} (mem : l ∈ ls)
    (token : l.token? = none) (comment : l.comment? = none) : ∀ c ∈ l.text, Source.isGap c := by
  induction cut with
  | nil => cases mem
  | @cons pos line c cs piece more left shape ls measured same further ih =>
    rcases List.mem_cons.mp mem with rfl | later
    · have one (gap : Source.isGap c) (single : piece.length = 1) : ∀ c ∈ piece, Source.isGap c := by
        obtain ⟨d, rfl⟩ := List.length_eq_one_iff.mp single
        obtain ⟨rfl, -⟩ := List.cons.inj same
        simpa using gap
      generalize size : piece.length = n at measured
      cases measured_of_measure measured with
      | blank blank => exact one (by rcases blank with rfl | rfl | rfl <;> decide) size
      | lineEnd ended => exact one (by subst ended; decide) size
      | comment => cases comment
      | template | number | string | name | mark => cases token
    · exact ih later

end Cut

/-! ## Tokens and comments -/

/-- A text that stands at an offset of another one, and is not empty. -/
def IsPiece (cs : List Char) (pos : Nat) (text : String) : Prop :=
  text ≠ "" ∧ Template.slice cs pos (pos + text.length) = text.toList

/-- Tokens and comments that make up a text, but for blanks and line ends. -/
structure Lossless (cs : List Char) (found : Lexed) : Prop where
  /-- A token is a piece of the text. -/
  token : ∀ t ∈ found.tokens, IsPiece cs t.pos t.text
  /-- A comment is a piece of the text. -/
  comment : ∀ c ∈ found.comments, IsPiece cs c.pos c.text
  /-- Tokens stand in order and do not overlap. -/
  tokens : found.tokens.Pairwise fun t u => t.endPos ≤ u.pos
  /-- Comments stand in order and do not overlap. -/
  comments : found.comments.Pairwise fun c d => c.endPos ≤ d.pos
  /-- A token and a comment do not overlap. -/
  apart : ∀ t ∈ found.tokens, ∀ c ∈ found.comments, t.endPos ≤ c.pos ∨ c.endPos ≤ t.pos
  /-- A character that belongs to none of them is a blank or a line end. -/
  between : ∀ i d, cs[i]? = some d → (∀ t ∈ found.tokens, ¬(t.pos ≤ i ∧ i < t.endPos)) →
    (∀ c ∈ found.comments, ¬(c.pos ≤ i ∧ i < c.endPos)) → Source.isGap d
  /-- The line of a token is the one it starts on. -/
  line : ∀ t ∈ found.tokens, t.line = 1 + (cs.take t.pos).count '\n'

section Lexemes

variable {cs : List Char} {ls : List Lexeme} {l : Lexeme} {t : Token} {c : Comment}

theorem eq_of_token? (same : l.token? = some t) :
    l.text = t.text.toList ∧ l.pos = t.pos ∧ l.line = t.line ∧ l.comment? = none := by
  unfold Lexeme.token? at same
  split at same
  next kind shape => cases same; simp [Lexeme.comment?, shape]
  next => cases same

theorem shape_of_token? (same : l.token? = some t) : l.shape = .token t.kind := by
  unfold Lexeme.token? at same
  split at same
  next shape => cases same; exact shape
  next => cases same

theorem eq_of_comment? (same : l.comment? = some c) : l.text = c.text.toList ∧ l.pos = c.pos := by
  unfold Lexeme.comment? at same
  split at same
  · cases same; simp
  · cases same

theorem endPos_of_token? (same : l.token? = some t) : l.pos + l.text.length = t.endPos := by
  obtain ⟨text, pos, -, -⟩ := eq_of_token? same
  rw [text, pos, String.length_toList, Token.endPos]

theorem endPos_of_comment? (same : l.comment? = some c) : l.pos + l.text.length = c.endPos := by
  obtain ⟨text, pos⟩ := eq_of_comment? same
  rw [text, pos, String.length_toList, Comment.endPos]

namespace Cut

theorem isPiece (cut : Cut 0 1 cs ls []) (mem : l ∈ ls) {text : String}
    (same : l.text = text.toList) : IsPiece cs l.pos text := by
  obtain ⟨before, after, rfl, offset, -⟩ := cut.exists_append mem
  refine ⟨fun empty => cut.text_ne_nil mem (by simp [same, empty]), ?_⟩
  rw [Nat.zero_add] at offset
  have size : text.length = l.text.length := by rw [same, String.length_toList]
  rw [Template.slice, offset, size, ← List.length_append, List.take_left, List.drop_left, same]

/-- Two lexemes do not overlap. -/
theorem apart (cut : Cut 0 1 cs ls []) {m : Lexeme} (left : l ∈ ls) (right : m ∈ ls) (ne : l ≠ m) :
    l.pos + l.text.length ≤ m.pos ∨ m.pos + m.text.length ≤ l.pos := by
  have ordered := cut.pairwise
  clear cut
  induction ordered with
  | nil => cases left
  | cons first _ ih =>
    rcases List.mem_cons.mp left with rfl | later
    · exact .inl (first m ((List.mem_cons.mp right).resolve_left (Ne.symm ne)))
    rcases List.mem_cons.mp right with rfl | later'
    · exact .inr (first l later)
    · exact ih later later'

/-- A character of a lexeme is a character of its text. -/
theorem mem_text (cut : Cut 0 1 cs ls []) (mem : l ∈ ls) {i : Nat} {d : Char}
    (at_ : cs[i]? = some d) (low : l.pos ≤ i) (high : i < l.pos + l.text.length) : d ∈ l.text := by
  obtain ⟨before, after, rfl, offset, -⟩ := cut.exists_append mem
  rw [List.append_assoc, List.getElem?_append_right (by omega),
    List.getElem?_append_left (by omega)] at at_
  exact List.mem_of_getElem? at_

theorem lossless (cut : Cut 0 1 cs ls []) :
    Lossless cs ⟨ls.filterMap Lexeme.token?, ls.filterMap Lexeme.comment?⟩ where
  token t mem := by
    obtain ⟨l, inside, same⟩ := List.mem_filterMap.mp mem
    obtain ⟨text, pos, -, -⟩ := eq_of_token? same
    exact pos ▸ cut.isPiece inside text
  comment c mem := by
    obtain ⟨l, inside, same⟩ := List.mem_filterMap.mp mem
    obtain ⟨text, pos⟩ := eq_of_comment? same
    exact pos ▸ cut.isPiece inside text
  tokens := by
    refine List.pairwise_filterMap.mpr (cut.pairwise.imp fun before t left u right => ?_)
    rwa [← endPos_of_token? left, ← (eq_of_token? right).2.1]
  comments := by
    refine List.pairwise_filterMap.mpr (cut.pairwise.imp fun before c left d right => ?_)
    rwa [← endPos_of_comment? left, ← (eq_of_comment? right).2]
  apart t left c right := by
    obtain ⟨l, inside, token⟩ := List.mem_filterMap.mp left
    obtain ⟨m, inside', comment⟩ := List.mem_filterMap.mp right
    obtain ⟨-, pos, -, plain⟩ := eq_of_token? token
    have ne : l ≠ m := by
      rintro rfl
      rw [plain] at comment
      cases comment
    rw [← endPos_of_token? token, ← endPos_of_comment? comment, ← pos, ← (eq_of_comment? comment).2]
    exact cut.apart inside inside' ne
  between i d at_ notToken notComment := by
    obtain ⟨inside, -⟩ := List.getElem?_eq_some_iff.mp at_
    obtain ⟨l, mem, low, high⟩ := cut.exists_mem inside
    rw [Nat.zero_add] at low high
    refine cut.isGap_of_mem mem ?_ ?_ d (cut.mem_text mem at_ low high)
    · refine Option.eq_none_iff_forall_ne_some.mpr fun t same => ?_
      refine notToken t (List.mem_filterMap.mpr ⟨l, mem, same⟩) ?_
      rw [← endPos_of_token? same, ← (eq_of_token? same).2.1]
      exact ⟨low, high⟩
    · refine Option.eq_none_iff_forall_ne_some.mpr fun c same => ?_
      refine notComment c (List.mem_filterMap.mpr ⟨l, mem, same⟩) ?_
      rw [← endPos_of_comment? same, ← (eq_of_comment? same).2]
      exact ⟨low, high⟩
  line t mem := by
    obtain ⟨l, inside, same⟩ := List.mem_filterMap.mp mem
    obtain ⟨-, pos, line, -⟩ := eq_of_token? same
    obtain ⟨before, after, rfl, offset, counted⟩ := cut.exists_append inside
    rw [← line, ← pos, counted, offset, Nat.zero_add, List.append_assoc, List.take_left]

end Cut

end Lexemes

/-- The tokens and the comments that the lexer finds make up the text, but for blanks and line
ends. -/
theorem lex_lossless {cs : List Char} {found : Lexed} (lexed : lex cs = .ok found) :
    Lossless cs found := by
  obtain ⟨left, cut, ended⟩ := cut_lexemes 0 1 cs
  unfold lex at lexed
  generalize lexemes 0 1 0 cs = all at lexed cut ended
  obtain ⟨ls, _ | e⟩ := all
  · obtain rfl := ended rfl
    obtain rfl := Except.ok.inj lexed
    exact cut.lossless
  · cases lexed

/-- A comment over two lines, a template literal over two lines, and a token behind them. -/
theorem lex_lossless_lines :
    ∃ found, lex "/* a\n*/ \x60b\n$\x7bc\x7d\x60\t= 0x1f // d".toList = .ok found
      ∧ found.tokens.map (fun t => (t.line, t.pos)) = [(2, 8), (3, 17), (3, 19)]
      ∧ found.comments.map (·.pos) = [0, 24]
      ∧ Lossless "/* a\n*/ \x60b\n$\x7bc\x7d\x60\t= 0x1f // d".toList found := by
  have accepted : (lex "/* a\n*/ \x60b\n$\x7bc\x7d\x60\t= 0x1f // d".toList).toOption.any fun found =>
      found.tokens.map (fun t => (t.line, t.pos)) = [(2, 8), (3, 17), (3, 19)]
        ∧ found.comments.map (·.pos) = [0, 24] := by decide +kernel
  cases lexed : lex "/* a\n*/ \x60b\n$\x7bc\x7d\x60\t= 0x1f // d".toList with
  | error e =>
    rw [lexed] at accepted
    cases accepted
  | ok found =>
    rw [lexed] at accepted
    obtain ⟨places, offsets⟩ := of_decide_eq_true accepted
    exact ⟨found, rfl, places, offsets, lex_lossless lexed⟩

end Lexer

end Retype
