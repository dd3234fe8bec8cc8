import Retype.Proofs.Token.Literal

/-!
# Template literals are scanned exactly

A scan of a template literal returns the offset behind its closing backquote and the spans of its
substitutions.  The spans are *laid* in the text: each stands between `${` and the brace that closes the
substitution, the next one starts behind that brace, and all of them lie inside the literal
(`laid_of_literal`).  So the texts
around the substitutions and the bodies of the substitutions, put together in turn with their marks,
are the literal again (`weave_quasis`).

The scan is *local*, too: it depends on nothing in front of the literal and on nothing behind it.
That is why the text of a literal can be scanned again to split it.
-/

namespace Retype.Template

/-! ## Spans in a text -/

/-- A substitution ends in a brace. -/
theorem closes_of_scanSubstitution {text : List Char} {start stop : Nat}
    (closed : scanSubstitution start (text.drop start) = .ok stop) : text[stop]? = some '\x7d' := by
  have le := le_of_scanSubstitution closed
  obtain ⟨_, closed⟩ := scanSubstitution_eq_ok_iff.mp closed
  have marked : (text.drop start)[stop + 1 - start - 1]? = some '\x7d' := (marked_of_run closed).2
  rwa [List.getElem?_drop, show start + (stop + 1 - start - 1) = stop by omega] at marked

/-- The spans of substitutions in a text from an offset on, each behind its mark.  The literal ends in
front of the offset `stop`. -/
inductive Laid (text : List Char) (stop : Nat) : (pos : Nat) → List Span → Prop where
  | nil {pos : Nat} (low : pos < stop) : Laid text stop pos []
  | cons {pos : Nat} {s : Span} {spans : List Span} (low : pos + 2 ≤ s.start)
      (dollar : text[s.start - 2]? = some '$') (opens : text[s.start - 1]? = some '\x7b')
      (closed : scanSubstitution s.start (text.drop s.start) = .ok s.stop)
      (further : Laid text stop (s.stop + 1) spans) : Laid text stop pos (s :: spans)

namespace Laid

variable {text : List Char} {pos stop : Nat} {spans : List Span}

theorem lt (laid : Laid text stop pos spans) : pos < stop := by
  induction laid with
  | nil low => exact low
  | cons low _ _ closed _ ih =>
    have := le_of_scanSubstitution closed
    omega

theorem mono {pos' : Nat} (laid : Laid text stop pos spans) (le : pos' ≤ pos) :
    Laid text stop pos' spans := by
  cases laid with
  | nil low => exact .nil (Nat.lt_of_le_of_lt le low)
  | cons low dollar opens closed further => exact .cons (by omega) dollar opens closed further

/-- A span lies inside the literal. -/
theorem bounds (laid : Laid text stop pos spans) {s : Span} (mem : s ∈ spans) :
    pos + 2 ≤ s.start ∧ s.start ≤ s.stop ∧ s.stop + 1 < stop := by
  induction laid with
  | nil => cases mem
  | @cons pos s' spans low _ _ closed further ih =>
    have le := le_of_scanSubstitution closed
    rcases List.mem_cons.mp mem with rfl | later
    · exact ⟨low, le, further.lt⟩
    · obtain ⟨start, stop⟩ := ih later
      exact ⟨by omega, stop⟩

/-- A span is the body of a substitution. -/
theorem closed (laid : Laid text stop pos spans) {s : Span} (mem : s ∈ spans) :
    scanSubstitution s.start (text.drop s.start) = .ok s.stop := by
  induction laid with
  | nil => cases mem
  | cons _ _ _ closed _ ih =>
    rcases List.mem_cons.mp mem with rfl | later
    · exact closed
    · exact ih later

/-- A span stands between its marks. -/
theorem marked (laid : Laid text stop pos spans) {s : Span} (mem : s ∈ spans) :
    text[s.start - 2]? = some '$' ∧ text[s.start - 1]? = some '\x7b' ∧ text[s.stop]? = some '\x7d' := by
  induction laid with
  | nil => cases mem
  | cons _ dollar opens closed _ ih =>
    rcases List.mem_cons.mp mem with rfl | later
    · exact ⟨dollar, opens, closes_of_scanSubstitution closed⟩
    · exact ih later

/-- Spans stand in order and do not overlap. -/
theorem pairwise (laid : Laid text stop pos spans) : spans.Pairwise fun s t => s.stop < t.start := by
  induction laid with
  | nil => exact .nil
  | cons _ _ _ _ further ih =>
    refine .cons ?_ ih
    intro t later
    have := (further.bounds later).1
    omega

end Laid

theorem drop_of_cons {text cs : List Char} {c : Char} {pos : Nat} (same : text.drop pos = c :: cs) :
    text[pos]? = some c ∧ text.drop (pos + 1) = cs := by
  have head := List.head?_drop (l := text) (i := pos)
  rw [same] at head
  refine ⟨head.symm, ?_⟩
  rw [← List.drop_drop, same]
  rfl

/-- The spans of a literal are laid in the text, and the literal ends in a backquote. -/
theorem laid_of_literal {text cs : List Char} {pos stop : Nat} {spans : List Span}
    (literal : Literal pos cs spans stop) (same : text.drop pos = cs) :
    Laid text stop pos spans ∧ text[stop - 1]? = some '\x60' := by
  induction literal with
  | close => exact ⟨.nil (Nat.lt_succ_self _), (drop_of_cons same).1⟩
  | @escape pos c cs spans stop further ih =>
    obtain ⟨laid, closing⟩ := ih (drop_of_cons (drop_of_cons same).2).2
    exact ⟨laid.mono (by omega), closing⟩
  | char bare inside plain further ih =>
    obtain ⟨laid, closing⟩ := ih (drop_of_cons same).2
    exact ⟨laid.mono (Nat.le_succ _), closing⟩
  | @hole pos last cs spans stop closed further ih =>
    obtain ⟨dollar, behind⟩ := drop_of_cons same
    obtain ⟨opens, body⟩ := drop_of_cons behind
    have le := le_of_scanSubstitution closed
    obtain ⟨laid, closing⟩ := ih (by rw [← body, List.drop_drop]; congr 1; omega)
    exact ⟨.cons (Nat.le_refl _) dollar opens (body ▸ closed) laid, closing⟩

/-! ## A literal from its parts -/

/-- Texts and the bodies of substitutions in turn, with the marks of the substitutions. -/
def weave : (quasis bodies : List (List Char)) → List Char
  | [], _ => []
  | q :: _, [] => q
  | q :: quasis, b :: bodies => q ++ '$' :: '\x7b' :: (b ++ '\x7d' :: weave quasis bodies)

/-- The body of a substitution of a literal. -/
def Span.body (lit : List Char) (s : Span) : List Char := slice lit s.start s.stop

theorem drop_eq_slice_append (lit : List Char) {start stop : Nat} (le : start ≤ stop) :
    lit.drop start = slice lit start stop ++ lit.drop stop := by
  have whole := List.take_append_drop (stop - start) (lit.drop start)
  rw [List.drop_drop, Nat.add_sub_cancel' le] at whole
  rw [slice, ← whole, List.drop_take]

theorem drop_of_getElem? {lit : List Char} {i : Nat} {c : Char} (found : lit[i]? = some c) :
    lit.drop i = c :: lit.drop (i + 1) := by
  obtain ⟨inside, rfl⟩ := List.getElem?_eq_some_iff.mp found
  exact List.drop_eq_getElem_cons inside

/-- The texts around the substitutions and the bodies between them make up the literal, from an offset
to its closing backquote. -/
theorem weave_quasis {lit : List Char} {pos : Nat} {spans : List Span}
    (laid : Laid lit lit.length pos spans) (closing : lit.getLast? = some '\x60') :
    weave (quasis lit pos spans) (spans.map (Span.body lit)) ++ ['\x60'] = lit.drop pos := by
  induction laid with
  | nil low =>
    obtain ⟨front, rfl⟩ := List.getLast?_eq_some_iff.mp closing
    rw [List.length_append, List.length_singleton] at low
    rw [quasis, List.map_nil, weave, List.dropLast_concat, List.drop_append_of_le_length (by omega)]
  | @cons pos s spans low dollar opens closed further ih =>
    have le := le_of_scanSubstitution closed
    have closes := closes_of_scanSubstitution closed
    obtain ⟨start, same⟩ : ∃ start, s.start = start + 2 := ⟨s.start - 2, by omega⟩
    rw [same] at dollar opens
    have dollar : lit[start]? = some '$' := dollar
    have opens : lit[start + 1]? = some '\x7b' := opens
    rw [quasis, List.map_cons, weave, Span.body, same, Nat.add_sub_cancel,
      drop_eq_slice_append lit (show pos ≤ start by omega), drop_of_getElem? dollar,
      drop_of_getElem? opens, drop_eq_slice_append lit (show start + 1 + 1 ≤ s.stop by omega),
      drop_of_getElem? closes, ← ih]
    simp

theorem length_quasis (lit : List Char) (pos : Nat) (spans : List Span) :
    (quasis lit pos spans).length = spans.length + 1 := by
  induction spans generalizing pos with
  | nil => rfl
  | cons s spans ih => rw [quasis, List.length_cons, ih, List.length_cons]

/-! ## Exact scans -/

/-- What a scan of the literal at the offset `i` finds, if it ends in front of the offset `stop`. -/
structure Exact (text : List Char) (i stop : Nat) (spans : List Span) : Prop where
  /-- The literal has two backquotes. -/
  low : i + 2 ≤ stop
  /-- The literal lies in the text. -/
  high : stop ≤ text.length
  /-- The literal ends in a backquote. -/
  closing : text[stop - 1]? = some '\x60'
  /-- The spans stand in order and do not overlap. -/
  ordered : spans.Pairwise fun s t => s.stop < t.start
  /-- A span lies inside the literal, with its marks. -/
  inside : ∀ s ∈ spans, i < s.start - 2 ∧ s.start ≤ s.stop ∧ s.stop + 1 < stop
  /-- A span stands between its marks. -/
  marked : ∀ s ∈ spans, text[s.start - 2]? = some '$' ∧ text[s.start - 1]? = some '\x7b'
    ∧ text[s.stop]? = some '\x7d'
  /-- The text of the literal alone, with any text behind it, is scanned to its end, and has the same
  spans.  Splitting it gives one text more than spans, and the texts and the bodies make it up. -/
  alone : ∃ own, spans = own.map (Span.move i)
    ∧ (∀ after, scan 0 (slice text i stop ++ after) = .ok (stop - i, own))
    ∧ ∃ quasis, split (slice text i stop) = .ok (quasis, own) ∧ quasis.length = own.length + 1
      ∧ '\x60' :: weave quasis (own.map (Span.body (slice text i stop))) ++ ['\x60'] = slice text i stop

theorem literal_of_scan {pos stop : Nat} {cs : List Char} {spans : List Span}
    (closed : scan pos cs = .ok (stop, spans)) : Literal (pos + 1) (cs.drop 1) spans stop := by
  obtain ⟨own, rfl, literal⟩ := run_template_eq_ok_iff.mp closed
  exact literal

/-- A scan of the text of a literal goes to its end, whatever is behind it. -/
theorem scan_append {lit : List Char} {stop : Nat} {spans : List Span}
    (closed : scan 0 lit = .ok (stop, spans)) (after : List Char) :
    scan 0 (lit ++ after) = .ok (stop, spans) := by
  cases lit with
  | nil => cases closed
  | cons c lit => exact run_extend closed after

/-- A scan of a template literal is exact and local. -/
theorem scan_exact {text : List Char} {i stop : Nat} {spans : List Span}
    (opened : text[i]? = some '\x60') (closed : scan i (text.drop i) = .ok (stop, spans)) :
    Exact text i stop spans := by
  have start := drop_of_getElem? opened
  obtain ⟨laid, closing⟩ := laid_of_literal (literal_of_scan closed) (List.drop_drop ..).symm
  have low := laid.lt
  have high : stop ≤ text.length := by
    have := (List.getElem?_eq_some_iff.mp closing).1
    omega
  have lit : slice text i stop = (text.drop i).take (stop - i) := List.drop_take
  have size : (slice text i stop).length = stop - i := by
    rw [lit, List.length_take, List.length_drop]
    omega
  rw [start] at closed
  obtain ⟨own, scanned, same⟩ := scan_take closed
  rw [← start, ← lit] at scanned
  obtain ⟨laid', closing'⟩ := laid_of_literal (literal_of_scan scanned) rfl
  refine ⟨low, high, closing, laid.pairwise, ?_, fun s mem => laid.marked mem, own, same,
    scan_append scanned, quasis (slice text i stop) 1 own, ?_, length_quasis .., ?_⟩
  · intro s mem
    obtain ⟨start, le, stop⟩ := laid.bounds mem
    exact ⟨by omega, le, stop⟩
  · rw [split, scanned]
    rfl
  · have first : slice text i stop = '\x60' :: (slice text i stop).drop 1 := by
      rw [lit, start, show stop - i = stop - i - 1 + 1 by omega, List.take_succ_cons]
      rfl
    rw [List.cons_append, weave_quasis (size ▸ laid'), ← first]
    rw [List.getLast?_eq_getElem?, size, closing']

/-- A literal with a nested one and a brace in quotes, between other code. -/
theorem scan_exact_nested :
    scan 4 "\x60a$\x7b\x60b$\x7bc\x7d\x60 + '\x7d'\x7d\\\x60$\x7bd\x7d\x60;".toList
        = .ok (29, [⟨8, 21⟩, ⟨26, 27⟩])
      ∧ Exact "x = \x60a$\x7b\x60b$\x7bc\x7d\x60 + '\x7d'\x7d\\\x60$\x7bd\x7d\x60;".toList 4 29
        [⟨8, 21⟩, ⟨26, 27⟩] := by
  have closed : scan 4 "\x60a$\x7b\x60b$\x7bc\x7d\x60 + '\x7d'\x7d\\\x60$\x7bd\x7d\x60;".toList
      = .ok (29, [⟨8, 21⟩, ⟨26, 27⟩]) := by rfl
  exact ⟨closed, scan_exact (by rfl) closed⟩

end Retype.Template
