import Mathlib.Data.List.Chain
import Retype.Proofs.Token.Literal
import Retype.Proofs.Token.Lossless
import Retype.Proofs.Token.Sync
import Retype.Token.Expand

/-!
# Expanded tokens stand in order

The tokens of a text with its template literals expanded stand in the order of their offsets.  A token
ends in front of the next one or where that starts, but for one case: the end of an exact object type
may take the brace of a substitution with it, and then the next piece of the template literal starts
inside it (`Follows`).

A substitution is cut from its start on, as if nothing closed it, and what starts behind its brace is
left out.  So the proof needs that no template literal inside it goes on behind the brace, and this is
so since the scan of the substitution and the lexer keep step (`InStep`).
-/

namespace Retype.Expand

open Lexer
open Template (Span scanSubstitution Spread)

/-! ## Order -/

/-- The kinds of the pieces of a template literal behind its head. -/
def goesOn : TokenKind → Bool
  | .templateMiddle | .templateTail => true
  | _ => false

/-- A token that may follow another one. -/
def Follows (t u : Token) : Prop :=
  t.pos ≤ u.pos ∧ (goesOn u.kind = false ∨ t.kind ≠ .exactRbrace → t.endPos ≤ u.pos)

/-- Tokens in order from an offset on, all in front of another one if that is given. -/
structure Placed (lo : Nat) (stop : Option Nat) (ts : List Token) : Prop where
  chain : ts.IsChain Follows
  low : ∀ t ∈ ts, lo ≤ t.pos
  high : ∀ t ∈ ts, ∀ s ∈ stop, t.pos < s
  ends : ∀ t ∈ ts, ∀ s ∈ stop, t.kind ≠ .exactRbrace → t.endPos ≤ s

/-- Tokens in order between two offsets. -/
structure Lined (lo hi : Nat) (ts : List Token) : Prop extends Placed lo (some hi) ts where
  last : ∀ t ∈ ts.getLast?, t.endPos ≤ hi

theorem placed_nil (low : Nat) (stop : Option Nat) : Placed low stop [] :=
  ⟨.nil, by simp, by simp, by simp⟩

theorem Placed.mono {low low' : Nat} {stop : Option Nat} {ts : List Token}
    (placed : Placed low stop ts) (le : low' ≤ low) : Placed low' stop ts :=
  ⟨placed.chain, fun t mem => le.trans (placed.low t mem), placed.high, placed.ends⟩

theorem pos_le_endPos (t : Token) : t.pos ≤ t.endPos := Nat.le_add_right _ _

/-- Tokens between two offsets and tokens from the second one on. -/
theorem Lined.append_placed {low mid : Nat} {stop : Option Nat} {ts us : List Token}
    (first : Lined low mid ts)
    (early : ∀ t ∈ ts, ∀ s ∈ stop, t.pos < s ∧ (t.kind ≠ .exactRbrace → t.endPos ≤ s)) (le : low ≤ mid)
    (second : Placed mid stop us) : Placed low stop (ts ++ us) where
  chain := by
    refine List.isChain_append.mpr ⟨first.chain, second.chain, fun t last u head => ?_⟩
    have ends := first.last t last
    have starts := second.low u (List.mem_of_mem_head? head)
    have := pos_le_endPos t
    exact ⟨by omega, fun _ => by omega⟩
  low t mem := by
    rcases List.mem_append.mp mem with mem | mem
    · exact first.low t mem
    · exact le.trans (second.low t mem)
  high t mem s stops := by
    rcases List.mem_append.mp mem with mem | mem
    · exact (early t mem s stops).1
    · exact second.high t mem s stops
  ends t mem s stops other := by
    rcases List.mem_append.mp mem with mem | mem
    · exact (early t mem s stops).2 other
    · exact second.ends t mem s stops other

theorem Lined.append {low mid high : Nat} {ts us : List Token} (first : Lined low mid ts)
    (second : Lined mid high us) (le : low ≤ mid) (le' : mid ≤ high) : Lined low high (ts ++ us) where
  toPlaced := by
    refine first.append_placed (fun t mem s stop => ?_) le second.toPlaced
    cases stop
    exact ⟨(first.high t mem mid rfl).trans_le le', fun other => (first.ends t mem mid rfl other).trans le'⟩
  last t mem := by
    rw [List.getLast?_append] at mem
    cases ended : us.getLast? with
    | none =>
      rw [ended] at mem
      exact (first.last t mem).trans le'
    | some u =>
      rw [ended, Option.some_or] at mem
      exact second.last t (ended.trans mem)

/-- The tokens of a substitution and the piece of the literal behind it. -/
theorem Placed.append_piece {low stop high : Nat} {ts : List Token} (placed : Placed low (some stop) ts)
    {t : Token} (pos : t.pos = stop) (piece : goesOn t.kind) (le : low ≤ stop) (lt : stop < high)
    (ends : t.endPos ≤ high) : Lined low high (ts ++ [t]) where
  chain := by
    refine List.isChain_append.mpr ⟨placed.chain, List.isChain_singleton _, fun u last v head => ?_⟩
    cases head
    have mem := List.mem_of_mem_getLast? last
    refine ⟨pos ▸ (placed.high u mem stop rfl).le, fun other => pos ▸ placed.ends u mem stop rfl ?_⟩
    rcases other with other | other
    · rw [piece] at other
      cases other
    · exact other
  low u mem := by
    rcases List.mem_append.mp mem with mem | mem
    · exact placed.low u mem
    · rw [List.mem_singleton.mp mem, pos]
      exact le
  high u mem s same := by
    cases same
    rcases List.mem_append.mp mem with mem | mem
    · exact (placed.high u mem stop rfl).trans lt
    · rw [List.mem_singleton.mp mem, pos]
      exact lt
  ends u mem s same other := by
    cases same
    rcases List.mem_append.mp mem with mem | mem
    · exact (placed.ends u mem stop rfl other).trans lt.le
    · rwa [List.mem_singleton.mp mem]
  last u mem := by
    rw [List.getLast?_concat] at mem
    cases mem
    exact ends

theorem lined_singleton {t : Token} {high : Nat} (lt : t.pos < high) (ends : t.endPos ≤ high) :
    Lined t.pos high [t] where
  chain := List.isChain_singleton _
  low u mem := by rw [List.mem_singleton.mp mem]
  high u mem s same := by
    cases same
    rwa [List.mem_singleton.mp mem]
  ends u mem s same _ := by
    cases same
    rwa [List.mem_singleton.mp mem]
  last u mem := by
    cases mem
    exact ends

/-! ## Template literals -/

theorem exists_of_bind_eq_ok {α β : Type} {x : Except Failure α} {f : α → Except Failure β} {b : β}
    (result : (x >>= f) = .ok b) : ∃ a, x = .ok a ∧ f a = .ok b := by
  cases x with
  | error e => cases result
  | ok a => exact ⟨a, rfl, result⟩

section Literal

variable {text : List Char} {read : Reader} {t : Token}

/-- A reader of substitutions that gives tokens in order. -/
def Reader.Orders (read : Reader) (text : List Char) : Prop :=
  ∀ start line stop body, scanSubstitution start (text.drop start) = .ok stop →
    read start line stop = .ok body → Placed start (some stop) body.tokens

/-- A substitution of a literal is one of the text around the literal. -/
theorem scanSubstitution_of_literal {pos : Nat} {lit more : List Char} (same : text.drop pos = lit ++ more)
    {start stop : Nat} (closed : scanSubstitution start (lit.drop start) = .ok stop) :
    scanSubstitution (pos + start) (text.drop (pos + start)) = .ok (pos + stop) := by
  obtain ⟨spans, closed⟩ := Template.scanSubstitution_eq_ok_iff.mp closed
  have inside : start ≤ lit.length := by
    by_contra outside
    rw [List.drop_eq_nil_of_le (by omega)] at closed
    cases closed
  have whole : text.drop (pos + start) = lit.drop start ++ more := by
    rw [← List.drop_drop, same, List.drop_append_of_le_length inside]
  have moved := Template.run_move_ok pos (List.cons_ne_nil _ _) (Template.run_extend closed more)
  rw [Nat.add_comm pos start, Nat.add_comm pos stop] at *
  exact Template.scanSubstitution_eq_ok_iff.mpr ⟨_, whole ▸ moved⟩

theorem stop_lt_length {lit : List Char} {start stop : Nat}
    (closed : scanSubstitution start (lit.drop start) = .ok stop) : stop < lit.length := by
  obtain ⟨spans, closed⟩ := Template.scanSubstitution_eq_ok_iff.mp closed
  obtain ⟨low, marked⟩ := Template.marked_of_run closed
  have inside := (List.getElem?_eq_some_iff.mp marked).1
  simp only [Template.Frame.behind, List.length_drop] at low inside
  omega

/-- Where the text in front of some substitutions ends at the latest. -/
def bound (lit : List Char) (spans : List Span) : Nat := (spans.head?.map (·.start)).getD lit.length

theorem spread_cons {lit : List Char} {pos stop : Nat} {s : Span} {spans : List Span}
    (spread : Spread pos (lit.drop pos) (s :: spans) stop) :
    pos + 2 ≤ s.start ∧ scanSubstitution s.start (lit.drop s.start) = .ok s.stop
      ∧ Spread (s.stop + 1) (lit.drop (s.stop + 1)) spans stop := by
  cases spread with
  | cons low closed further =>
    rw [List.drop_drop, Nat.add_sub_cancel' (by omega)] at closed
    have := Template.le_of_scanSubstitution closed
    rw [List.drop_drop, Nat.add_sub_cancel' (by omega)] at further
    exact ⟨low, closed, further⟩

theorem lt_bound {lit : List Char} {pos stop : Nat} {spans : List Span}
    (spread : Spread pos (lit.drop pos) spans stop) (inside : pos ≤ lit.length) :
    pos ≤ bound lit spans ∧ bound lit spans ≤ lit.length := by
  cases spans with
  | nil => exact ⟨inside, Nat.le_refl _⟩
  | cons s spans =>
    obtain ⟨low, closed, -⟩ := spread_cons spread
    have := Template.le_of_scanSubstitution closed
    have := stop_lt_length closed
    simp only [bound, List.head?_cons, Option.map_some, Option.getD_some]
    omega

/-- The text in front of some substitutions. -/
theorem head_quasis {lit : List Char} {pos stop : Nat} {spans : List Span} {q : List Char}
    {qs : List (List Char)} (cut : Template.quasis lit pos spans = q :: qs)
    (spread : Spread pos (lit.drop pos) spans stop) (inside : pos ≤ lit.length) :
    pos + q.length ≤ bound lit spans := by
  have := lt_bound spread inside
  cases spans with
  | nil =>
    obtain ⟨rfl, -⟩ := List.cons.inj cut
    simp only [bound, List.head?_nil, Option.map_none, Option.getD_none, List.length_drop,
      List.length_dropLast] at this ⊢
    omega
  | cons s spans =>
    obtain ⟨rfl, -⟩ := List.cons.inj cut
    obtain ⟨low, -, -⟩ := spread_cons spread
    simp only [bound, List.head?_cons, Option.map_some, Option.getD_some, Template.slice,
      List.length_drop, List.length_take] at this ⊢
    omega

theorem exists_quasis (lit : List Char) (pos : Nat) (spans : List Span) :
    ∃ q qs, Template.quasis lit pos spans = q :: qs := by
  cases spans <;> exact ⟨_, _, rfl⟩

/-- The tokens of the substitutions of a literal, with the pieces behind them. -/
theorem lined_substitutions (reads : read.Orders text) {more : List Char}
    (same : text.drop t.pos = t.text.toList ++ more) {pos stop : Nat} {spans : List Span}
    (spread : Spread pos (t.text.toList.drop pos) spans stop) {q : List Char} {qs : List (List Char)}
    (cut : Template.quasis t.text.toList pos spans = q :: qs) {found : Lexed}
    (expanded : substitutions read t spans qs = .ok found) :
    Lined (t.pos + bound t.text.toList spans) (t.pos + t.text.toList.length) found.tokens := by
  induction spans generalizing pos q qs found with
  | nil =>
    cases expanded
    exact ⟨placed_nil _ _, by simp⟩
  | cons s spans ih =>
    obtain ⟨low, closed, further⟩ := spread_cons spread
    obtain ⟨q', qs', cut'⟩ := exists_quasis t.text.toList (s.stop + 1) spans
    obtain ⟨-, rfl⟩ := List.cons.inj cut
    rw [cut'] at expanded
    obtain ⟨body, readBody, expanded⟩ := exists_of_bind_eq_ok expanded
    obtain ⟨rest, readRest, expanded⟩ := exists_of_bind_eq_ok expanded
    cases expanded
    have short := stop_lt_length closed
    have le := Template.le_of_scanSubstitution closed
    have behind := head_quasis cut' further (by omega)
    obtain ⟨-, inside⟩ := lt_bound further (by omega)
    have placed := reads _ _ _ _ (scanSubstitution_of_literal same closed) readBody
    have piece : Lined (t.pos + s.start) (t.pos + bound t.text.toList spans) (body.tokens
        ++ [piece (if spans.isEmpty then .templateTail else .templateMiddle) q' t s.stop]) := by
      refine placed.append_piece rfl ?_ (by omega) (by omega) ?_
      · cases spans <;> rfl
      · simp only [piece, Token.endPos, String.length_ofList]
        omega
    exact piece.append (ih further cut' readRest) (by omega) (by omega)

/-- The tokens of a literal stand between its start and its end. -/
theorem lined_template (reads : read.Orders text) {more : List Char}
    (same : text.drop t.pos = t.text.toList ++ more) {found : Lexed} (some_ : t.text ≠ "")
    (expanded : template read t = .ok found) : Lined t.pos (t.pos + t.text.toList.length) found.tokens := by
  obtain ⟨⟨quasis, spans⟩, split, expanded⟩ := exists_of_bind_eq_ok expanded
  obtain ⟨⟨stop, spans'⟩, scanned, split⟩ := exists_of_bind_eq_ok split
  cases split
  obtain ⟨_, rfl, literal⟩ := Template.run_template_eq_ok_iff.mp scanned
  have spread := Template.spread_of_literal literal
  rw [Nat.zero_add] at spread
  have long : 0 < t.text.toList.length := by
    rw [String.length_toList]
    exact Nat.pos_of_ne_zero fun none => some_ (String.length_eq_zero_iff.mp none)
  cases spans with
  | nil =>
    cases expanded
    exact lined_singleton (by omega) (by rw [Token.endPos, String.length_toList])
  | cons s spans =>
    obtain ⟨q, qs, cut⟩ := exists_quasis t.text.toList 1 (s :: spans)
    simp only [cut] at expanded
    obtain ⟨rest, readRest, expanded⟩ := exists_of_bind_eq_ok expanded
    cases expanded
    obtain ⟨low, inside⟩ := lt_bound spread (by omega)
    have ends := head_quasis cut spread (by omega)
    have head : Lined t.pos (t.pos + bound t.text.toList (s :: spans)) [piece .templateHead q t 0] := by
      refine lined_singleton (t := piece .templateHead q t 0) ?_ ?_
      · simp only [piece]
        omega
      · simp only [piece, Token.endPos, String.length_ofList]
        omega
    exact head.append (lined_substitutions reads same spread cut readRest) (by omega) (by omega)

end Literal

/-! ## Keeping step -/

/-- A scan of the substitution that ends at `stop`, if there is one, is in its code at an offset, or has
ended. -/
def InStep (stop : Option Nat) (pos : Nat) (cs : List Char) : Prop :=
  ∀ s ∈ stop, s < pos ∨ ∃ start depth spans found,
    Template.run pos 0 ⟨[.substitution start depth], .code, spans⟩ cs = .ok (s, found)

theorem InStep.next {stop : Option Nat} {pos : Nat} {c : Char} {cs : List Char} {shape : Lexer.Shape} {n : Nat}
    (step : InStep stop pos (c :: cs)) (measured : measure pos c cs = .ok (shape, n)) :
    InStep stop (pos + n) ((c :: cs).drop n) := by
  obtain ⟨some_, -⟩ := measure_bounds measured
  intro s stops
  rcases step s stops with past | ⟨start, depth, spans, found, closed⟩
  · exact .inl (by omega)
  rcases sync_measure measured closed with ⟨depth', further⟩ | here | ⟨next, two, -⟩
  · exact .inr ⟨start, depth', spans, found, further⟩
  · exact .inl (by dsimp only at here; omega)
  · exact .inl (by dsimp only at next; omega)

/-- A lexeme in front of the end of a substitution ends in front of it, too, unless it is a bar and a
brace. -/
theorem InStep.le {stop : Option Nat} {pos : Nat} {c : Char} {cs : List Char} {shape : Lexer.Shape} {n : Nat}
    (step : InStep stop pos (c :: cs)) (measured : measure pos c cs = .ok (shape, n))
    (other : shape ≠ .token .exactRbrace) : ∀ s ∈ stop, pos < s → pos + n ≤ s := by
  intro s stops lt
  rcases step s stops with past | ⟨start, depth, spans, found, closed⟩
  · omega
  rcases sync_measure measured closed with ⟨depth', further⟩ | here | ⟨-, -, bar⟩
  · exact Nat.le_of_lt_succ (Template.marked_of_run further).1
  · dsimp only at here
    omega
  · exact absurd bar other

/-! ## The tokens of a text -/

theorem placed_collect {text : List Char} {read : Reader} (reads : read.Orders text) {pos line : Nat}
    {cs left : List Char} {ls : List Lexeme} (cut : Cut pos line cs ls left) (same : text.drop pos = cs)
    {stop : Option Nat} (step : InStep stop pos cs) {failure : Option Failure} {found : Lexed}
    (collected : collect read stop failure ls = .ok found) : Placed pos stop found.tokens := by
  induction cut generalizing found with
  | nil =>
    cases failure <;> cases collected
    exact placed_nil _ _
  | @cons pos line c cs piece more left shape ls measured whole further ih =>
    have dropped : (c :: cs).drop piece.length = more := by rw [whole, List.drop_left]
    have rest {found : Lexed} (collected : collect read stop failure ls = .ok found) :
        Placed (pos + piece.length) stop found.tokens :=
      ih (by rw [← List.drop_drop, same, dropped]) (dropped ▸ step.next measured) collected
    rw [collect] at collected
    split at collected
    next comment _ _ =>
      obtain ⟨later, collects, join⟩ := exists_of_bind_eq_ok collected
      cases join
      exact (rest collects).mono (Nat.le_add_right _ _)
    next => exact (rest collected).mono (Nat.le_add_right _ _)
    next t _ token =>
      obtain ⟨characters, pos_, -, -⟩ := eq_of_token? token
      obtain rfl : pos = t.pos := pos_
      obtain rfl : piece = t.text.toList := characters
      split at collected
      · cases collected
        exact placed_nil _ _
      next early =>
        have before : ∀ s ∈ stop, t.pos < s := by
          rintro s rfl
          simpa using early
        have some_ : t.text ≠ "" := fun empty => by
          have := (measure_bounds measured).1
          simp [empty] at this
        obtain rfl : shape = .token t.kind := shape_of_token? token
        have reach (other : t.kind ≠ .exactRbrace) : ∀ s ∈ stop, t.pos + t.text.toList.length ≤ s :=
          fun s stops => step.le measured (fun bar => other (Shape.token.inj bar)) s stops (before s stops)
        -- the tokens of this lexeme come first, and the others behind it
        have joins {first : Lexed} (lined : Lined t.pos (t.pos + t.text.toList.length) first.tokens)
            (early : ∀ u ∈ first.tokens, ∀ s ∈ stop, u.pos < s ∧ (u.kind ≠ .exactRbrace → u.endPos ≤ s))
            (collected : (do return join first (← collect read stop failure ls)) = Except.ok found) :
            Placed t.pos stop found.tokens := by
          obtain ⟨later, collects, join⟩ := exists_of_bind_eq_ok collected
          cases join
          exact lined.append_placed early (Nat.le_add_right _ _) (rest collects)
        dsimp only at collected
        split at collected
        next literal =>
          obtain ⟨first, expanded, collected⟩ := exists_of_bind_eq_ok collected
          have lined := lined_template reads (same.trans whole) some_ expanded
          refine joins lined (fun u mem s stops => ?_) collected
          have high := reach (by rw [literal]; decide) s stops
          exact ⟨(lined.high u mem _ rfl).trans_le high, fun other => (lined.ends u mem _ rfl other).trans high⟩
        next =>
          refine joins (lined_singleton ?_ ?_) (fun u mem s stops => ?_) collected
          · have := (measure_bounds measured).1
            omega
          · rw [Token.endPos, String.length_toList]
          · rw [List.mem_singleton.mp mem]
            refine ⟨before s stops, fun other => ?_⟩
            rw [Token.endPos, ← String.length_toList]
            exact reach other s stops

theorem placed_expand {text : List Char} (depth : Nat) {start line : Nat} {stop : Option Nat}
    (step : InStep stop start (text.drop start)) {found : Lexed}
    (expanded : expand text depth start line stop = .ok found) : Placed start stop found.tokens := by
  induction depth generalizing start line stop found with
  | zero =>
    cases expanded
    exact placed_nil _ _
  | succ depth ih =>
    obtain ⟨left, cut, -⟩ := cut_lexemes start line (text.drop start)
    refine placed_collect (fun start line stop body closed read => ?_) cut rfl step expanded
    refine ih (fun s same => ?_) read
    cases same
    obtain ⟨spans, closed⟩ := Template.scanSubstitution_eq_ok_iff.mp closed
    exact .inr ⟨_, _, _, _, closed⟩

end Retype.Expand
