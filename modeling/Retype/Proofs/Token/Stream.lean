import Retype.Proofs.Token.Filled
import Retype.Proofs.Token.Order
import Retype.Proofs.Token.Settled
import Retype.Token.Stream

/-!
# What the parser reads is what was written

Between the expanded tokens of a text and the tokens that the parser reads, kinds are settled and
semicolons are put in.  Nothing else happens (`read_kept`): no token is lost, moved or changed, and the
order of the offsets is kept.  A semicolon is put in right behind a token.  So for the order it matters
that the next token starts behind that end, and this is so since no semicolon is put in front of a
piece of a template literal.
-/

namespace Retype.Stream

open TokenKind Expand Semicolon Context
open Lexer (Lexed)

/-! ## Order -/

theorem goesOn_of_settles {k l : TokenKind} (settles : Settles k l) : goesOn l = goesOn k := by
  cases settles <;> rfl

theorem Follows.retags {t t' u u' : Token} (follows : Follows t u) (left : Retags t t')
    (right : Retags u u') : Follows t' u' := by
  obtain ⟨before, ends⟩ := follows
  rw [left.1, right.1]
  refine ⟨before, fun apart => ends (apart.imp (fun piece => ?_) fun other => ?_)⟩
  · rw [← goesOn_of_settles right.2]
    exact piece
  · exact fun bar => other ((settles_eq_closer left.2 rfl).mp bar.symm).symm

theorem chain_retags {ts us : List Token} (chain : ts.IsChain Follows)
    (retags : List.Forall₂ Retags ts us) : us.IsChain Follows := by
  induction retags with
  | nil => exact .nil
  | cons first rest ih =>
    rw [List.isChain_cons] at chain ⊢
    refine ⟨fun u head => ?_, ih chain.2⟩
    cases rest with
    | nil => cases head
    | cons next _ =>
      cases head
      exact Follows.retags (chain.1 _ rfl) first next

theorem goesOn_of_missingIn {s : Setting} {prev t : Token} (missing : missingIn s prev t) :
    goesOn t.kind = false := by
  rw [missingIn, if_neg (ne_semi_of_missingIn missing)] at missing
  split at missing
  next brace => rw [brace]; rfl
  next =>
    simp only [Bool.and_eq_true] at missing
    have starts := missing.1.2
    generalize t.kind = k at starts
    cases k <;> first | rfl | cases starts

/-- Semicolons are put in between the tokens around them. -/
theorem chain_fill (s : Setting) {prev : Token} {ts : List Token}
    (chain : (prev :: ts).IsChain Follows) :
    (prev :: fill s prev ts).IsChain fun t u => t.pos ≤ u.pos := by
  induction ts generalizing s prev with
  | nil =>
    rw [fill]
    split
    · exact List.isChain_singleton _
    · exact List.isChain_pair.mpr (pos_le_endPos prev)
  | cons t ts ih =>
    obtain ⟨follows, rest⟩ := List.isChain_cons_cons.mp chain
    rw [fill]
    split
    next missing =>
      refine List.isChain_cons_cons.mpr ⟨pos_le_endPos prev, List.isChain_cons_cons.mpr ⟨?_, ih _ rest⟩⟩
      exact follows.2 (.inl (goesOn_of_missingIn missing))
    next => exact List.isChain_cons_cons.mpr ⟨follows.1, ih _ rest⟩

theorem pairwise_insertAll {ts : List Token} (chain : ts.IsChain Follows) :
    (insertAll ts).Pairwise fun t u => t.pos ≤ u.pos := by
  cases ts with
  | nil => exact .nil
  | cons t ts =>
    rw [insertAll_eq_fill]
    have : IsTrans Token fun t u => t.pos ≤ u.pos := ⟨fun _ _ _ => Nat.le_trans⟩
    exact List.isChain_iff_pairwise.mp (chain_fill _ chain)

theorem chain_read {text : List Char} {raw : Lexed} (expanded : Expand.read text = .ok raw) :
    raw.tokens.IsChain Follows := by
  obtain ⟨found, whole, same⟩ := exists_of_bind_eq_ok expanded
  cases same
  exact (placed_expand _ (fun s (none : s ∈ none) => by cases none) whole).chain

/-! ## The tokens that the parser reads -/

/-- Tokens with their kinds settled and semicolons put in. -/
structure Kept (raw out : List Token) : Prop where
  /-- Without the semicolons put in, the tokens are the same but for settled kinds, and the same
  brackets match. -/
  tokens : ∃ settled, List.Forall₂ Retags raw settled ∧ Filled none settled out
    ∧ Bracket.pairs (settled.map (·.kind)) = Bracket.pairs (raw.map (·.kind))
  /-- Offsets do not decrease. -/
  ordered : out.Pairwise fun t u => t.pos ≤ u.pos
  /-- The last token is a semicolon. -/
  ended : ∀ t ∈ out.getLast?, t.kind = semi
  /-- The brace that closes a block stands behind a semicolon, a comma or the brace that opens it. -/
  blocks : ∀ p ∈ Bracket.pairs (out.map (·.kind)), ∀ t, out[p.opener]? = some t →
    t.kind = blockLbrace → ∃ i u, p.closer = i + 1 ∧ out[i]? = some u
      ∧ (u.kind = semi ∨ u.kind = blockLbrace ∨ u.kind = comma)
  /-- No semicolon is missing any more. -/
  again : insertAll out = out

theorem kept_insertAll {raw : List Token} (chain : raw.IsChain Follows) :
    Kept raw (insertAll (classify raw)) where
  tokens := ⟨classify raw, retags_classify raw, filled_insertAll _, pairs_classify raw⟩
  ordered := pairwise_insertAll (chain_retags chain (retags_classify raw))
  ended t mem := by
    obtain ⟨some_, rfl⟩ := List.mem_getLast?_eq_getLast mem
    exact getLast_insertAll some_
  blocks p matched t opener block := before_block_end matched opener block
  again := insertAll_insertAll _

/-- The parser reads the expanded tokens of a text, with their kinds settled and semicolons put in. -/
theorem read_kept {text : List Char} {found : Lexed} (read : Stream.read text = .ok found) :
    ∃ raw, Expand.read text = .ok raw ∧ raw.comments = found.comments
      ∧ Kept raw.tokens found.tokens := by
  obtain ⟨raw, expanded, same⟩ := exists_of_bind_eq_ok read
  cases same
  exact ⟨raw, expanded, rfl, kept_insertAll (chain_read expanded)⟩

/-- A block that ends without a semicolon, an arrow function with a return type, and a template literal
whose substitution ends in a bar and a brace. -/
theorem read_kept_block : ∃ found raw,
    Stream.read "if (a) \x7b b\n\x7d\n\x60$\x7b(c): d => e |\x7df\x60".toList = .ok found
      ∧ Expand.read "if (a) \x7b b\n\x7d\n\x60$\x7b(c): d => e |\x7df\x60".toList = .ok raw
      ∧ found.tokens.map (·.kind) = [kwIf, lparen, name, rparen, blockLbrace, name, semi, rbrace, semi,
        templateHead, arrowLparen, name, rparen, colon, name, returnArrow, name, exactRbrace,
        templateTail, semi]
      ∧ Kept raw.tokens found.tokens := by
  have accepted : (Stream.read "if (a) \x7b b\n\x7d\n\x60$\x7b(c): d => e |\x7df\x60".toList).toOption.any
      fun found => found.tokens.map (·.kind) = [kwIf, lparen, name, rparen, blockLbrace, name, semi, rbrace,
        semi, templateHead, arrowLparen, name, rparen, colon, name, returnArrow, name, exactRbrace,
        templateTail, semi] := by decide +kernel
  cases read : Stream.read "if (a) \x7b b\n\x7d\n\x60$\x7b(c): d => e |\x7df\x60".toList with
  | error e =>
    rw [read] at accepted
    cases accepted
  | ok found =>
    rw [read] at accepted
    obtain ⟨raw, expanded, -, kept⟩ := read_kept read
    exact ⟨found, raw, rfl, expanded, of_decide_eq_true accepted, kept⟩

end Retype.Stream
