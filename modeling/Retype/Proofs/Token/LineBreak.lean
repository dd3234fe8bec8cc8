import Retype.Proofs.Token.Behind
import Retype.Proofs.Token.Stream

/-!
# Line breaks behind a token

Kinds are settled and semicolons are put in by looking at the lines of tokens.  What counts is whether
a token that may end a statement stands on an earlier line than the next one, or than the one behind the
next if that is an `async`, and whether the later one may start a statement.  So a line break behind a
token that ends no statement and is no `async` changes nothing, and neither does one in front of a token
that starts no statement: the tokens behind it go down by one line, and the parser reads the same tokens
(`read_set`).
-/

namespace Retype

/-- A token without its line. -/
def Token.unlined (t : Token) : Token := { t with line := 0 }

namespace Stream

open TokenKind Context Semicolon Expand
open Lexer (Lexed Code)

/-! ## Tokens that go down -/

/-- A line break behind a token of a kind and in front of some others that is no end of a statement: the
token ends none, or the next one starts none. -/
def Smooth (k : TokenKind) (ts : List Token) : Prop :=
  (k ≠ kwAsync ∧ endsStatement k = false) ∨ ∃ t ∈ ts.head?, startsStatement t.kind = false

/-- Tokens before and after a smooth line break. -/
inductive Broken : List Token → List Token → Prop where
  | here {op : Token} {ts : List Token} (smooth : Smooth op.kind ts) :
      Broken (op :: ts) (op :: ts.map (Token.move 0 1))
  | later (t : Token) {ts ts' : List Token} (further : Broken ts ts') : Broken (t :: ts) (t :: ts')

/-- A token in front of a line break or behind it, before and after. -/
structure Level (t t' : Token) : Prop where
  kind : t'.kind = t.kind
  line : endsStatement t.kind → t'.endLine = t.endLine + 1

theorem level_move (t : Token) : Level t (t.move 0 1) := ⟨rfl, fun _ => Nat.add_right_comm ..⟩

theorem level_self {t : Token} (runs : endsStatement t.kind = false) : Level t t :=
  ⟨rfl, fun ends => by rw [runs] at ends; cases ends⟩

theorem map_kind_broken {ts ts' : List Token} (broken : Broken ts ts') :
    ts'.map (·.kind) = ts.map (·.kind) := by
  induction broken with
  | here => simp [Token.move]
  | later t further ih => simp [ih]

/-! ## Settled kinds -/

section Settle

variable {prev prev' : Token} {prev2 prev2' : Option Token}

theorem declares_move (level : Option.Rel Level prev2 prev2') (t : Token) :
    declares prev2' (t.move 0 1) = declares prev2 t := by
  cases level with
  | none => rfl
  | @some p p' level =>
    simp only [declares, level.kind]
    cases ends : endsStatement p.kind with
    | false => rfl
    | true =>
      rw [level.line ends]
      simp [Token.move]

theorem settle_move (bodies : List Nat) (i : Nat) (near : Level prev prev')
    (far : prev.kind = kwAsync → Option.Rel Level prev2 prev2') (t : Token) :
    settle bodies i (some prev') prev2' (t.move 0 1) = settle bodies i (some prev) prev2 t := by
  have kind : (t.move 0 1).kind = t.kind := rfl
  simp only [settle, kind, Option.all_some, Option.any_some, near.kind, decide_eq_true_eq]
  split
  · rfl
  · split
    next async => rw [declares_move (far async)]
    next => rw [declares_move (.some near)]
  · rfl

theorem markRest_move (bodies : List Nat) (i : Nat) (near : Level prev prev')
    (far : prev.kind = kwAsync → Option.Rel Level prev2 prev2') (ts : List Token) :
    markRest bodies i (some prev') prev2' (ts.map (Token.move 0 1))
      = (markRest bodies i (some prev) prev2 ts).map (Token.move 0 1) := by
  induction ts generalizing i prev prev' prev2 prev2' with
  | nil => rfl
  | cons t ts ih =>
    rw [List.map_cons, markRest, markRest, settle_move bodies i near far]
    exact congrArg (_ :: ·) (ih (i + 1) (level_move _) fun _ => .some near)

end Settle

theorem endsStatement_of_settles {k l : TokenKind} (settles : Settles k l) :
    endsStatement l = endsStatement k ∧ (k ≠ kwAsync → l ≠ kwAsync) := by
  cases settles with
  | same => exact ⟨rfl, id⟩
  | _ => exact ⟨rfl, fun _ => by decide⟩

theorem startsStatement_of_settles {k l : TokenKind} (settles : Settles k l)
    (calm : startsStatement k = false) : startsStatement l = false := by
  cases settles with
  | same => exact calm
  | _ => rfl

theorem Smooth.retags {k l : TokenKind} {ts us : List Token} (smooth : Smooth k ts) (settles : Settles k l)
    (rest : List.Forall₂ Retags ts us) : Smooth l us := by
  rcases smooth with ⟨other, runs⟩ | ⟨t, next, calm⟩
  · obtain ⟨ends, async⟩ := endsStatement_of_settles settles
    exact .inl ⟨async other, ends.trans runs⟩
  · obtain ⟨ts, rfl⟩ := List.head?_eq_some_iff.mp next
    obtain ⟨u, us, first, -, rfl⟩ := List.forall₂_cons_left_iff.mp rest
    exact .inr ⟨u, rfl, startsStatement_of_settles first.2 calm⟩

/-- A kind that starts no statement is settled without a look at lines. -/
theorem settle_of_calm (bodies : List Nat) (i : Nat) (prev prev2 : Option Token) {t : Token}
    (calm : startsStatement t.kind = false) :
    settle bodies i prev prev2 (t.move 0 1) = settle bodies i prev prev2 t := by
  have kind : (t.move 0 1).kind = t.kind := rfl
  simp only [settle, kind]
  split
  · rfl
  next isFunction =>
    rw [isFunction] at calm
    cases calm
  · rfl

theorem markRest_smooth (bodies : List Nat) (i : Nat) {op : Token} (prev2 : Option Token) {ts : List Token}
    (smooth : Smooth op.kind ts) : markRest bodies i (some op) prev2 (ts.map (Token.move 0 1))
      = (markRest bodies i (some op) prev2 ts).map (Token.move 0 1) := by
  rcases smooth with ⟨other, runs⟩ | ⟨t, next, calm⟩
  · exact markRest_move bodies i (level_self runs) (fun same => absurd same other) ts
  · obtain ⟨ts, rfl⟩ := List.head?_eq_some_iff.mp next
    have other : settle bodies i (some op) prev2 t ≠ kwAsync := by
      refine (endsStatement_of_settles (settles_settle bodies i (some op) prev2 t)).2 fun isAsync => ?_
      rw [isAsync] at calm
      cases calm
    have settled := level_move (t.retag (settle bodies i (some op) prev2 t))
    rw [List.map_cons, markRest, markRest, settle_of_calm bodies i (some op) prev2 calm]
    exact congrArg (_ :: ·) (markRest_move bodies (i + 1) settled (fun same => absurd same other) ts)

theorem markRest_broken (bodies : List Nat) (i : Nat) (prev prev2 : Option Token) {ts ts' : List Token}
    (broken : Broken ts ts') : Broken (markRest bodies i prev prev2 ts) (markRest bodies i prev prev2 ts') := by
  induction broken generalizing i prev prev2 with
  | @here op ts smooth =>
    have settles := settles_settle bodies i prev prev2 op
    have smooth' : Smooth (op.retag (settle bodies i prev prev2 op)).kind ts :=
      smooth.retags settles (List.forall₂_same.mpr fun t _ => ⟨rfl, .same t.kind⟩)
    rw [markRest, markRest, markRest_smooth bodies (i + 1) prev smooth']
    exact .here (smooth.retags settles (retags_markRest bodies _ _ _ ts))
  | later t further ih => exact .later _ (ih (i + 1) _ prev)

theorem zipWith_broken {ts ts' : List Token} (broken : Broken ts ts') {ks : List TokenKind}
    (settles : List.Forall₂ Settles (ts.map (·.kind)) ks) :
    Broken (List.zipWith Token.retag ts ks) (List.zipWith Token.retag ts' ks) := by
  induction broken generalizing ks with
  | @here op ts smooth =>
    obtain ⟨k, ks, first, rest, rfl⟩ := List.forall₂_cons_left_iff.mp settles
    have moved : List.zipWith Token.retag (ts.map (Token.move 0 1)) ks
        = (List.zipWith Token.retag ts ks).map (Token.move 0 1) := by
      rw [List.zipWith_map_left, List.map_zipWith]
      rfl
    rw [List.zipWith_cons_cons, List.zipWith_cons_cons, moved]
    exact .here (smooth.retags first (retags_zipWith rest))
  | later t further ih =>
    obtain ⟨k, ks, first, rest, rfl⟩ := List.forall₂_cons_left_iff.mp settles
    exact .later _ (ih rest)

theorem classify_broken {ts ts' : List Token} (broken : Broken ts ts') :
    Broken (classify ts) (classify ts') := by
  rw [classify, classify, map_kind_broken broken]
  exact markRest_broken _ 0 none none (zipWith_broken broken (settles_markParens _))

/-! ## Missing semicolons -/

theorem missing_move (ks : List TokenKind) (ps : List Bracket.Pair) (i : Nat) {prev prev' : Token}
    (level : Level prev prev') (t : Token) :
    missing ks ps i prev' (t.move 0 1) = missing ks ps i prev t := by
  have kind : (t.move 0 1).kind = t.kind := rfl
  simp only [missing, level.kind, kind]
  cases ends : endsStatement prev.kind with
  | false => simp
  | true =>
    rw [level.line ends]
    simp [Token.move]

theorem unlined_behind {prev prev' : Token} (same : prev'.unlined = prev.unlined) :
    (behind prev').unlined = (behind prev).unlined := by
  have place : prev'.unlined.endPos = prev.unlined.endPos := congrArg Token.endPos same
  change prev'.endPos = prev.endPos at place
  rw [behind, behind, Token.unlined, Token.unlined, place]

theorem insertFrom_move (ks : List TokenKind) (ps : List Bracket.Pair) (i : Nat) {prev prev' : Token}
    (level : Level prev prev') (same : prev'.unlined = prev.unlined) (ts : List Token) :
    (insertFrom ks ps i prev' (ts.map (Token.move 0 1))).map Token.unlined
      = (insertFrom ks ps i prev ts).map Token.unlined := by
  induction ts generalizing i prev prev' with
  | nil =>
    rw [List.map_nil, insertFrom, insertFrom, level.kind]
    split
    · rfl
    · rw [List.map_singleton, List.map_singleton, unlined_behind same]
  | cons t ts ih =>
    have rest := ih (i + 1) (level_move t) rfl
    have here : (t.move 0 1).unlined = t.unlined := rfl
    rw [List.map_cons, insertFrom, insertFrom, missing_move ks ps i level]
    split
    · simp only [List.map_cons, rest, unlined_behind same, here]
    · simp only [List.map_cons, rest, here]

/-- No semicolon is missing in front of a token that starts no statement because of the lines. -/
theorem missing_of_calm (ks : List TokenKind) (ps : List Bracket.Pair) (i : Nat) (prev : Token) {t : Token}
    (calm : startsStatement t.kind = false) : missing ks ps i prev (t.move 0 1) = missing ks ps i prev t := by
  have kind : (t.move 0 1).kind = t.kind := rfl
  simp only [missing, kind, calm, Bool.and_false, Bool.false_and]

theorem insertFrom_smooth (ks : List TokenKind) (ps : List Bracket.Pair) (i : Nat) {op : Token} {ts : List Token}
    (smooth : Smooth op.kind ts) : (insertFrom ks ps i op (ts.map (Token.move 0 1))).map Token.unlined
      = (insertFrom ks ps i op ts).map Token.unlined := by
  rcases smooth with ⟨-, runs⟩ | ⟨t, next, calm⟩
  · exact insertFrom_move ks ps i (level_self runs) rfl ts
  · obtain ⟨ts, rfl⟩ := List.head?_eq_some_iff.mp next
    have rest := insertFrom_move ks ps (i + 1) (level_move t) rfl ts
    have here : (t.move 0 1).unlined = t.unlined := rfl
    rw [List.map_cons, insertFrom, insertFrom, missing_of_calm ks ps i op calm]
    split
    · simp only [List.map_cons, rest, here]
    · simp only [List.map_cons, rest, here]

theorem insertFrom_broken (ks : List TokenKind) (ps : List Bracket.Pair) (i : Nat) (prev : Token)
    {ts ts' : List Token} (broken : Broken ts ts') :
    (insertFrom ks ps i prev ts').map Token.unlined = (insertFrom ks ps i prev ts).map Token.unlined := by
  induction broken generalizing i prev with
  | @here op ts smooth =>
    have rest := insertFrom_smooth ks ps (i + 1) smooth
    rw [insertFrom, insertFrom]
    split
    · simp only [List.map_cons, rest]
    · simp only [List.map_cons, rest]
  | later t further ih =>
    rw [insertFrom, insertFrom]
    split
    · simp only [List.map_cons, ih]
    · simp only [List.map_cons, ih]

theorem insertAll_broken {ts ts' : List Token} (broken : Broken ts ts') :
    (insertAll ts').map Token.unlined = (insertAll ts).map Token.unlined := by
  have kinds := map_kind_broken broken
  cases broken with
  | @here op ts smooth =>
    rw [insertAll, insertAll, kinds]
    exact congrArg (op.unlined :: ·) (insertFrom_smooth _ _ 1 smooth)
  | later t further =>
    rw [insertAll, insertAll, kinds]
    exact congrArg (t.unlined :: ·) (insertFrom_broken _ _ 1 t further)

/-! ## The tokens of a text -/

/-- The tokens of a text before and after a line break right behind one of them. -/
theorem broken_lower {front back : List Token} {op : Token} (chain : (front ++ op :: back).IsChain Follows)
    (some_ : op.pos < op.endPos) (whole : op.kind ≠ exactRbrace) (smooth : Smooth op.kind back) :
    Broken (front ++ op :: back) ((front ++ op :: back).map (Token.lower op.endPos)) := by
  have : IsTrans Token fun t u => t.pos ≤ u.pos := ⟨fun _ _ _ => Nat.le_trans⟩
  induction front with
  | nil =>
    obtain ⟨first, rest⟩ := List.isChain_cons.mp chain
    have lowered : back.map (Token.lower op.endPos) = back.map (Token.move 0 1) := by
      refine List.map_congr_left fun u member => lower_of_le ?_
      cases back with
      | nil => cases member
      | cons v back =>
        have ends : op.endPos ≤ v.pos := (first v rfl).2 (.inr whole)
        have sorted := List.isChain_iff_pairwise.mp (rest.imp fun t u (follows : Follows t u) => follows.1)
        rcases List.mem_cons.mp member with rfl | member
        · exact ends
        · exact ends.trans ((List.pairwise_cons.mp sorted).1 u member)
    rw [List.nil_append, List.map_cons, lower_of_lt some_, lowered]
    exact .here smooth
  | cons t front ih =>
    obtain ⟨-, rest⟩ := List.isChain_cons.mp chain
    have sorted := List.isChain_iff_pairwise.mp (chain.imp fun t u (follows : Follows t u) => follows.1)
    have before : t.pos ≤ op.pos := (List.pairwise_cons.mp sorted).1 op (by simp)
    rw [List.cons_append, List.map_cons, lower_of_lt (Nat.lt_of_le_of_lt before some_)]
    exact .later t (ih rest)

/-- The parser reads the same tokens if a blank behind a token is replaced by a line end. -/
theorem read_set {text : List Char} (sound : Sound text) {raw : Lexed} (read : Expand.read text = .ok raw)
    {front back : List Token} {op : Token} (tokens : raw.tokens = front ++ op :: back)
    (plain : isTemplate op.kind = false) (whole : op.kind ≠ exactRbrace) (smooth : Smooth op.kind back)
    (blank : text[op.endPos]? = some ' ') :
    ∃ found found', Stream.read text = .ok found ∧ Stream.read (text.set op.endPos '\n') = .ok found'
      ∧ found'.tokens.map Token.unlined = found.tokens.map Token.unlined ∧ found'.comments = found.comments := by
  have chain := chain_read read
  have reads : Stream.read text = .ok { raw with tokens := insertAll (classify raw.tokens) } := by
    rw [Stream.read, read]
    rfl
  obtain ⟨found, expanded, same⟩ := exists_of_bind_eq_ok read
  cases same
  dsimp only at tokens chain
  obtain ⟨some_, -, code⟩ := code_of_mem sound (Nat.lt_succ_self _) expanded (by rw [tokens]; simp) plain
  have broken := expand_code sound (code blank) (Nat.lt_succ_self _) expanded
  have read' : Expand.read (text.set op.endPos '\n')
      = .ok { found.lower op.endPos with comments := sortComments found.comments } := by
    rw [Expand.read, List.length_set, broken]
    rfl
  refine ⟨_, { tokens := insertAll (classify (found.tokens.map (Token.lower op.endPos)))
               comments := sortComments found.comments }, reads, ?_, ?_, rfl⟩
  · rw [Stream.read, read']
    rfl
  · rw [tokens] at chain ⊢
    exact insertAll_broken (classify_broken (broken_lower chain some_ whole smooth))

end Stream

end Retype
