import Mathlib.Data.List.Pairwise
import Retype.Proofs.Token.Bracket
import Retype.Token.Semicolon

/-!
# Inserted semicolons change nothing else

Whether a semicolon is missing in front of a token depends on the token before it, on the brackets that
are open, and on whether the token before closed a condition.  This is the *setting* of a token.  It is
found from the tokens in front, one after another, and `fill` inserts semicolons with it where
`Semicolon.insertAll` looks brackets up by their places.  The two do the same (`insertAll_eq_fill`).

A semicolon leaves the setting as it is, but for the token before.  So nothing is missing where
semicolons are put in already (`insertAll_insertAll`).
-/

namespace Retype.Semicolon

open TokenKind

/-! ## Settings -/

/-- An open bracket. -/
structure Open where
  /-- What closes it. -/
  closer : TokenKind
  /-- Whether it opens a block. -/
  block : Bool
  /-- Whether it stands behind an `if` or a `while`. -/
  condition : Bool
  deriving DecidableEq, Repr

/-- What the tokens in front of a token leave behind. -/
structure Setting where
  /-- The open brackets, the innermost first. -/
  opens : List Open := []
  /-- The kind before. -/
  prev : Option TokenKind := none
  /-- Whether the token before closes a condition. -/
  condition : Bool := false
  deriving DecidableEq, Repr

namespace Setting

/-- The bracket that a token closes. -/
def closes (s : Setting) (k : TokenKind) : Option Open :=
  match k.closer?, s.opens with
  | none, o :: _ => if o.closer = k then some o else none
  | _, _ => none

/-- Whether the token before starts a statement with a condition. -/
def heads (s : Setting) : Bool := s.prev = some kwIf || s.prev = some kwWhile

/-- The setting behind a token. -/
def next (s : Setting) (k : TokenKind) : Setting where
  opens :=
    match k.closer?, s.opens with
    | some c, _ => ⟨c, k = blockLbrace, s.heads⟩ :: s.opens
    | none, o :: outer => if o.closer = k then outer else o :: outer
    | none, [] => []
  prev := some k
  condition := k = rparen && (s.closes k).any (·.condition)

end Setting

/-- Whether a semicolon is missing between two tokens, in the setting of the second. -/
def missingIn (s : Setting) (prev t : Token) : Bool :=
  if prev.kind = semi then false
  else if t.kind = rbrace then
    (s.closes rbrace).any (·.block) && prev.kind ≠ blockLbrace && prev.kind ≠ comma
  else
    prev.endLine < t.line && Context.endsStatement prev.kind && startsStatement t.kind && !s.condition

/-- Puts in the missing semicolons behind a token. -/
def fill : Setting → (prev : Token) → List Token → List Token
  | _, prev, [] => if prev.kind = semi then [] else [behind prev]
  | s, prev, t :: ts =>
    if missingIn s prev t then behind prev :: t :: fill (s.next t.kind) t ts
    else t :: fill (s.next t.kind) t ts

/-! ## Brackets by their places -/

/-- Whether an `if` or a `while` stands in front of a place. -/
def headed (ks : List TokenKind) : Nat → Bool
  | 0 => false
  | j + 1 => ks[j]? = some kwIf || ks[j]? = some kwWhile

/-- The open bracket at a place. -/
def openAt (ks : List TokenKind) (e : Nat × TokenKind) : Open :=
  ⟨e.2, ks[e.1]? = some blockLbrace, headed ks e.1⟩

/-- The setting behind some of the tokens. -/
def settingOf (ks before : List TokenKind) : Setting where
  opens := (Bracket.stackFrom 0 [] before).map (openAt ks)
  prev := before.getLast?
  condition := closesCondition ks (Bracket.pairs ks) (before.length - 1)

theorem closes_settingOf (ks before : List TokenKind) (k : TokenKind) :
    (settingOf ks before).closes k =
      (Bracket.closes (Bracket.stackFrom 0 [] before) k).map fun j =>
        openAt ks (j, k) := by
  unfold Setting.closes Bracket.closes settingOf
  cases k.closer? with
  | some c => rfl
  | none =>
    rcases Bracket.stackFrom 0 [] before with _ | ⟨⟨j, c⟩, outer⟩
    · rfl
    · by_cases same : c = k
      · simp [openAt, same]
      · simp [openAt, same]

theorem headed_append (before : List TokenKind) (k : TokenKind) (after : List TokenKind) :
    headed (before ++ k :: after) before.length =
      (before.getLast? = some kwIf || before.getLast? = some kwWhile) := by
  rcases List.eq_nil_or_concat before with rfl | ⟨front, last, rfl⟩
  · rfl
  · simp [headed]

theorem closesCondition_append (before : List TokenKind) (k : TokenKind) (after : List TokenKind) :
    closesCondition (before ++ k :: after) (Bracket.pairs (before ++ k :: after)) before.length =
      (k = rparen && (Bracket.closes (Bracket.stackFrom 0 [] before) k).any
        (headed (before ++ k :: after))) := by
  rw [closesCondition, Bracket.openerOf?_pairs]
  generalize Bracket.closes (Bracket.stackFrom 0 [] before) k = closed
  have here : (before ++ k :: after)[before.length]? = some k := by simp
  rw [here]
  by_cases paren : k = rparen
  · subst paren
    rcases closed with _ | _ | j <;> rfl
  · simp only [paren, decide_false, Bool.false_and]
    split
    next same => exact absurd (Option.some.inj same) paren
    next => rfl

theorem opens_advance (before : List TokenKind) (k : TokenKind) (after : List TokenKind) :
    (Bracket.advance before.length (Bracket.stackFrom 0 [] before) k).map
        (openAt (before ++ k :: after)) =
      ((settingOf (before ++ k :: after) before).next k).opens := by
  unfold Bracket.advance Setting.next Setting.heads
  have here : (before ++ k :: after)[before.length]? = some k := by simp
  cases opened : k.closer? with
  | some c =>
    simp only [List.map_cons, openAt, here, headed_append, settingOf, Option.some.injEq]
    rfl
  | none =>
    simp only [settingOf]
    rcases Bracket.stackFrom 0 [] before with _ | ⟨⟨j, c⟩, outer⟩
    · rfl
    · by_cases same : c = k <;> simp [openAt, same]

/-- The setting is found from the tokens in front, one after another. -/
theorem settingOf_append (before : List TokenKind) (k : TokenKind) (after : List TokenKind) :
    settingOf (before ++ k :: after) (before ++ [k]) =
      (settingOf (before ++ k :: after) before).next k := by
  have opens : (settingOf (before ++ k :: after) (before ++ [k])).opens =
      ((settingOf (before ++ k :: after) before).next k).opens := by
    rw [← opens_advance, settingOf, Bracket.stackFrom_append, Nat.zero_add]
    rfl
  have condition : (settingOf (before ++ k :: after) (before ++ [k])).condition =
      ((settingOf (before ++ k :: after) before).next k).condition := by
    rw [settingOf, Setting.next, closes_settingOf, Option.any_map]
    simp only [List.length_append, List.length_singleton, Nat.add_sub_cancel]
    rw [closesCondition_append]
    rfl
  have prev : (settingOf (before ++ k :: after) (before ++ [k])).prev =
      ((settingOf (before ++ k :: after) before).next k).prev := by
    simp [settingOf, Setting.next]
  generalize settingOf (before ++ k :: after) (before ++ [k]) = s at opens condition prev ⊢
  generalize (settingOf (before ++ k :: after) before).next k = s' at opens condition prev ⊢
  cases s
  cases s'
  simp_all

theorem missing_eq_missingIn (before : List TokenKind) (prev t : Token) (after : List TokenKind) :
    missing (before ++ t.kind :: after) (Bracket.pairs (before ++ t.kind :: after)) before.length prev t =
      missingIn (settingOf (before ++ t.kind :: after) before) prev t := by
  unfold missing missingIn
  split
  · rfl
  split
  next brace =>
    rw [closesBlock, Bracket.openerOf?_pairs, ← brace, closes_settingOf, Option.any_map]
    cases Bracket.closes (Bracket.stackFrom 0 [] before) t.kind <;> rfl
  next => rfl

theorem insertFrom_eq_fill (before : List TokenKind) (prev : Token) (ts : List Token) :
    insertFrom (before ++ ts.map (·.kind)) (Bracket.pairs (before ++ ts.map (·.kind))) before.length
        prev ts = fill (settingOf (before ++ ts.map (·.kind)) before) prev ts := by
  induction ts generalizing before prev with
  | nil => rfl
  | cons t ts ih =>
    have later := ih (before ++ [t.kind]) t
    rw [List.append_assoc, List.singleton_append, List.length_append, List.length_singleton,
      settingOf_append] at later
    simp only [List.map_cons] at later ⊢
    rw [insertFrom, fill, later, missing_eq_missingIn]

/-- Semicolons are put in by the setting of each token. -/
theorem insertAll_eq_fill (t : Token) (ts : List Token) :
    insertAll (t :: ts) = t :: fill (Setting.next {} t.kind) t ts := by
  have same := insertFrom_eq_fill [t.kind] t ts
  have first := settingOf_append [] t.kind (ts.map (·.kind))
  rw [List.nil_append, List.nil_append] at first
  rw [List.singleton_append, first] at same
  rw [insertAll, List.map_cons]
  congr 1

/-! ## What is put in -/

/-- Tokens with semicolons put in, given the kind before.  None is put in at the start, and none behind
a semicolon. -/
inductive Filled : (prev : Option TokenKind) → (ts us : List Token) → Prop where
  | nil (prev : Option TokenKind) : Filled prev [] []
  | keep {prev : Option TokenKind} {t : Token} {ts us : List Token}
      (further : Filled (some t.kind) ts us) : Filled prev (t :: ts) (t :: us)
  | insert {prev : TokenKind} {s : Token} {ts us : List Token} (open_ : prev ≠ semi)
      (semicolon : s.kind = semi) (further : Filled (some semi) ts us) :
      Filled (some prev) ts (s :: us)

theorem ne_semi_of_missingIn {s : Setting} {prev t : Token} (missing : missingIn s prev t) :
    prev.kind ≠ semi := by
  intro same
  rw [missingIn, if_pos same] at missing
  cases missing

theorem filled_fill (s : Setting) (prev : Token) (ts : List Token) :
    Filled (some prev.kind) ts (fill s prev ts) := by
  induction ts generalizing s prev with
  | nil =>
    rw [fill]
    split
    · exact .nil _
    next other => exact .insert other rfl (.nil _)
  | cons t ts ih =>
    rw [fill]
    split
    next missing => exact .insert (ne_semi_of_missingIn missing) rfl (.keep (ih _ t))
    · exact .keep (ih _ t)

theorem filled_insertAll (ts : List Token) : Filled none ts (insertAll ts) := by
  cases ts with
  | nil => exact .nil none
  | cons t ts =>
    rw [insertAll_eq_fill]
    exact .keep (filled_fill _ t ts)

/-! ## Nothing is missing then -/

theorem closer?_of_startsStatement {k : TokenKind} (starts : startsStatement k) : k.closer? = none := by
  cases k <;> first | rfl | cases starts

theorem closer?_of_missingIn {s : Setting} {prev t : Token} (missing : missingIn s prev t) :
    t.kind.closer? = none := by
  rw [missingIn, if_neg (ne_semi_of_missingIn missing)] at missing
  split at missing
  next brace => rw [brace]; rfl
  next =>
    simp only [Bool.and_eq_true] at missing
    exact closer?_of_startsStatement missing.1.2

/-- No semicolon is missing in front of another one. -/
theorem missingIn_semi (s : Setting) (prev : Token) {t : Token} (semicolon : t.kind = semi) :
    missingIn s prev t = false := by
  rw [missingIn, semicolon]
  split
  · rfl
  · simp [startsStatement]

theorem opens_next_semi {s : Setting} (closers : ∀ o ∈ s.opens, o.closer.isCloser) :
    (s.next semi).opens = s.opens := by
  obtain ⟨_ | ⟨o, outer⟩, prev, condition⟩ := s
  · rfl
  · have other : o.closer ≠ semi := by
      intro same
      have closer := closers o List.mem_cons_self
      rw [same] at closer
      cases closer
    simp [Setting.next, TokenKind.closer?, other]

/-- Only an opening bracket asks for the kind before it. -/
theorem next_of_opens_eq {s s' : Setting} (same : s.opens = s'.opens) {k : TokenKind}
    (plain : k.closer? = none) : s.next k = s'.next k := by
  obtain ⟨opens, prev, condition⟩ := s
  obtain ⟨opens', prev', condition'⟩ := s'
  obtain rfl : opens = opens' := same
  cases opens <;> simp [Setting.next, Setting.closes, plain]

theorem isCloser_next {s : Setting} (closers : ∀ o ∈ s.opens, o.closer.isCloser) (k : TokenKind) :
    ∀ o ∈ (s.next k).opens, o.closer.isCloser := by
  simp only [Setting.next]
  split
  next c opened =>
    refine List.forall_mem_cons.mpr ⟨?_, closers⟩
    cases k <;> cases opened <;> rfl
  next o outer _ same =>
    rw [same] at closers
    split
    · exact (List.forall_mem_cons.mp closers).2
    · exact closers
  next => exact fun _ mem => absurd mem List.not_mem_nil

/-- Nothing is missing where semicolons are put in. -/
theorem fill_fill {s : Setting} (closers : ∀ o ∈ s.opens, o.closer.isCloser) (prev : Token)
    (ts : List Token) : fill s prev (fill s prev ts) = fill s prev ts := by
  induction ts generalizing s prev with
  | nil =>
    rw [fill]
    split
    next ended => rw [fill, if_pos ended]
    next => rw [fill, missingIn_semi s prev rfl]; rfl
  | cons t ts ih =>
    have again := ih (isCloser_next closers t.kind) t
    rw [fill]
    split
    next missing =>
      have same := next_of_opens_eq (opens_next_semi closers) (closer?_of_missingIn missing)
      have kind : (behind prev).kind = semi := rfl
      rw [fill, missingIn_semi s prev rfl, kind, fill, missingIn, if_pos kind, same, again]
      rfl
    next present => rw [fill, if_neg present, again]

/-- Putting in semicolons twice is putting them in once. -/
theorem insertAll_insertAll (ts : List Token) : insertAll (insertAll ts) = insertAll ts := by
  cases ts with
  | nil => rfl
  | cons t ts =>
    rw [insertAll_eq_fill, insertAll_eq_fill, fill_fill (isCloser_next (by simp) _)]

theorem length_le_insertFrom (ks : List TokenKind) (ps : List Bracket.Pair) (i : Nat) (prev : Token)
    (ts : List Token) : ts.length ≤ (insertFrom ks ps i prev ts).length := by
  induction ts generalizing i prev with
  | nil => exact Nat.zero_le _
  | cons t ts ih =>
    have := ih (i + 1) t
    rw [insertFrom]
    split <;> simp only [List.length_cons] <;> omega

/-- If nothing is put in then nothing is missing, and the last token is a semicolon. -/
theorem settled_of_insertFrom {ks : List TokenKind} {ps : List Bracket.Pair} {i : Nat} {prev : Token}
    {ts : List Token} (same : insertFrom ks ps i prev ts = ts) :
    (∀ n t u, (prev :: ts)[n]? = some t → ts[n]? = some u → missing ks ps (i + n) t u = false)
      ∧ ((prev :: ts).getLast (List.cons_ne_nil _ _)).kind = semi := by
  induction ts generalizing i prev with
  | nil =>
    rw [insertFrom] at same
    split at same
    next ended => exact ⟨fun n t u _ none => by simp at none, ended⟩
    next => cases same
  | cons t ts ih =>
    rw [insertFrom] at same
    split at same
    next =>
      have longer := congrArg List.length same
      have := length_le_insertFrom ks ps (i + 1) t ts
      simp only [List.length_cons] at longer
      omega
    next present =>
      obtain ⟨below, last⟩ := ih (List.cons.inj same).2
      refine ⟨fun n u v old new => ?_, last⟩
      cases n with
      | zero =>
        cases old
        cases new
        simpa using present
      | succ n =>
        rw [← Nat.add_assoc, Nat.add_right_comm]
        exact below n u v old new

/-- The last token is a semicolon. -/
theorem getLast_insertAll {ts : List Token} (some_ : insertAll ts ≠ []) :
    ((insertAll ts).getLast some_).kind = semi := by
  have same := insertAll_insertAll ts
  generalize insertAll ts = us at same some_
  obtain ⟨u, us, rfl⟩ := List.exists_cons_of_ne_nil some_
  exact (settled_of_insertFrom (List.cons.inj same).2).2

/-- The brace that closes a block stands behind a semicolon, a comma or the brace that opens it. -/
theorem before_block_end {ts : List Token} {p : Bracket.Pair}
    (matched : p ∈ Bracket.pairs ((insertAll ts).map (·.kind))) {t : Token}
    (opener : (insertAll ts)[p.opener]? = some t) (block : t.kind = blockLbrace) :
    ∃ i u, p.closer = i + 1 ∧ (insertAll ts)[i]? = some u
      ∧ (u.kind = semi ∨ u.kind = blockLbrace ∨ u.kind = comma) := by
  have same := insertAll_insertAll ts
  generalize insertAll ts = us at same matched opener
  obtain ⟨k, c, opens, closer, closes, low⟩ := Bracket.kinds_of_mem_pairs matched
  rw [List.getElem?_map, opener, Option.map_some, block] at opens
  cases opens
  cases closer
  obtain ⟨v, closed, brace⟩ := by rwa [List.getElem?_map, Option.map_eq_some_iff] at closes
  obtain ⟨i, at_⟩ := Nat.exists_eq_succ_of_ne_zero (Nat.ne_zero_of_lt low)
  cases us with
  | nil => cases opener
  | cons first us =>
    have inside : i < (first :: us).length := by
      have := (List.getElem?_eq_some_iff.mp closed).1
      omega
    refine ⟨i, (first :: us)[i], at_, List.getElem?_eq_getElem inside, ?_⟩
    rw [at_, Nat.succ_eq_add_one, List.getElem?_cons_succ] at closed
    have present := (settled_of_insertFrom (List.cons.inj same).2).1 i _ v
      (List.getElem?_eq_getElem inside) closed
    have found : closesBlock ((first :: us).map (·.kind)) (Bracket.pairs ((first :: us).map (·.kind)))
        (1 + i) := by
      rw [closesBlock, Nat.add_comm, ← Nat.succ_eq_add_one, ← at_, Bracket.openerOf?_of_mem matched]
      exact decide_eq_true (by rw [List.getElem?_map, opener, Option.map_some, block])
    rw [missing, if_pos brace, found] at present
    by_contra other
    simp_all

end Retype.Semicolon
