import Mathlib.Data.List.Induction
import Retype.Proofs.Token.Bracket

/-!
# Matched brackets are nested

The brackets of a list of tokens are matched with a stack, and a closing bracket that does not fit
the top is passed over.  So the tokens need not be balanced, and still the matched pairs are nested:
`Matching` says so.  It rests on what holds of the pairs and the stack behind each token
(`Progress`): an open bracket lies in no pair, those above it on the stack are behind it, and each
opening bracket so far is open or matched.

If the brackets of a list are properly nested, there are no others to match them with: the pairs are
those of the nesting (`Nests`), and every bracket has its partner.
-/

namespace Retype.Bracket

/-! ## One token after the other -/

/-- What holds of the matched pairs and of the open brackets behind some tokens. -/
structure Progress (before : List TokenKind) (ps : List Pair) (stack : List (Nat × TokenKind)) :
    Prop where
  /-- The open brackets stand in the tokens. -/
  stands : ∀ e ∈ stack, Stands before e
  /-- The top of the stack is the last of them. -/
  descending : stack.Pairwise fun e f => f.1 < e.1
  /-- A pair ends within the tokens. -/
  bounds : ∀ p ∈ ps, p.opener < p.closer ∧ p.closer < before.length
  /-- No open bracket lies in a pair. -/
  outside : ∀ p ∈ ps, ∀ e ∈ stack, e.1 < p.opener ∨ p.closer < e.1
  /-- Of two pairs, the one that is closed first lies in front of the other or in it. -/
  laminar : ps.Pairwise fun p q => p.closer < q.closer ∧ (p.closer < q.opener ∨ q.opener < p.opener)
  /-- An opening bracket is open or matched. -/
  known : ∀ i k, before[i]? = some k → k.isOpener →
    (∃ e ∈ stack, e.1 = i) ∨ ∃ p ∈ ps, p.opener = i
  /-- An opening bracket in a pair is matched in it. -/
  inside : ∀ p ∈ ps, ∀ i k, before[i]? = some k → k.isOpener → p.opener < i → i < p.closer →
    ∃ q ∈ ps, q.opener = i ∧ q.closer < p.closer

theorem Progress.nil : Progress [] [] [] where
  stands := by simp
  descending := .nil
  bounds := by simp
  outside := by simp
  laminar := .nil
  known := by simp
  inside := by simp

section Step

variable {before : List TokenKind} {ps : List Pair} {stack : List (Nat × TokenKind)} {k : TokenKind}

/-- A place in tokens and one more is the new one or an old one. -/
theorem getElem?_snoc {i : Nat} {l : TokenKind} (found : (before ++ [k])[i]? = some l) :
    i = before.length ∧ l = k ∨ before[i]? = some l := by
  rcases Nat.lt_trichotomy i before.length with low | rfl | high
  · rw [List.getElem?_append_left low] at found
    exact .inr found
  · rw [List.getElem?_concat_length] at found
    exact .inl ⟨rfl, (Option.some.inj found).symm⟩
  · rw [List.getElem?_eq_none (by rw [List.length_append, List.length_singleton]; omega)] at found
    cases found

theorem place_lt {e : Nat × TokenKind} (stands : Stands before e) : e.1 < before.length := by
  obtain ⟨l, found, -⟩ := stands
  exact (List.getElem?_eq_some_iff.mp found).1

/-- An opening bracket goes on the stack. -/
theorem Progress.opening (progress : Progress before ps stack) {c : TokenKind}
    (asks : k.closer? = some c) : Progress (before ++ [k]) ps ((before.length, c) :: stack) where
  stands := by
    refine List.forall_mem_cons.mpr ⟨⟨k, by simp, asks⟩, fun e mem => ?_⟩
    exact (progress.stands e mem).append [k]
  descending := List.pairwise_cons.mpr
    ⟨fun e mem => place_lt (progress.stands e mem), progress.descending⟩
  bounds p mem := by
    have := progress.bounds p mem
    rw [List.length_append, List.length_singleton]
    omega
  outside p mem := List.forall_mem_cons.mpr
    ⟨.inr (progress.bounds p mem).2, progress.outside p mem⟩
  laminar := progress.laminar
  known i l found opens := by
    rcases getElem?_snoc found with ⟨rfl, -⟩ | old
    · exact .inl ⟨_, List.mem_cons_self, rfl⟩
    · refine (progress.known i l old opens).imp_left fun ⟨e, mem, same⟩ => ?_
      exact ⟨e, List.mem_cons_of_mem _ mem, same⟩
  inside p mem i l found opens above below := by
    rcases getElem?_snoc found with ⟨rfl, -⟩ | old
    · have := (progress.bounds p mem).2
      omega
    · exact progress.inside p mem i l old opens above below

/-- A token that opens and closes nothing changes nothing. -/
theorem Progress.passing (progress : Progress before ps stack) (plain : k.closer? = none) :
    Progress (before ++ [k]) ps stack where
  stands e mem := (progress.stands e mem).append [k]
  descending := progress.descending
  bounds p mem := by
    have := progress.bounds p mem
    rw [List.length_append, List.length_singleton]
    omega
  outside := progress.outside
  laminar := progress.laminar
  known i l found opens := by
    rcases getElem?_snoc found with ⟨-, rfl⟩ | old
    · rw [TokenKind.isOpener, plain] at opens
      cases opens
    · exact progress.known i l old opens
  inside p mem i l found opens above below := by
    rcases getElem?_snoc found with ⟨-, rfl⟩ | old
    · rw [TokenKind.isOpener, plain] at opens
      cases opens
    · exact progress.inside p mem i l old opens above below

/-- A closing bracket makes a pair with the top of the stack. -/
theorem Progress.closing {j : Nat} {outer : List (Nat × TokenKind)} {c : TokenKind}
    (progress : Progress before ps ((j, c) :: outer)) (plain : k.closer? = none) :
    Progress (before ++ [k]) (ps ++ [⟨j, before.length⟩]) outer := by
  obtain ⟨top, under⟩ := List.pairwise_cons.mp progress.descending
  obtain ⟨standing, rest⟩ := List.forall_mem_cons.mp progress.stands
  have low : j < before.length := place_lt standing
  -- what is behind the top is not open any more, and so it is matched
  have matched : ∀ i l, before[i]? = some l → l.isOpener → j < i → ∃ q ∈ ps, q.opener = i := by
    intro i l found opens behind
    rcases progress.known i l found opens with ⟨e, mem, rfl⟩ | closed
    · rcases List.mem_cons.mp mem with rfl | mem
      · omega
      · have := top e mem
        dsimp only at this
        omega
    · exact closed
  refine ⟨fun e mem => (rest e mem).append [k], under, ?_, ?_, ?_, ?_, ?_⟩
  · refine List.forall_mem_append.mpr ⟨fun p mem => ?_, List.forall_mem_singleton.mpr ?_⟩
    · have := progress.bounds p mem
      rw [List.length_append, List.length_singleton]
      omega
    · exact ⟨low, by simp⟩
  · refine List.forall_mem_append.mpr ⟨fun p mem e among => ?_, List.forall_mem_singleton.mpr ?_⟩
    · exact progress.outside p mem e (List.mem_cons_of_mem _ among)
    · exact fun e among => .inl (top e among)
  · refine List.pairwise_append.mpr ⟨progress.laminar, List.pairwise_singleton _ _, fun p mem => ?_⟩
    refine List.forall_mem_singleton.mpr ⟨(progress.bounds p mem).2, ?_⟩
    exact (progress.outside p mem _ List.mem_cons_self).symm
  · intro i l found opens
    rcases getElem?_snoc found with ⟨-, rfl⟩ | old
    · rw [TokenKind.isOpener, plain] at opens
      cases opens
    · rcases progress.known i l old opens with ⟨e, mem, rfl⟩ | ⟨p, mem, same⟩
      · rcases List.mem_cons.mp mem with rfl | mem
        · exact .inr ⟨_, List.mem_append_right _ List.mem_cons_self, rfl⟩
        · exact .inl ⟨e, mem, rfl⟩
      · exact .inr ⟨p, List.mem_append_left _ mem, same⟩
  · refine List.forall_mem_append.mpr ⟨fun p mem i l found opens above below => ?_,
      List.forall_mem_singleton.mpr fun i l found opens above below => ?_⟩
    · rcases getElem?_snoc found with ⟨-, rfl⟩ | old
      · rw [TokenKind.isOpener, plain] at opens
        cases opens
      · obtain ⟨q, among, within⟩ := progress.inside p mem i l old opens above below
        exact ⟨q, List.mem_append_left _ among, within⟩
    · rcases getElem?_snoc found with ⟨rfl, -⟩ | old
      · exact absurd below (Nat.lt_irrefl _)
      · obtain ⟨q, among, same⟩ := matched i l old opens above
        exact ⟨q, List.mem_append_left _ among, same, (progress.bounds q among).2⟩

/-- One more token. -/
theorem Progress.step (progress : Progress before ps stack) (k : TokenKind) :
    Progress (before ++ [k]) (ps ++ ((closes stack k).map (⟨·, before.length⟩)).toList)
      (advance before.length stack k) := by
  unfold closes advance
  cases asks : k.closer? with
  | some c => simpa using progress.opening asks
  | none =>
    rcases stack with _ | ⟨⟨j, c⟩, outer⟩
    · simpa using progress.passing asks
    · by_cases same : c = k
      · simpa [same] using progress.closing asks
      · simpa [same] using progress.passing asks

end Step

/-- All tokens. -/
theorem progress_pairs (ks : List TokenKind) : Progress ks (pairs ks) (stackFrom 0 [] ks) := by
  induction ks using List.reverseRecOn with
  | nil => exact .nil
  | append_singleton ks k ih =>
    have step := ih.step k
    rw [pairs, pairsFrom_append, stackFrom_append, pairsFrom_cons, Nat.zero_add]
    simpa [pairs, pairsFrom, stackFrom] using step

/-! ## Proper nesting -/

/-- Tokens from a place on whose brackets are properly nested, with the pairs of the nesting. -/
inductive Nests : Nat → List TokenKind → List Pair → Prop
  | nil {i : Nat} : Nests i [] []
  | other {i : Nat} {k : TokenKind} {ks : List TokenKind} {ps : List Pair}
      (opener : k.isOpener = false) (closer : k.isCloser = false) (rest : Nests (i + 1) ks ps) :
      Nests i (k :: ks) ps
  | group {i : Nat} {k c : TokenKind} {inner rest : List TokenKind} {ps qs : List Pair}
      (asks : k.closer? = some c) (within : Nests (i + 1) inner ps)
      (behind : Nests (i + 1 + inner.length + 1) rest qs) :
      Nests i (k :: (inner ++ c :: rest)) (⟨i, i + 1 + inner.length⟩ :: (ps ++ qs))

theorem isCloser_of_closer? {k c : TokenKind} (asks : k.closer? = some c) : c.isCloser := by
  cases k <;> cases asks <;> rfl

theorem closer?_of_isCloser {c : TokenKind} (closes : c.isCloser) : c.closer? = none := by
  cases c <;> cases closes <;> rfl

section Nesting

variable {i : Nat} {ks : List TokenKind} {ps : List Pair} {stack : List (Nat × TokenKind)}

/-- Nested brackets are matched with each other, whatever is open around them, and leave it open. -/
theorem Nests.pairsFrom (nests : Nests i ks ps) (closers : ∀ e ∈ stack, e.2.isCloser) :
    (pairsFrom i stack ks).Perm ps ∧ stackFrom i stack ks = stack := by
  induction nests generalizing stack with
  | nil => exact ⟨.nil, rfl⟩
  | @other i k ks ps opener closer _ ih =>
    have plain : k.closer? = none := by simpa [TokenKind.isOpener] using opener
    have unfit : closes stack k = none ∧ advance i stack k = stack := by
      rcases stack with _ | ⟨⟨j, c⟩, outer⟩
      · simp [closes, advance, plain]
      · have differ : c ≠ k := by
          rintro rfl
          have := closers _ List.mem_cons_self
          rw [closer] at this
          cases this
        simp [closes, advance, plain, differ]
    rw [pairsFrom_cons, stackFrom, unfit.1, unfit.2]
    exact ih closers
  | @group i k c inner rest ps qs asks _ _ first second =>
    have fits := isCloser_of_closer? asks
    have deeper : ∀ e ∈ (i, c) :: stack, e.2.isCloser := List.forall_mem_cons.mpr ⟨fits, closers⟩
    obtain ⟨innerPairs, innerStack⟩ := first deeper
    obtain ⟨restPairs, restStack⟩ := second closers
    have opened : closes stack k = none ∧ advance i stack k = (i, c) :: stack := by
      simp [closes, advance, asks]
    have closed : closes ((i, c) :: stack) c = some i
        ∧ advance (i + 1 + inner.length) ((i, c) :: stack) c = stack := by
      simp [closes, advance, closer?_of_isCloser fits]
    constructor
    · rw [pairsFrom_cons, opened.1, opened.2, pairsFrom_append, innerStack, pairsFrom_cons, closed.1,
        closed.2]
      refine List.Perm.trans ?_ List.perm_middle
      exact innerPairs.append (.cons _ restPairs)
    · rw [stackFrom, opened.2, stackFrom_append, innerStack, stackFrom, closed.2]
      exact restStack

/-- If a token is a bracket, then it is an end of a pair. -/
def Paired (ps : List Pair) (i : Nat) (k : TokenKind) : Prop :=
  (k.isOpener → ∃ p ∈ ps, p.opener = i) ∧ (k.isCloser → ∃ p ∈ ps, p.closer = i)

theorem Paired.mono {qs : List Pair} {k : TokenKind} (paired : Paired ps i k)
    (subset : ∀ p ∈ ps, p ∈ qs) : Paired qs i k :=
  ⟨fun opens => (paired.1 opens).imp fun p => .imp_left (subset p),
    fun closes => (paired.2 closes).imp fun p => .imp_left (subset p)⟩

/-- Every bracket of a nesting has a partner. -/
theorem Nests.paired (nests : Nests i ks ps) {j : Nat} {k : TokenKind} (found : ks[j]? = some k) :
    Paired ps (i + j) k := by
  induction nests generalizing j with
  | nil => cases found
  | @other i l ks ps opener closer _ ih =>
    cases j with
    | zero =>
      obtain rfl := Option.some.inj found
      simp [Paired, opener, closer]
    | succ j =>
      have below := ih found
      rwa [Nat.add_assoc, Nat.add_comm 1] at below
  | @group i l c inner rest ps qs asks _ _ first second =>
    cases j with
    | zero =>
      obtain rfl := Option.some.inj found
      refine ⟨fun _ => ⟨_, List.mem_cons_self, rfl⟩, fun closes => ?_⟩
      rw [closer?_of_isCloser closes] at asks
      cases asks
    | succ j =>
      rw [List.getElem?_cons_succ] at found
      rcases Nat.lt_trichotomy j inner.length with low | rfl | high
      · rw [List.getElem?_append_left low] at found
        have within := first found
        rw [Nat.add_assoc, Nat.add_comm 1] at within
        exact within.mono fun p mem => List.mem_cons_of_mem _ (List.mem_append_left _ mem)
      · rw [List.getElem?_append_right (Nat.le_refl _), Nat.sub_self] at found
        obtain rfl := Option.some.inj found
        refine ⟨fun opens => ?_, fun _ => ⟨_, List.mem_cons_self, by dsimp only; omega⟩⟩
        rw [TokenKind.isOpener, closer?_of_isCloser (isCloser_of_closer? asks)] at opens
        cases opens
      · obtain ⟨m, rfl⟩ := Nat.exists_eq_add_of_lt high
        rw [List.getElem?_append_right (by omega), show inner.length + m + 1 - inner.length = m + 1 by omega,
          List.getElem?_cons_succ] at found
        have behind := second found
        rw [show i + 1 + inner.length + 1 + m = i + (inner.length + m + 1 + 1) by omega] at behind
        exact behind.mono fun p mem => List.mem_cons_of_mem _ (List.mem_append_right _ mem)

end Nesting

/-! ## The matching -/

section Matching

variable {ks : List TokenKind} {ps : List Pair} {i j : Nat}

theorem mem_of_closerOf? (found : closerOf? ps i = some j) : ⟨i, j⟩ ∈ ps := by
  obtain ⟨p, first, rfl⟩ := Option.map_eq_some_iff.mp found
  have same : p.opener = i := by simpa using List.find?_some first
  exact same ▸ List.mem_of_find?_eq_some first

theorem mem_of_openerOf? (found : openerOf? ps j = some i) : ⟨i, j⟩ ∈ ps := by
  obtain ⟨p, first, rfl⟩ := Option.map_eq_some_iff.mp found
  have same : p.closer = j := by simpa using List.find?_some first
  exact same ▸ List.mem_of_find?_eq_some first

section Pairs

variable {stack : List (Nat × TokenKind)} {p q : Pair}

/-- Of two pairs, the one that is closed first is the other, lies in front of it or lies in it. -/
theorem Progress.cases (progress : Progress ks ps stack) (mem : p ∈ ps) (among : q ∈ ps)
    (order : p.closer ≤ q.closer) :
    p = q ∨ p.closer < q.opener ∨ q.opener < p.opener ∧ p.closer < q.closer := by
  obtain ⟨a, low, rfl⟩ := List.getElem_of_mem mem
  obtain ⟨b, high, rfl⟩ := List.getElem_of_mem among
  have ordered := List.pairwise_iff_getElem.mp progress.laminar
  rcases Nat.lt_trichotomy a b with less | rfl | more
  · obtain ⟨first, front | within⟩ := ordered a b low high less
    · exact .inr (.inl front)
    · exact .inr (.inr ⟨within, first⟩)
  · exact .inl rfl
  · have := (ordered b a high low more).1
    omega

theorem Progress.eq_of_opener (progress : Progress ks ps stack) (mem : p ∈ ps) (among : q ∈ ps)
    (same : p.opener = q.opener) : p = q := by
  have boundsP := progress.bounds p mem
  have boundsQ := progress.bounds q among
  rcases Nat.le_total p.closer q.closer with order | order
  · rcases progress.cases mem among order with equal | front | within
    · exact equal
    · omega
    · omega
  · rcases progress.cases among mem order with equal | front | within
    · exact equal.symm
    · omega
    · omega

end Pairs

/-- The closing bracket found for an opening one is that of its pair. -/
theorem closerOf?_pairs_iff : closerOf? (pairs ks) i = some j ↔ ⟨i, j⟩ ∈ pairs ks := by
  refine ⟨mem_of_closerOf?, fun mem => ?_⟩
  have some_found : ((pairs ks).find? (·.opener = i)).isSome :=
    List.find?_isSome.mpr ⟨_, mem, by simp⟩
  obtain ⟨p, first⟩ := Option.isSome_iff_exists.mp some_found
  have same : p.opener = i := by simpa using List.find?_some first
  have equal := (progress_pairs ks).eq_of_opener (List.mem_of_find?_eq_some first) mem same
  rw [closerOf?, first, equal]
  rfl

theorem openerOf?_pairs_iff : openerOf? (pairs ks) j = some i ↔ ⟨i, j⟩ ∈ pairs ks :=
  ⟨mem_of_openerOf?, openerOf?_of_mem⟩

end Matching

/-- The places of brackets are matched with each other, and the pairs are nested. -/
structure Matching (ks : List TokenKind) (ps : List Pair) : Prop where
  /-- Partners have each other. -/
  symmetric : ∀ i j, closerOf? ps i = some j ↔ openerOf? ps j = some i
  /-- No place is that of an opening bracket in one pair and of a closing bracket in another. -/
  single : ∀ i, closerOf? ps i = none ∨ openerOf? ps i = none
  /-- A pair is an opening bracket and, behind it, what it asks for. -/
  fits : ∀ i j, closerOf? ps i = some j →
    i < j ∧ ∃ k c, ks[i]? = some k ∧ k.closer? = some c ∧ ks[j]? = some c
  /-- A pair that is opened in another is closed in it. -/
  uncrossed : ∀ i j a b, closerOf? ps i = some j → closerOf? ps a = some b → i < a → a < j → b < j
  /-- An opening bracket in a pair is matched in it. -/
  inside : ∀ i j a k, closerOf? ps i = some j → ks[a]? = some k → k.isOpener → i < a → a < j →
    ∃ b, closerOf? ps a = some b ∧ b < j

/-- The brackets of any tokens are matched in nested pairs.  If they are properly nested, then every
bracket is matched, and with its partner in that nesting. -/
theorem pairs_matching (ks : List TokenKind) :
    Matching ks (pairs ks)
      ∧ ∀ ps, Nests 0 ks ps →
        (∀ i j, closerOf? (pairs ks) i = some j ↔ ⟨i, j⟩ ∈ ps)
        ∧ ∀ i k, ks[i]? = some k →
          (k.isOpener → ∃ j, closerOf? (pairs ks) i = some j)
            ∧ (k.isCloser → ∃ j, openerOf? (pairs ks) i = some j) := by
  have progress := progress_pairs ks
  refine ⟨⟨?_, ?_, ?_, ?_, ?_⟩, fun ps nests => ?_⟩
  · intro i j
    rw [closerOf?_pairs_iff, openerOf?_pairs_iff]
  · intro i
    by_contra both
    obtain ⟨opens, closes⟩ := not_or.mp both
    obtain ⟨j, opens⟩ := Option.ne_none_iff_exists'.mp opens
    obtain ⟨a, closes⟩ := Option.ne_none_iff_exists'.mp closes
    obtain ⟨k, c, here, asks, -⟩ := kinds_of_mem_pairs (mem_of_closerOf? opens)
    obtain ⟨l, d, -, other, there, -⟩ := kinds_of_mem_pairs (mem_of_openerOf? closes)
    -- one token would be an opening bracket and a closing one
    obtain rfl := Option.some.inj (here.symm.trans there)
    rw [closer?_of_isCloser (isCloser_of_closer? other)] at asks
    cases asks
  · intro i j found
    obtain ⟨k, c, opener, asks, closer, order⟩ := kinds_of_mem_pairs (mem_of_closerOf? found)
    exact ⟨order, k, c, opener, asks, closer⟩
  · intro i j a b outer inner behind before
    by_contra late
    rcases progress.cases (mem_of_closerOf? outer) (mem_of_closerOf? inner) (Nat.le_of_not_lt late)
      with equal | front | ⟨within, -⟩
    · cases equal
      exact Nat.lt_irrefl _ behind
    · exact Nat.lt_asymm front before
    · exact Nat.lt_asymm within behind
  · intro i j a k outer found opens behind before
    obtain ⟨q, among, rfl, within⟩ :=
      progress.inside _ (mem_of_closerOf? outer) a k found opens behind before
    exact ⟨q.closer, closerOf?_pairs_iff.mpr among, within⟩
  · have same : (pairs ks).Perm ps := (nests.pairsFrom (by simp)).1
    refine ⟨fun i j => ?_, fun i k found => ?_⟩
    · rw [closerOf?_pairs_iff]
      exact same.mem_iff
    · have paired := (nests.paired found).mono fun p mem => same.mem_iff.mpr mem
      rw [Nat.zero_add] at paired
      refine ⟨fun opens => ?_, fun closes => ?_⟩
      · obtain ⟨p, mem, rfl⟩ := paired.1 opens
        exact ⟨p.closer, closerOf?_pairs_iff.mpr mem⟩
      · obtain ⟨p, mem, rfl⟩ := paired.2 closes
        exact ⟨p.opener, openerOf?_of_mem mem⟩

/-- The tokens of `(a[b])`, where the parentheses enclose the brackets. -/
theorem pairs_matching_enclosed :
    Nests 0 [.lparen, .name, .lbracket, .name, .rbracket, .rparen] [⟨0, 5⟩, ⟨2, 4⟩]
      ∧ closerOf? (pairs [.lparen, .name, .lbracket, .name, .rbracket, .rparen]) 0 = some 5
      ∧ closerOf? (pairs [.lparen, .name, .lbracket, .name, .rbracket, .rparen]) 2 = some 4 := by
  have index : Nests 2 (.lbracket :: ([.name] ++ [.rbracket])) [⟨2, 4⟩] :=
    .group rfl (.other rfl rfl .nil) .nil
  have nests : Nests 0 (.lparen :: (.name :: .lbracket :: ([.name] ++ [.rbracket]) ++ [.rparen]))
      [⟨0, 5⟩, ⟨2, 4⟩] :=
    .group rfl (.other rfl rfl index) .nil
  have partners := ((pairs_matching _).2 _ nests).1
  exact ⟨nests, (partners 0 5).mpr (by simp), (partners 2 4).mpr (by simp)⟩

end Retype.Bracket
