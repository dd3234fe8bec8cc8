import Mathlib.Data.List.Pairwise
import Retype.Token.Bracket

/-!
# The stack of open brackets

Matching brackets goes over the tokens with a stack.  One token does two things: it may close the
bracket on top (`closes`), and it leaves another stack behind (`advance`).  So the bracket that a
token closes is found from the tokens in front of it alone (`openerOf?_pairs`).
-/

namespace Retype.Bracket

/-! ## One token -/

/-- The place of the bracket that a token closes. -/
def closes (stack : List (Nat × TokenKind)) (k : TokenKind) : Option Nat :=
  match k.closer?, stack with
  | none, (j, c) :: _ => if c = k then some j else none
  | _, _ => none

/-- The open brackets behind a token at a place. -/
def advance (i : Nat) (stack : List (Nat × TokenKind)) (k : TokenKind) : List (Nat × TokenKind) :=
  match k.closer?, stack with
  | some c, _ => (i, c) :: stack
  | none, (j, c) :: outer => if c = k then outer else (j, c) :: outer
  | none, [] => []

/-- The open brackets behind tokens that start at a place. -/
def stackFrom : (i : Nat) → List (Nat × TokenKind) → List TokenKind → List (Nat × TokenKind)
  | _, stack, [] => stack
  | i, stack, k :: ks => stackFrom (i + 1) (advance i stack k) ks

theorem pairsFrom_cons (i : Nat) (stack : List (Nat × TokenKind)) (k : TokenKind)
    (ks : List TokenKind) : pairsFrom i stack (k :: ks) =
      ((closes stack k).map (⟨·, i⟩)).toList ++ pairsFrom (i + 1) (advance i stack k) ks := by
  unfold closes advance
  rw [pairsFrom.eq_def]
  dsimp only
  cases k.closer? with
  | some c => rfl
  | none =>
    rcases stack with _ | ⟨⟨j, c⟩, outer⟩
    · rfl
    · dsimp only
      split <;> rfl

theorem pairsFrom_append (i : Nat) (stack : List (Nat × TokenKind)) (before after : List TokenKind) :
    pairsFrom i stack (before ++ after) =
      pairsFrom i stack before ++ pairsFrom (i + before.length) (stackFrom i stack before) after := by
  induction before generalizing i stack with
  | nil => rfl
  | cons k ks ih =>
    rw [List.cons_append, pairsFrom_cons, pairsFrom_cons, ih, List.append_assoc, stackFrom,
      List.length_cons, Nat.add_assoc, Nat.add_comm 1]

theorem stackFrom_append (i : Nat) (stack : List (Nat × TokenKind)) (before after : List TokenKind) :
    stackFrom i stack (before ++ after) =
      stackFrom (i + before.length) (stackFrom i stack before) after := by
  induction before generalizing i stack with
  | nil => rfl
  | cons k ks ih => rw [List.cons_append, stackFrom, stackFrom, ih, List.length_cons,
      Nat.add_assoc, Nat.add_comm 1]

/-! ## Places -/

theorem closer_mem_pairsFrom {i : Nat} {stack : List (Nat × TokenKind)} {ks : List TokenKind}
    {p : Pair} (mem : p ∈ pairsFrom i stack ks) : i ≤ p.closer ∧ p.closer < i + ks.length := by
  induction ks generalizing i stack with
  | nil => cases mem
  | cons k ks ih =>
    rw [pairsFrom_cons, List.mem_append] at mem
    rw [List.length_cons]
    rcases mem with here | later
    · obtain ⟨j, -, rfl⟩ := Option.map_eq_some_iff.mp (Option.mem_toList.mp here)
      dsimp only
      omega
    · have := ih later
      omega

/-- The bracket that a token closes is found from the tokens in front of it. -/
theorem openerOf?_pairs (before : List TokenKind) (k : TokenKind) (after : List TokenKind) :
    openerOf? (pairs (before ++ k :: after)) before.length = closes (stackFrom 0 [] before) k := by
  have early : (pairsFrom 0 [] before).find? (·.closer = before.length) = none := by
    refine List.find?_eq_none.mpr fun p mem => ?_
    have := closer_mem_pairsFrom mem
    simp only [decide_eq_true_eq]
    omega
  have late (stack : List (Nat × TokenKind)) :
      (pairsFrom (before.length + 1) stack after).find? (·.closer = before.length) = none := by
    refine List.find?_eq_none.mpr fun p mem => ?_
    have := closer_mem_pairsFrom mem
    simp only [decide_eq_true_eq]
    omega
  rw [openerOf?, pairs, pairsFrom_append, pairsFrom_cons, Nat.zero_add, List.find?_append, early,
    List.find?_append, late]
  cases closes (stackFrom 0 [] before) k <;> simp

/-- No two pairs have one closing bracket. -/
theorem pairwise_pairsFrom (i : Nat) (stack : List (Nat × TokenKind)) (ks : List TokenKind) :
    (pairsFrom i stack ks).Pairwise fun p q => p.closer < q.closer := by
  induction ks generalizing i stack with
  | nil => exact .nil
  | cons k ks ih =>
    rw [pairsFrom_cons]
    refine List.pairwise_append.mpr ⟨?_, ih _ _, fun p here q later => ?_⟩
    · cases closes stack k with
      | none => exact .nil
      | some j => exact List.pairwise_singleton _ _
    · obtain ⟨j, -, rfl⟩ := Option.map_eq_some_iff.mp (Option.mem_toList.mp here)
      exact (closer_mem_pairsFrom later).1

theorem openerOf?_of_mem {ks : List TokenKind} {p : Pair} (mem : p ∈ pairs ks) :
    openerOf? (pairs ks) p.closer = some p.opener := by
  have ordered : (pairs ks).Pairwise _ := pairwise_pairsFrom 0 [] ks
  rw [openerOf?]
  generalize pairs ks = ps at mem ordered
  induction ordered with
  | nil => cases mem
  | @cons q ps first _ ih =>
    rcases List.mem_cons.mp mem with rfl | later
    · simp
    · have := first p later
      rw [List.find?_cons_of_neg (by simp; omega)]
      exact ih later

/-- The open brackets of a list of tokens stand in it, and each asks for what closes it. -/
def Stands (ks : List TokenKind) (e : Nat × TokenKind) : Prop :=
  ∃ k, ks[e.1]? = some k ∧ k.closer? = some e.2

theorem Stands.append {ks : List TokenKind} {e : Nat × TokenKind} (stands : Stands ks e)
    (after : List TokenKind) : Stands (ks ++ after) e := by
  obtain ⟨k, found, opens⟩ := stands
  exact ⟨k, List.getElem?_append_left (List.getElem?_eq_some_iff.mp found).1 ▸ found, opens⟩

theorem stands_advance {before : List TokenKind} {stack : List (Nat × TokenKind)}
    (all : ∀ e ∈ stack, Stands before e) (k : TokenKind) :
    ∀ e ∈ advance before.length stack k, Stands (before ++ [k]) e := by
  have kept : ∀ e ∈ stack, Stands (before ++ [k]) e := fun e mem => (all e mem).append [k]
  unfold advance
  split
  next c opens => exact List.forall_mem_cons.mpr ⟨⟨k, by simp, opens⟩, kept⟩
  next j c outer _ =>
    split
    · exact (List.forall_mem_cons.mp kept).2
    · exact kept
  next => exact kept

/-- A pair is an opening bracket and, behind it, what closes it. -/
theorem kinds_of_mem_pairs {ks : List TokenKind} {p : Pair} (mem : p ∈ pairs ks) :
    ∃ k c, ks[p.opener]? = some k ∧ k.closer? = some c ∧ ks[p.closer]? = some c
      ∧ p.opener < p.closer := by
  suffices general : ∀ (after before : List TokenKind) (stack : List (Nat × TokenKind)),
      (∀ e ∈ stack, Stands before e) → p ∈ pairsFrom before.length stack after →
      ∃ k c, (before ++ after)[p.opener]? = some k ∧ k.closer? = some c
        ∧ (before ++ after)[p.closer]? = some c ∧ p.opener < p.closer from
    general ks [] [] (by simp) mem
  intro after
  induction after with
  | nil => exact fun before stack _ mem => by cases mem
  | cons l after ih =>
    intro before stack all mem
    rw [pairsFrom_cons, List.mem_append] at mem
    rcases mem with here | later
    · obtain ⟨j, closed, rfl⟩ := Option.map_eq_some_iff.mp (Option.mem_toList.mp here)
      unfold closes at closed
      split at closed
      next j' c outer _ =>
        split at closed
        next same =>
          obtain rfl := Option.some.inj closed
          obtain ⟨k, found, opens⟩ := all _ List.mem_cons_self
          have low := (List.getElem?_eq_some_iff.mp found).1
          exact ⟨k, c, by rw [List.getElem?_append_left low, found], opens, by simp [same], low⟩
        · cases closed
      · cases closed
    · have := ih (before ++ [l]) _ (stands_advance all l) (by simpa using later)
      simpa using this

end Retype.Bracket
