import Retype.Proofs.Token.Lossless
import Retype.Proofs.Voice.Text
import Retype.Token.Stream

/-!
# The comments of a text

The comments of a text are those of its lexemes and of the lexemes inside the substitutions of its
template literals, in the order of the text.  So what holds of every lexeme that is a comment holds of
every comment (`tells_read`).
-/

namespace Retype

open Lexer (Lexed Lexeme lexemes)

/-- All comments among tokens and comments meet a condition. -/
def Lexer.Lexed.Tells (P : Comment → Prop) (found : Lexed) : Prop := ∀ c ∈ found.comments, P c

section Tells

variable {P : Comment → Prop} {a b : Lexed} {read : Expand.Reader}

theorem tells_join (first : a.Tells P) (second : b.Tells P) : (Expand.join a b).Tells P :=
  fun c member => (List.mem_append.mp member).elim (first c) (second c)

theorem tells_tokens {ts : List Token} : Lexed.Tells P ⟨ts, []⟩ :=
  fun _ member => absurd member List.not_mem_nil

/-- Reading the code of substitutions gives comments that meet a condition. -/
def TellingReader (P : Comment → Prop) (read : Expand.Reader) : Prop :=
  ∀ start line stop, Ensures (read start line stop) (Lexed.Tells P)

theorem tells_substitutions (reads : TellingReader P read) {t : Token} :
    ∀ spans quasis, Ensures (Expand.substitutions read t spans quasis) (Lexed.Tells P) := by
  intro spans
  induction spans with
  | nil => exact fun quasis => .ok tells_tokens
  | cons s spans ih =>
    intro quasis
    cases quasis with
    | nil => exact .ok tells_tokens
    | cons q quasis =>
      refine (reads _ _ _).bind fun body first => (ih quasis).map fun rest later => ?_
      exact tells_join (tells_join first tells_tokens) later

theorem tells_template (reads : TellingReader P read) (t : Token) :
    Ensures (Expand.template read t) (Lexed.Tells P) := by
  unfold Expand.template
  refine Ensures.bind (P := fun _ => True) (fun _ _ => trivial) fun r _ => ?_
  dsimp only
  split
  · exact (tells_substitutions reads _ _).map fun rest later => tells_join tells_tokens later
  · exact .ok tells_tokens

theorem tells_collect (reads : TellingReader P read) {stop : Option Nat} {failure : Option Failure}
    {ls : List Lexeme} (each : ∀ l ∈ ls, ∀ c, l.comment? = some c → P c) :
    Ensures (Expand.collect read stop failure ls) (Lexed.Tells P) := by
  induction ls with
  | nil =>
    unfold Expand.collect
    split
    · intro found result
      cases result
    · exact .ok tells_tokens
  | cons l ls ih =>
    obtain ⟨first, rest⟩ := List.forall_mem_cons.mp each
    unfold Expand.collect
    split
    next c found =>
      refine (ih rest).map fun more later => tells_join ?_ later
      exact List.forall_mem_singleton.mpr (first c found)
    · exact ih rest
    · split
      · exact .ok tells_tokens
      · have start {x : Except Failure Lexed} (here : Ensures x (Lexed.Tells P)) :
            Ensures (x >>= fun a => Expand.collect read stop failure ls >>= fun b =>
              pure (Expand.join a b)) (Lexed.Tells P) :=
          here.bind fun a first => (ih rest).map fun b later => tells_join first later
        split
        · exact start (tells_template reads _)
        · exact start (.ok tells_tokens)

theorem tells_expand {text : List Char} (each : ∀ start line,
      ∀ l ∈ (lexemes start line 0 (text.drop start)).1, ∀ c, l.comment? = some c → P c)
    (depth start line : Nat) (stop : Option Nat) :
    Ensures (Expand.expand text depth start line stop) (Lexed.Tells P) := by
  induction depth generalizing start line stop with
  | zero => exact .ok tells_tokens
  | succ depth ih => exact tells_collect (fun start line stop => ih start line _) (each start line)

end Tells

/-! ## The order of the text -/

theorem perm_insertComment (c : Comment) (ds : List Comment) :
    (Expand.insertComment c ds).Perm (c :: ds) := by
  induction ds with
  | nil => exact .refl _
  | cons d ds ih =>
    rw [Expand.insertComment]
    split
    · exact .refl _
    · exact (ih.cons d).trans (.swap c d ds)

theorem perm_sortComments (cs : List Comment) : (Expand.sortComments cs).Perm cs := by
  induction cs with
  | nil => exact .refl _
  | cons c cs ih => exact (perm_insertComment c _).trans (ih.cons c)

theorem pairwise_insertComment (c : Comment) {ds : List Comment}
    (sorted : ds.Pairwise fun c d => c.pos ≤ d.pos) :
    (Expand.insertComment c ds).Pairwise fun c d => c.pos ≤ d.pos := by
  induction sorted with
  | nil => exact List.pairwise_singleton _ _
  | @cons d ds first rest ih =>
    rw [Expand.insertComment]
    split
    next le =>
      refine .cons (List.forall_mem_cons.mpr ⟨le, ?_⟩) (.cons first rest)
      intro e member
      exact le.trans (first e member)
    next lt =>
      refine .cons ?_ ih
      intro e member
      rcases List.mem_cons.mp ((perm_insertComment c ds).mem_iff.mp member) with rfl | old
      · exact Nat.le_of_not_le lt
      · exact first e old

theorem pairwise_sortComments (cs : List Comment) :
    (Expand.sortComments cs).Pairwise fun c d => c.pos ≤ d.pos := by
  induction cs with
  | nil => exact .nil
  | cons c cs ih => exact pairwise_insertComment c ih

/-- What holds of the lexemes that are comments holds of the comments of a text. -/
theorem tells_read {P : Comment → Prop} {text : List Char} (each : ∀ start line,
      ∀ l ∈ (lexemes start line 0 (text.drop start)).1, ∀ c, l.comment? = some c → P c) :
    Ensures (Stream.read text) (Lexed.Tells P) := by
  unfold Stream.read Expand.read
  refine Ensures.map (P := Lexed.Tells P) ?_ fun found tells => tells
  refine (tells_expand each _ _ _ _).map fun found tells c member => ?_
  exact tells c ((perm_sortComments found.comments).mem_iff.mp member)

/-- The comments of a text stand in the order of the text. -/
theorem ordered_read (text : List Char) :
    Ensures (Stream.read text) fun found => found.comments.Pairwise fun c d => c.pos ≤ d.pos := by
  unfold Stream.read Expand.read
  refine Ensures.map (P := fun found : Lexed => found.comments.Pairwise fun c d => c.pos ≤ d.pos) ?_
    fun found sorted => sorted
  exact Ensures.map (P := fun _ => True) (fun _ _ => trivial) fun found _ => pairwise_sortComments _

/-- The comments of a text stand in it. -/
theorem inside_read (text : List Char) :
    Ensures (Stream.read text) (Lexed.Tells fun c => c.pos ≤ text.length) := by
  refine tells_read fun start line l member c found => ?_
  have inside : start < text.length := by
    by_contra outside
    rw [List.drop_eq_nil_of_le (Nat.le_of_not_lt outside)] at member
    cases member
  obtain ⟨left, cut, -⟩ := Lexer.cut_lexemes start line (text.drop start)
  have low := cut.pos_lt member
  have same : c.pos = l.pos := by
    unfold Lexeme.comment? at found
    split at found <;> cases found
    rfl
  rw [List.length_drop] at low
  omega

end Retype
