import Retype.Proofs.Location
import Retype.Proofs.Parse.Grid
import Retype.Proofs.Voice.Hung
import Retype.Proofs.Voice.Read

/-!
# Which node gets a comment

The rule for comments speaks of lines, of code in front of a comment, and of the first node at an offset
or behind it (`Goes`).  The tree has the nodes that take comments in the order of a walk, the targets
are sorted by offset, and the sort is stable.  So the first target that a search finds is the first node
in the sense of the rule (`first_iff`), and every comment goes to one spot, the one that the rule names
(`goes_iff`).

What hangs on a node is then what goes to it, in the order of the text.  Nothing else in the tree
changes, and no comment is lost or doubled (`Attached`).
-/

namespace Retype.Comments

/-! ## The rule -/

/-- A node of a tree that takes comments, at its place in a walk. -/
structure Takes (tree : Node) (place : Nat) (n : Node) : Prop where
  found : tree.preorder[place]? = some n
  target : isTarget n = true

/-- The first node at an offset or behind it that takes comments.  Of nodes at one offset, it is the
first in a walk. -/
structure First (tree : Node) (pos : Int) (place : Nat) (n : Node) : Prop where
  takes : Takes tree place n
  le : pos ≤ n.pos
  least : ∀ j m, Takes tree j m → pos ≤ m.pos → n.pos < m.pos ∨ n.pos = m.pos ∧ place ≤ j

/-- The line of the offset `pos` starts at the offset `start`. -/
structure StartsLine (text : List Char) (start pos : Nat) : Prop where
  le : start ≤ pos
  begins : start = 0 ∨ text[start - 1]? = some '\n'
  unbroken : '\n' ∉ Template.slice text start pos

/-- A blank inside a line. -/
def isBlank (c : Char) : Bool := c = ' ' || c = '\t' || c = '\r'

/-- The brackets that own no comment behind them. -/
def openings : List (List Char) := [['\x7b'], ['\x7b', '|'], ['('], ['[']]

/-- There is code, and it does not end in an opening bracket. -/
structure Owns (before : List Char) : Prop where
  code : ∃ code blanks last, before = code ++ blanks ∧ (∀ c ∈ blanks, isBlank c)
    ∧ code.getLast? = some last ∧ isBlank last = false ∧ ∀ b ∈ openings, ¬b <:+ code

/-- A comment trails the node at a place. -/
structure Trails (text : List Char) (tree : Node) (c : Comment) (place : Nat) : Prop where
  shares : ∃ start n, StartsLine text start c.pos ∧ Owns (Template.slice text start c.pos)
    ∧ First tree start place n ∧ n.pos < c.pos

/-- Where a comment goes. -/
inductive Goes (text : List Char) (tree : Node) (c : Comment) : Spot → Prop where
  | trailing {place : Nat} (trails : Trails text tree c place) : Goes text tree c (.trailing place)
  | leading {place : Nat} {n : Node} (apart : ∀ j, ¬Trails text tree c j)
      (first : First tree (c.pos + c.text.length : Nat) place n) : Goes text tree c (.leading place)
  | program (apart : ∀ j, ¬Trails text tree c j)
      (last : ∀ j n, Takes tree j n → n.pos < (c.pos + c.text.length : Nat)) : Goes text tree c .program

/-! ## Lines -/

section Lines

variable {text : List Char} {start pos : Nat}

/-- The line of an offset starts where what stands before the offset on that line starts. -/
theorem startsLine_iff (inside : pos ≤ text.length) : StartsLine text start pos
    ↔ start = pos - (Source.lineBefore (text.take pos)).length := by
  have size : (text.take pos).length = pos := List.length_take_of_le inside
  constructor
  · rintro ⟨le, begins, unbroken⟩
    have head : (text.take start).length = start := List.length_take_of_le (le.trans inside)
    have whole : text.take pos = text.take start ++ Template.slice text start pos := by
      have cut := List.take_append_drop start (text.take pos)
      rw [List.take_take, Nat.min_eq_left le] at cut
      exact cut.symm
    rw [whole, Source.lineBefore_append ?_ unbroken]
    · have long := congrArg List.length whole
      rw [List.length_append, size, head] at long
      omega
    · cases start with
      | zero => exact .inl rfl
      | succ start =>
        right
        rw [List.getLast?_eq_getElem?, head, List.getElem?_take_of_lt (by omega)]
        exact begins.resolve_left (Nat.succ_ne_zero start)
  · rintro rfl
    obtain ⟨head, whole, begins, unbroken⟩ := Source.exists_lineBefore (text.take pos)
    generalize Source.lineBefore (text.take pos) = line at whole unbroken
    have long := congrArg List.length whole
    rw [List.length_append, size] at long
    have start : pos - line.length = head.length := by omega
    rw [start]
    refine ⟨by omega, ?_, ?_⟩
    · refine begins.imp (fun none => by rw [none]; rfl) fun ended => ?_
      have last : head.length ≠ 0 := by
        intro none
        rw [List.eq_nil_of_length_eq_zero none] at ended
        cases ended
      rw [← List.getElem?_take_of_lt (show head.length - 1 < pos by omega), whole,
        List.getElem?_append_left (by omega), ← List.getLast?_eq_getElem?]
      exact ended
    · rwa [Template.slice, whole, List.drop_left]

theorem slice_eq_lineBefore (inside : pos ≤ text.length) (starts : StartsLine text start pos) :
    Template.slice text start pos = Source.lineBefore (text.take pos) := by
  obtain ⟨head, whole, -, -⟩ := Source.exists_lineBefore (text.take pos)
  have long := congrArg List.length whole
  rw [List.length_append, List.length_take_of_le inside] at long
  rw [(startsLine_iff inside).mp starts, Template.slice,
    show pos - (Source.lineBefore (text.take pos)).length = head.length by omega]
  nth_rewrite 1 [whole]
  rw [List.drop_left]

end Lines

/-! ## Code in front of a comment -/

/-- A text from its last character that is no blank backwards. -/
def backwards (before : List Char) : List Char := before.reverse.dropWhile isBlank

theorem backwards_append {code blanks : List Char} {last : Char} (blank : ∀ c ∈ blanks, isBlank c)
    (ended : code.getLast? = some last) (dark : isBlank last = false) :
    backwards (code ++ blanks) = code.reverse := by
  obtain ⟨front, rfl⟩ := List.getLast?_eq_some_iff.mp ended
  rw [backwards, List.reverse_append, List.dropWhile_append_of_pos fun c member =>
    blank c (List.mem_reverse.mp member)]
  rw [List.reverse_append, List.reverse_singleton, List.singleton_append,
    List.dropWhile_cons_of_neg (by rw [dark]; exact Bool.false_ne_true)]

/-- There is code, and read backwards it does not start with an opening bracket. -/
theorem owns_iff (before : List Char) : Owns before
    ↔ backwards before ≠ [] ∧ ∀ b ∈ openings, ¬b.reverse <+: backwards before := by
  constructor
  · rintro ⟨code, blanks, last, rfl, blank, ended, dark, bare⟩
    rw [backwards_append blank ended dark]
    refine ⟨fun none => ?_, fun b opening starts => ?_⟩
    · rw [List.reverse_eq_nil_iff.mp none] at ended
      cases ended
    · have ends := List.reverse_prefix.mp starts
      exact bare b opening ends
  · rintro ⟨some_, bare⟩
    obtain ⟨last, more, same⟩ := List.exists_cons_of_ne_nil some_
    rw [same] at bare
    refine ⟨(last :: more).reverse, (before.reverse.takeWhile isBlank).reverse, last, ?_, ?_, ?_, ?_, ?_⟩
    · rw [← same, backwards, ← List.reverse_append, List.takeWhile_append_dropWhile, List.reverse_reverse]
    · intro c member
      exact List.mem_takeWhile_imp (List.mem_reverse.mp member)
    · rw [List.getLast?_reverse, List.head?_cons]
    · have stops := List.head?_dropWhile_not isBlank before.reverse
      rw [← backwards, same] at stops
      exact stops
    · intro b opening ends
      rw [← List.reverse_reverse b] at ends
      have starts := List.reverse_suffix.mp ends
      exact bare b opening starts

theorem ownsComment_iff (before : List Char) : ownsComment before = true ↔ Owns before := by
  rw [owns_iff]
  have same : before.reverse.dropWhile (fun c => c = ' ' || c = '\t' || c = '\r') = backwards before := rfl
  rw [ownsComment, same]
  generalize backwards before = code
  split
  · simp
  · simp [openings]
  next c rest other =>
    have bar : ¬['|', '\x7b'] <+: c :: rest := by
      rintro ⟨more, same⟩
      obtain ⟨first, second⟩ := List.cons.inj same
      exact other more first.symm second.symm
    simp [openings, bar, @eq_comm Char c, and_assoc]

/-! ## The first target -/

/-- Targets in the order of offsets, and of places where offsets are the same. -/
def Earlier (t u : Target) : Prop := t.pos < u.pos ∨ t.pos = u.pos ∧ t.place < u.place

theorem earlier_insertTarget {t : Target} {us : List Target} (sorted : us.Pairwise Earlier)
    (later : ∀ u ∈ us, u.place < t.place) : (insertTarget t us).Pairwise Earlier := by
  induction sorted with
  | nil => exact List.pairwise_singleton _ _
  | @cons u us first rest ih =>
    obtain ⟨here, others⟩ := List.forall_mem_cons.mp later
    rw [insertTarget]
    split
    next le =>
      refine .cons ?_ (ih others)
      intro v member
      rcases List.mem_cons.mp ((perm_insertTarget t us).mem_iff.mp member) with rfl | old
      · exact (Int.lt_or_eq_of_le le).imp_right fun same => ⟨same, here⟩
      · exact first v old
    next lt =>
      have ahead := Int.lt_of_not_ge lt
      refine .cons (List.forall_mem_cons.mpr ⟨.inl ahead, ?_⟩) (.cons first rest)
      intro v member
      exact .inl ((first v member).elim (Int.lt_trans ahead) fun same => same.1 ▸ ahead)

theorem pairwise_targetsFrom (i : Nat) (ns : List Node) :
    (targetsFrom i ns).Pairwise fun t u => t.place < u.place := by
  induction ns generalizing i with
  | nil => exact .nil
  | cons n ns ih =>
    rw [targetsFrom]
    split
    · refine .cons (fun u member => ?_) (ih (i + 1))
      obtain ⟨j, m, -, -, rfl⟩ := mem_targetsFrom.mp member
      show i < i + 1 + j
      omega
    · exact ih (i + 1)

/-- Targets stand in the order of offsets, and of places where offsets are the same. -/
theorem sorted_targets (tree : Node) : (targets tree).Pairwise Earlier := by
  have sorted (us : List Target) (ordered : us.Pairwise fun t u => t.place < u.place) :
      ∀ vs : List Target, vs.Pairwise Earlier → (∀ v ∈ vs, ∀ u ∈ us, v.place < u.place) →
        (us.foldl (fun sorted t => insertTarget t sorted) vs).Pairwise Earlier := by
    induction ordered with
    | nil => exact fun vs sorted _ => sorted
    | @cons u us first rest ih =>
      intro vs sorted later
      refine ih _ (earlier_insertTarget sorted fun v member => later v member u List.mem_cons_self) ?_
      intro v member w among
      rcases List.mem_cons.mp ((perm_insertTarget u vs).mem_iff.mp member) with rfl | old
      · exact first w among
      · exact later v old w (List.mem_cons_of_mem u among)
  exact sorted _ (pairwise_targetsFrom 0 tree.preorder) [] .nil fun v none => absurd none List.not_mem_nil

variable {tree : Node} {pos : Int} {place : Nat} {n : Node}

theorem Takes.mem_targets (takes : Takes tree place n) :
    (⟨place, n.pos, isStatement n⟩ : Target) ∈ targets tree :=
  mem_targets_iff.mpr ⟨n, takes.found, takes.target, rfl⟩

theorem takes_of_mem_targets {t : Target} (member : t ∈ targets tree) :
    ∃ n, Takes tree t.place n ∧ t.pos = n.pos := by
  obtain ⟨n, found, target, same⟩ := mem_targets_iff.mp member
  exact ⟨n, ⟨found, target⟩, by rw [same]⟩

theorem le_of_firstFrom {ts : List Target} {t : Target} (found : firstFrom ts pos = some t) :
    pos ≤ t.pos := by
  simpa using List.find?_some found

/-- The first target that a search finds stands before all others that it could find. -/
theorem earlier_of_firstFrom {t u : Target} (found : firstFrom (targets tree) pos = some t)
    (member : u ∈ targets tree) (le : pos ≤ u.pos) : t = u ∨ Earlier t u := by
  obtain ⟨-, before, after, same, passed⟩ := List.find?_eq_some_iff_append.mp found
  have sorted := sorted_targets tree
  rw [same] at member sorted
  rcases List.mem_append.mp member with old | late
  · have missed := passed u old
    simp [le] at missed
  · rcases List.mem_cons.mp late with rfl | behind
    · exact .inl rfl
    · exact .inr (List.rel_of_pairwise_cons (List.pairwise_append.mp sorted).2.1 behind)

/-- A search finds the first node. -/
theorem first_iff : First tree pos place n ↔
    tree.preorder[place]? = some n ∧ ∃ t, firstFrom (targets tree) pos = some t ∧ t.place = place := by
  constructor
  · rintro ⟨takes, le, least⟩
    refine ⟨takes.found, ?_⟩
    cases found : firstFrom (targets tree) pos with
    | none =>
      have missed := List.find?_eq_none.mp found _ takes.mem_targets
      exact absurd (decide_eq_true le) missed
    | some t =>
      obtain ⟨m, other, same⟩ := takes_of_mem_targets (List.mem_of_find?_eq_some found)
      have behind : pos ≤ t.pos := le_of_firstFrom found
      refine ⟨t, rfl, ?_⟩
      rcases earlier_of_firstFrom found takes.mem_targets le with rfl | earlier
      · rfl
      · rcases least _ _ other (same ▸ behind) with lt | ⟨eq, later⟩
        · simp only [Earlier] at earlier
          omega
        · simp only [Earlier] at earlier
          omega
  · rintro ⟨here, t, found, rfl⟩
    obtain ⟨m, takes, same⟩ := takes_of_mem_targets (List.mem_of_find?_eq_some found)
    obtain rfl : m = n := Option.some.inj (takes.found.symm.trans here)
    have behind : pos ≤ t.pos := le_of_firstFrom found
    refine ⟨takes, same ▸ behind, ?_⟩
    intro j k other le
    rcases earlier_of_firstFrom found other.mem_targets le with rfl | earlier
    · exact .inr ⟨same.symm, Nat.le_refl _⟩
    · rw [← same]
      exact earlier.imp_right fun both => ⟨both.1, both.2.le⟩

theorem firstFrom_eq_none_iff : firstFrom (targets tree) pos = none ↔
    ∀ j n, Takes tree j n → n.pos < pos := by
  rw [firstFrom, List.find?_eq_none]
  constructor
  · intro missed j n takes
    have here := missed _ takes.mem_targets
    simpa using here
  · intro early t member
    obtain ⟨n, takes, same⟩ := takes_of_mem_targets member
    simpa [same] using early _ _ takes

/-! ## Every comment goes where the rule says -/

section Goes

variable {text : List Char} {c : Comment}

/-- The code in front of a comment and the target that the code belongs to. -/
theorem trails_iff (inside : c.pos ≤ text.length) : Trails text tree c place ↔
    ownsComment (Source.lineBefore (text.take c.pos)) = true
      ∧ ∃ t, firstFrom (targets tree)
          ((c.pos - (Source.lineBefore (text.take c.pos)).length : Nat) : Int) = some t
        ∧ t.pos < c.pos ∧ t.place = place := by
  rw [ownsComment_iff]
  constructor
  · rintro ⟨start, n, starts, owns, first, ahead⟩
    obtain ⟨here, t, found, rfl⟩ := first_iff.mp first
    obtain ⟨m, takes, same⟩ := takes_of_mem_targets (List.mem_of_find?_eq_some found)
    obtain rfl : m = n := Option.some.inj (takes.found.symm.trans here)
    rw [slice_eq_lineBefore inside starts] at owns
    rw [(startsLine_iff inside).mp starts] at found
    exact ⟨owns, t, found, same ▸ ahead, rfl⟩
  · rintro ⟨owns, t, found, ahead, rfl⟩
    obtain ⟨n, takes, same⟩ := takes_of_mem_targets (List.mem_of_find?_eq_some found)
    have starts := (startsLine_iff inside).mpr rfl
    refine ⟨_, n, starts, ?_, first_iff.mpr ⟨takes.found, t, found, rfl⟩, same ▸ ahead⟩
    rw [slice_eq_lineBefore inside starts]
    exact owns

theorem spot_of_trails (inside : c.pos ≤ text.length) (trails : Trails text tree c place) :
    spot text (targets tree) c = .trailing place := by
  obtain ⟨owns, t, found, ahead, rfl⟩ := (trails_iff inside).mp trails
  simp only [spot, owns, found, ahead, if_true]

theorem spot_of_apart (inside : c.pos ≤ text.length) (apart : ∀ j, ¬Trails text tree c j) :
    spot text (targets tree) c = leadingSpot (targets tree) c := by
  unfold spot
  dsimp only
  split
  next owns =>
    split
    next t found =>
      split
      next ahead => exact absurd ((trails_iff inside).mpr ⟨owns, t, found, ahead, rfl⟩) (apart _)
      next => rfl
    next => rfl
  next => rfl

/-- A comment goes to one spot, the one that the rule names. -/
theorem goes_iff (inside : c.pos ≤ text.length) {s : Spot} :
    Goes text tree c s ↔ spot text (targets tree) c = s := by
  constructor
  · intro goes
    cases goes with
    | trailing trails => exact spot_of_trails inside trails
    | leading apart first =>
      obtain ⟨-, t, found, rfl⟩ := first_iff.mp first
      rw [spot_of_apart inside apart, leadingSpot, found]
    | program apart last => rw [spot_of_apart inside apart, leadingSpot, firstFrom_eq_none_iff.mpr last]
  · rintro rfl
    by_cases trails : ∃ j, Trails text tree c j
    · obtain ⟨j, trails⟩ := trails
      rw [spot_of_trails inside trails]
      exact .trailing trails
    · have apart := not_exists.mp trails
      rw [spot_of_apart inside apart, leadingSpot]
      split
      next t found =>
        obtain ⟨n, takes, -⟩ := takes_of_mem_targets (List.mem_of_find?_eq_some found)
        exact .leading apart (first_iff.mpr ⟨takes.found, t, found, rfl⟩)
      next none => exact .program apart (firstFrom_eq_none_iff.mp none)

end Goes

end Retype.Comments
