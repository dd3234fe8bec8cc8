import Retype.Proofs.Convert.Closed

/-!
# The members of an object type

What an object type becomes, with every warning on the way, is read off its members.  The first
indexer divides them.  The members up to it and the indexer itself are kept, and so are the members
behind it that are no indexers.  `convertFields` and `convertBody` both go over the members with a
flag that says on which side they are, and differ in what they do with a spread.

If the first indexer has a name, nothing but that indexer is kept.  Each other member is warned of
once, the indexers before all else.
-/

namespace Retype

open Retype.Convert
open Node (Parsed)
open Outcome (warn warnIf)

/-! ## Trees that the grammar builds -/

/-- A node of a type that the grammar derives, or of a parsed source. -/
def Node.GrammarBuilt (n : Node) : Prop :=
  (∃ d : Grammar.Derivation Grammar.rules (.n .type), n ∈ d.eval.preorder)
    ∨ ∃ (src : Source) (tree : Node), src.parse = .ok tree ∧ n ∈ tree.preorder

theorem Node.GrammarBuilt.formed {n : Node} (built : n.GrammarBuilt) : n.Formed Parsed := by
  rcases built with ⟨d, member⟩ | ⟨src, tree, parsed, member⟩
  · have fresh : Node.Plays Node.Fresh .type d.eval := Grammar.eval_good d
    have plays := fresh.mono (F := Parsed) fun _ _ plain => ⟨plain.1, fun _ => plain.2⟩
    exact plays.2.of_mem member
  · exact (Source.parse_plays parsed).2.of_mem member

namespace Convert

/-! ## The first indexer -/

/-- The members up to the first indexer and with it, and the members behind it.  If an indexer was
`seen` before, all members are behind it. -/
def splitAtIndexer : (seen : Bool) → List Node → List Node × List Node
  | true, ms => ([], ms)
  | false, [] => ([], [])
  | false, m :: ms => (m :: (splitAtIndexer (isIndexer m) ms).1, (splitAtIndexer (isIndexer m) ms).2)

/-- The members that become members: no spread, and no indexer behind the first. -/
def keptMembers (seen : Bool) (members : List Node) : List Node :=
  ((splitAtIndexer seen members).1
    ++ (splitAtIndexer seen members).2.filter (!isIndexer ·)).filter (!isSpread ·)

/-- The fields that members become, if `value` says what each becomes.  A field has the comments of
its member. -/
def fieldsOf (value : Node → Node) (seen : Bool) (members : List Node) : List Node :=
  (keptMembers seen members).map fun m => m.keepComments (value m)

/-- What is reported of members, if each reports its `own` warnings and an indexer behind the first
is reported as dropped. -/
def reports (own : Node → List Warning) (seen : Bool) (members : List Node) : List Warning :=
  (splitAtIndexer seen members).1.flatMap own
    ++ (splitAtIndexer seen members).2.flatMap fun m =>
      if isIndexer m then [⟨.extraIndexer, m.pos⟩] else own m

variable {members : List Node}

theorem splitAtIndexer_append (seen : Bool) (members : List Node) :
    (splitAtIndexer seen members).1 ++ (splitAtIndexer seen members).2 = members := by
  fun_induction splitAtIndexer seen members with
  | case1 => rfl
  | case2 => rfl
  | case3 m ms ih => rw [List.cons_append, ih]

/-- Only the last of the members that come first can be an indexer. -/
theorem countP_isIndexer_splitAtIndexer (seen : Bool) :
    (splitAtIndexer seen members).1.countP isIndexer ≤ if seen then 0 else 1 := by
  fun_induction splitAtIndexer seen members with
  | case1 => simp
  | case2 => simp
  | case3 m ms ih =>
    rw [List.countP_cons]
    cases indexer : isIndexer m <;> simp_all

/-- At most one indexer is kept. -/
theorem countP_isIndexer_keptMembers : (keptMembers false members).countP isIndexer ≤ 1 := by
  refine Nat.le_trans (List.filter_sublist.countP_le (p := isIndexer)) ?_
  have behind : ((splitAtIndexer false members).2.filter (!isIndexer ·)).countP isIndexer = 0 := by
    simp [List.countP_eq_zero]
  rw [List.countP_append, behind]
  exact countP_isIndexer_splitAtIndexer false

theorem mem_of_mem_keptMembers {seen : Bool} {m : Node} (kept : m ∈ keptMembers seen members) :
    m ∈ members := by
  rw [← splitAtIndexer_append seen members]
  rcases List.mem_append.mp (List.mem_of_mem_filter kept) with here | behind
  · exact List.mem_append_left _ here
  · exact List.mem_append_right _ (List.mem_of_mem_filter behind)

section Cons

variable {m : Node} {seen : Bool} {own : Node → List Warning} {value : Node → Node}

/-- A spread is no field. -/
theorem fieldsOf_spread (spread : isSpread m) :
    fieldsOf value seen (m :: members) = fieldsOf value seen members := by
  have other := isIndexer_of_isSpread spread
  cases seen with
  | true => simp [fieldsOf, keptMembers, splitAtIndexer, other, spread]
  | false => simp [fieldsOf, keptMembers, splitAtIndexer, other, spread]

theorem fieldsOf_dropped (indexer : isIndexer m) :
    fieldsOf value true (m :: members) = fieldsOf value true members := by
  simp [fieldsOf, keptMembers, splitAtIndexer, indexer]

theorem fieldsOf_kept (field : isSpread m = false) (first : (isIndexer m && seen) = false) :
    fieldsOf value seen (m :: members)
      = m.keepComments (value m) :: fieldsOf value (seen || isIndexer m) members := by
  cases seen with
  | true =>
    have other : isIndexer m = false := by simpa using first
    simp [fieldsOf, keptMembers, splitAtIndexer, other, field]
  | false => simp [fieldsOf, keptMembers, splitAtIndexer, field]

theorem reports_dropped (indexer : isIndexer m) :
    reports own true (m :: members) = ⟨.extraIndexer, m.pos⟩ :: reports own true members := by
  simp [reports, splitAtIndexer, indexer]

theorem reports_kept (first : (isIndexer m && seen) = false) :
    reports own seen (m :: members) = own m ++ reports own (seen || isIndexer m) members := by
  cases seen with
  | true =>
    have other : isIndexer m = false := by simpa using first
    simp [reports, splitAtIndexer, other]
  | false => simp [reports, splitAtIndexer]

end Cons

/-! ## Members that are converted -/

section Members

variable {value : Node → Node}

/-- What is reported of a member when it is converted. -/
def memberWarnings (m : Node) : List Warning := (convertMember id m).warnings

/-- What is reported of a member of an interface.  A spread is dropped. -/
def bodyWarnings (m : Node) : List Warning :=
  if isSpread m then [⟨.interfaceSpread, m.pos⟩] else memberWarnings m

theorem withCommentsOf_of_flow {m : Node} (plain : m.isTs = false) (new : Node) :
    withCommentsOf m new = m.keepComments new := by
  simp [withCommentsOf, plain]

/-- The fields and spreads of an object type, and all that is reported of them. -/
theorem convertFields_eq (seen : Bool) (plain : ∀ m ∈ members, m.isTs = false)
    (each : ∀ m ∈ members, (convertMember id m).result = .ok (value m)) :
    convertFields id seen members
      = ⟨reports memberWarnings seen members,
          .ok (fieldsOf value seen members, (members.filter isSpread).map value)⟩ := by
  induction members generalizing seen with
  | nil => cases seen <;> rfl
  | cons m ms ih =>
    obtain ⟨plainFirst, plainRest⟩ := List.forall_mem_cons.mp plain
    obtain ⟨first, rest⟩ := List.forall_mem_cons.mp each
    rw [convertFields]
    split
    next spread =>
      have other : (isIndexer m && seen) = false := by simp [isIndexer_of_isSpread spread]
      have same : (seen || isIndexer m) = seen := by simp [isIndexer_of_isSpread spread]
      rw [Outcome.bind_of_ok first, ih seen plainRest rest, Outcome.bind_of_ok rfl,
        fieldsOf_spread spread, reports_kept other, same, List.filter_cons_of_pos spread]
      simp [memberWarnings]
    next field =>
      have field : isSpread m = false := by simpa using field
      split
      next dropped =>
        obtain ⟨indexer, rfl⟩ := (Bool.and_eq_true _ _).mp dropped
        rw [ih true plainRest rest, Outcome.bind_of_ok rfl, fieldsOf_dropped indexer,
          reports_dropped indexer, List.filter_cons_of_neg (by simp [field])]
        rfl
      next kept =>
        have kept : (isIndexer m && seen) = false := by simpa using kept
        rw [Outcome.bind_of_ok first, ih _ plainRest rest, Outcome.bind_of_ok rfl,
          fieldsOf_kept field kept, reports_kept kept, List.filter_cons_of_neg (by simp [field])]
        simp [memberWarnings, withCommentsOf_of_flow plainFirst]

/-- The members of an interface, and all that is reported of them. -/
theorem convertBody_eq (seen : Bool) (plain : ∀ m ∈ members, m.isTs = false)
    (each : ∀ m ∈ members, (convertMember id m).result = .ok (value m)) :
    convertBody id seen members
      = ⟨reports bodyWarnings seen members,
          .ok (fieldsOf value seen members)⟩ := by
  induction members generalizing seen with
  | nil => cases seen <;> rfl
  | cons m ms ih =>
    obtain ⟨plainFirst, plainRest⟩ := List.forall_mem_cons.mp plain
    obtain ⟨first, rest⟩ := List.forall_mem_cons.mp each
    rw [convertBody]
    split
    next spread =>
      have other : (isIndexer m && seen) = false := by simp [isIndexer_of_isSpread spread]
      have same : (seen || isIndexer m) = seen := by simp [isIndexer_of_isSpread spread]
      rw [ih seen plainRest rest, Outcome.bind_of_ok rfl, fieldsOf_spread spread,
        reports_kept other, same, bodyWarnings, if_pos spread]
      rfl
    next field =>
      have field : isSpread m = false := by simpa using field
      split
      next dropped =>
        obtain ⟨indexer, rfl⟩ := (Bool.and_eq_true _ _).mp dropped
        rw [ih true plainRest rest, Outcome.bind_of_ok rfl, fieldsOf_dropped indexer,
          reports_dropped indexer]
        rfl
      next kept =>
        have kept : (isIndexer m && seen) = false := by simpa using kept
        rw [Outcome.bind_of_ok first, ih _ plainRest rest, Outcome.bind_of_ok rfl,
          fieldsOf_kept field kept, reports_kept kept, bodyWarnings, if_neg (by simp [field])]
        simp [memberWarnings, withCommentsOf_of_flow plainFirst]

end Members

/-! ## Named indexers -/

section Mapped

variable {before after : List Node} {i : Info} {name : Option String} {key value : Node}
  {variance : Option Variance}

/-- The warning of a member that a mapped type drops. -/
def dropWarning (m : Node) : Warning :=
  ⟨if isIndexer m then .extraIndexer else .besideIndexer, m.pos⟩

theorem forM_warn_eq (ns : List Node) (loss : Loss) :
    (ns.forM fun n => warn loss n.pos : Outcome Unit) = ⟨ns.map fun n => ⟨loss, n.pos⟩, .ok ()⟩ := by
  induction ns with
  | nil => rfl
  | cons n ns ih =>
    change (warn loss n.pos >>= fun _ => ns.forM fun n => warn loss n.pos) = _
    rw [ih, Outcome.bind_of_ok rfl]
    rfl

/-- Each member but the first indexer is warned of once. -/
theorem warnings_warnUnmapped (first : ∀ m ∈ before, isIndexer m = false) :
    (warnUnmapped (before ++ ⟨i, .flow (.indexer name key value variance)⟩ :: after)).warnings.Perm
      ((before ++ after).map dropWarning) := by
  have none : before.filter isIndexer = [] := by simpa [List.filter_eq_nil_iff] using first
  have extra : ((before ++ after).filter isIndexer).map dropWarning
      = (after.filter isIndexer).map fun m => ⟨.extraIndexer, m.pos⟩ := by
    rw [List.filter_append, none, List.nil_append]
    refine List.map_congr_left fun m member => ?_
    simp [dropWarning, (List.mem_filter.mp member).2]
  have beside : ((before ++ after).filter (!isIndexer ·)).map dropWarning
      = ((before ++ after).filter (!isIndexer ·)).map fun m => ⟨.besideIndexer, m.pos⟩ := by
    refine List.map_congr_left fun m member => ?_
    have other : isIndexer m = false := by simpa using (List.mem_filter.mp member).2
    simp [dropWarning, other]
  have all := (List.filter_append_perm isIndexer (before ++ after)).map dropWarning
  rw [List.map_append, extra, beside] at all
  rw [warnUnmapped, forM_warn_eq, forM_warn_eq, Outcome.bind_of_ok rfl]
  simpa [List.filter_append, none, List.filter_cons, isIndexer] using all

theorem isMapped_append (first : ∀ m ∈ before, isIndexer m = false) :
    isMapped (before ++ ⟨i, .flow (.indexer name key value variance)⟩ :: after)
      = (declared name).isSome := by
  have none : before.find? isIndexer = none := by simpa using first
  rw [isMapped, List.find?_append, none]
  rfl

theorem convertMapped_append {pos : Int} (first : ∀ m ∈ before, isIndexer m = false) :
    convertMapped id pos (before ++ ⟨i, .flow (.indexer name key value variance)⟩ :: after)
      = convertMapped id pos (⟨i, .flow (.indexer name key value variance)⟩ :: after) := by
  induction before with
  | nil => rfl
  | cons m ms ih =>
    obtain ⟨other, rest⟩ := List.forall_mem_cons.mp first
    refine (convertMapped.eq_2 _ _ _ _ ?_).trans (ih rest)
    rintro j id key value variance rfl
    exact absurd other (by simp [isIndexer])

end Mapped

end Convert

end Retype
