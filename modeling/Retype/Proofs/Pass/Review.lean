import Retype.Proofs.Parse.Grid
import Retype.Proofs.Pass.Receiver

/-!
# The comment that asks for a review

The passes that remove `??` and `?.` put a comment on what they replace, and only the outermost
replacement is to carry it.  Each pass knows what it replaces itself.  Of the other pass it knows
only the comments that it finds on its way down.

So the two passes together replace the outermost expressions with one of the operators, and each
replacement carries the comment once.  Below it there is no comment if the expression is a `??`,
which is replaced first and shows its comment to the second pass.  Below an optional chain there is
one for each outermost `??`: when the first pass came by, nothing told it that the chain around the
`??` would be replaced.
-/

namespace Retype

open Passes (reviewComment isInside marked coalesce shortCircuit nullTest undefinedAt)

namespace Node

/-- A node of a tree carries the comment. -/
def HoldsMark (n : Node) : Prop := ∃ m ∈ n.preorder, reviewComment ∈ m.comments

/-- The expressions that one of the two passes replaces. -/
def isRewritten (n : Node) : Bool := n.form.isNullish || n.endsOptional

/-- What both passes make of a node. -/
def rewritten (b : Bool) (n : Node) : Node := (n.coalesced b).unchained b

/-- The tree with its outermost expressions of either operator replaced, and otherwise as it is.
The flag says whether a node above carries the comment already. -/
def reviewed (b : Bool) (n : Node) : Node :=
  n.fold (fun m results b =>
    if m.isRewritten then m.rewritten b else m.withForm (results.map (· (isInside m b)))) b

theorem reviewed_eq (b : Bool) (n : Node) : n.reviewed b
    = if n.isRewritten then n.rewritten b else n.withForm (n.form.map (reviewed (isInside n b))) := by
  rw [reviewed, fold_eq]
  split
  · rfl
  · rw [Form.map_map]
    rfl

end Node

/-! ## Comments of built expressions -/

section Marks

theorem holdsMark_iff {n : Node} :
    n.HoldsMark ↔ reviewComment ∈ n.comments ∨ ∃ c ∈ n.children, c.HoldsMark := by
  constructor
  · rintro ⟨m, member, mark⟩
    rcases Node.mem_preorder_iff.mp member with rfl | lower
    · exact .inl mark
    · obtain ⟨c, child, inner⟩ := Node.mem_descendants_iff.mp lower
      exact .inr ⟨c, child, m, inner, mark⟩
  · rintro (mark | ⟨c, child, m, inner, mark⟩)
    · exact ⟨n, n.self_mem_preorder, mark⟩
    · exact ⟨m, Node.descendants_subset_preorder (Node.mem_descendants_iff.mpr ⟨c, child, inner⟩), mark⟩

theorem Node.HoldsMark.of_mem {m n : Node} (holds : m.HoldsMark) (member : m ∈ n.preorder) :
    n.HoldsMark := by
  obtain ⟨k, inner, mark⟩ := holds
  exact ⟨k, Node.preorder_trans inner member, mark⟩

theorem not_holdsMark_of_bare {n : Node} (bare : ∀ m ∈ n.preorder, m.comments.isEmpty) :
    ¬n.HoldsMark := by
  rintro ⟨m, member, mark⟩
  rw [List.isEmpty_iff.mp (bare m member)] at mark
  cases mark

theorem holdsMark_descendants {n : Node} :
    (∃ m ∈ n.descendants, reviewComment ∈ m.comments) ↔ ∃ c ∈ n.children, c.HoldsMark := by
  constructor
  · rintro ⟨m, lower, mark⟩
    obtain ⟨c, child, inner⟩ := Node.mem_descendants_iff.mp lower
    exact ⟨c, child, m, inner, mark⟩
  · rintro ⟨c, child, m, inner, mark⟩
    exact ⟨m, Node.mem_descendants_iff.mpr ⟨c, child, inner⟩, mark⟩

theorem holdsMark_expr {i : Info} {f : ExprForm Node} :
    Node.HoldsMark ⟨i, .expr f⟩ ↔ reviewComment ∈ i.comments ∨ ∃ s ∈ f.slots, s.2.HoldsMark := by
  rw [holdsMark_iff, Node.children, Form.children_eq_slots (by simp)]
  simp only [List.mem_map, exists_exists_and_eq_and]
  rfl

/-- A built expression carries no comment of its own. -/
theorem holdsMark_plain {pos : Int} {f : ExprForm Node} :
    (Node.expr pos f).HoldsMark ↔ ∃ s ∈ f.slots, s.2.HoldsMark := by
  rw [Node.expr, Node.plain, holdsMark_expr]
  simp

theorem holdsMark_nullTest {pos : Int} {join compare : BinaryOp} {n : Node} :
    (nullTest pos join compare n).HoldsMark ↔ n.HoldsMark := by
  simp [nullTest, undefinedAt, Node.ident, holdsMark_plain, ExprForm.slots]

theorem holdsMark_coalesce {pos : Int} {l r : Node} :
    (coalesce pos l r).HoldsMark ↔ l.HoldsMark ∨ r.HoldsMark := by
  simp [coalesce, holdsMark_plain, holdsMark_nullTest, ExprForm.slots]

theorem holdsMark_shortCircuit {pos : Int} {o c : Node} :
    (shortCircuit pos o c).HoldsMark ↔ o.HoldsMark ∨ c.HoldsMark := by
  simp [shortCircuit, undefinedAt, Node.ident, holdsMark_plain, holdsMark_nullTest, ExprForm.slots]

theorem holdsMark_on {i : Info} {link : Link Node} {object : Node} {optional : Bool} :
    Node.HoldsMark ⟨i, .expr (link.on object optional)⟩
      ↔ reviewComment ∈ i.comments ∨ object.HoldsMark ∨ ∃ s ∈ link.slots, s.2.HoldsMark := by
  simp [holdsMark_expr, Link.slots_on]

/-- A layer with other children. -/
theorem holdsMark_map {n : Node} {k : Node → Node} :
    (n.withForm (n.form.map k)).HoldsMark
      ↔ reviewComment ∈ n.comments ∨ ∃ c ∈ n.children, (k c).HoldsMark := by
  rw [holdsMark_iff, Node.children, Node.form_withForm, Form.children_map]
  simp only [List.mem_map, exists_exists_and_eq_and]
  rfl

theorem isInside_of_unmarked {n : Node} (unmarked : reviewComment ∉ n.comments) (b : Bool) :
    isInside n b = b := by
  simp [isInside, unmarked]

end Marks

/-! ## The first pass -/

section Coalesced

variable {n : Node}

/-- The first pass puts comments where no node above has been replaced. -/
theorem holdsMark_coalesced {b : Bool} (unmarked : ¬n.HoldsMark) :
    (n.coalesced b).HoldsMark ↔ b = false ∧ ∃ m ∈ n.preorder, m.form.isNullish := by
  induction n using Node.descend generalizing b with
  | step n ih =>
    have own : reviewComment ∉ n.comments := fun mark => unmarked ⟨n, n.self_mem_preorder, mark⟩
    have below {c : Node} (lower : c ∈ n.descendants) (b : Bool) :
        (c.coalesced b).HoldsMark ↔ b = false ∧ ∃ m ∈ c.preorder, m.form.isNullish :=
      ih c lower fun holds => unmarked (holds.of_mem (Node.descendants_subset_preorder lower))
    cases found : n.coalescence? with
    | some new =>
      rw [coalesced_rewriting.value_of_special found, marked, isInside_of_unmarked own]
      obtain ⟨i, l, r, rfl, rfl⟩ := coalescence_cases found
      have left := below (c := l) (Node.child_mem_descendants
        (by simp [Node.children, Form.children, Form.parts, ExprForm.parts])) true
      have right := below (c := r) (Node.child_mem_descendants
        (by simp [Node.children, Form.children, Form.parts, ExprForm.parts])) true
      cases b with
      | true =>
        rw [if_pos rfl, holdsMark_coalesce, left, right]
        simp
      | false =>
        refine iff_of_true ?_ ⟨rfl, _, Node.self_mem_preorder _, rfl⟩
        exact holdsMark_iff.mpr (.inl (by simp [Node.addComment, Node.comments]))
    | none =>
      have other := coalescence?_eq_none_iff.mp found
      rw [coalesced_rewriting.value_of_none found, isInside_of_unmarked own, holdsMark_map]
      constructor
      · rintro (mark | ⟨c, child, holds⟩)
        · exact absurd mark own
        · obtain ⟨outside, m, inner, nullish⟩ := (below (Node.child_mem_descendants child) b).mp holds
          exact ⟨outside, m, Node.descendants_subset_preorder
            (Node.mem_descendants_iff.mpr ⟨c, child, inner⟩), nullish⟩
      · rintro ⟨outside, m, member, nullish⟩
        rcases Node.mem_preorder_iff.mp member with rfl | lower
        · rw [other] at nullish
          cases nullish
        · obtain ⟨c, child, inner⟩ := Node.mem_descendants_iff.mp lower
          exact .inr ⟨c, child, (below (Node.child_mem_descendants child) b).mpr
            ⟨outside, m, inner, nullish⟩⟩

end Coalesced

/-! ## The second pass -/

/-- No node that ends an optional chain carries the comment.  What the second pass replaces loses
its comments. -/
def Node.ChainsUnmarked (n : Node) : Prop :=
  ∀ m ∈ n.preorder, m.endsOptional → reviewComment ∉ m.comments

section Unchained

variable {n : Node}

theorem Node.ChainsUnmarked.of_mem {m : Node} (bare : n.ChainsUnmarked) (member : m ∈ n.preorder) :
    m.ChainsUnmarked := fun k inner => bare k (Node.preorder_trans inner member)

/-- A rebuilt chain holds the comments of the chain, and the tested object holds no others. -/
theorem holdsMark_chain {o c : Node} (found : n.chain? = some (o, c)) (bare : n.ChainsUnmarked)
    (below : ∀ d ∈ n.descendants, (d.unchained true).HoldsMark ↔ d.HoldsMark) :
    (c.HoldsMark ↔ n.HoldsMark) ∧ (o.HoldsMark → n.HoldsMark) := by
  have parts {link : Link Node} (each : ∀ s ∈ link.slots, (s.2.unchained true).HoldsMark ↔ s.2.HoldsMark) :
      (∃ s ∈ (link.map (Node.unchained true)).slots, s.2.HoldsMark) ↔ ∃ s ∈ link.slots, s.2.HoldsMark := by
    rw [Link.slots_map]
    simp only [List.mem_map, exists_exists_and_eq_and, Prod.map_snd]
    exact exists_congr fun s => and_congr_right fun slot => each s slot
  have goal := chain_induction (P := fun n o c => n.endsOptional ∧ (n.ChainsUnmarked →
    (∀ d ∈ n.descendants, (d.unchained true).HoldsMark ↔ d.HoldsMark) →
    (c.HoldsMark ↔ n.HoldsMark) ∧ (o.HoldsMark → n.HoldsMark))) ?_ ?_ found
  · exact goal.2 bare below
  · intro i link object
    have ends : Node.endsOptional ⟨i, .expr (link.on object true)⟩ := by rw [endsOptional_on]; rfl
    refine ⟨ends, fun bare below => ?_⟩
    have own := bare _ (Node.self_mem_preorder _) ends
    have inParts := parts fun s slot => below s.2 (part_mem slot)
    rw [Node.expr, Node.plain, holdsMark_on, holdsMark_on, inParts, below object object_mem]
    exact ⟨or_congr (iff_of_false List.not_mem_nil own) Iff.rfl, fun holds => .inr (.inl holds)⟩
  · rintro i link object o c ⟨inner, ih⟩
    have ends : Node.endsOptional ⟨i, .expr (link.on object false)⟩ := by
      rw [endsOptional_on, inner]
      rfl
    refine ⟨ends, fun bare below => ?_⟩
    have own := bare _ (Node.self_mem_preorder _) ends
    have inParts := parts fun s slot => below s.2 (part_mem slot)
    obtain ⟨chain, tested⟩ := ih (bare.of_mem (Node.descendants_subset_preorder object_mem))
      fun d lower => below d (below_object lower)
    rw [Node.expr, Node.plain, holdsMark_on, holdsMark_on, inParts, chain]
    exact ⟨or_congr (iff_of_false List.not_mem_nil own) Iff.rfl, fun holds => .inr (.inl (tested holds))⟩

/-- What a replaced chain holds. -/
theorem holdsMark_replacement {o c : Node} {pos : Int} (found : n.chain? = some (o, c))
    (bare : n.ChainsUnmarked)
    (below : ∀ d ∈ n.descendants, (d.unchained true).HoldsMark ↔ d.HoldsMark) :
    (shortCircuit pos o c).HoldsMark ↔ n.HoldsMark := by
  obtain ⟨chain, tested⟩ := holdsMark_chain found bare below
  rw [holdsMark_shortCircuit, chain]
  exact ⟨fun either => either.elim tested id, .inr⟩

theorem shortCircuit?_of_chain {o c : Node} (found : n.chain? = some (o, c)) :
    n.shortCircuit? = some (shortCircuit n.pos o c) := by
  rw [Node.shortCircuit?, found]
  rfl

/-- Inside a replacement the second pass puts no comment, and it drops none. -/
theorem holdsMark_unchained (bare : n.ChainsUnmarked) : (n.unchained true).HoldsMark ↔ n.HoldsMark := by
  induction n using Node.descend with
  | step n ih =>
    have below : ∀ d ∈ n.descendants, (d.unchained true).HoldsMark ↔ d.HoldsMark := fun d lower =>
      ih d lower (bare.of_mem (Node.descendants_subset_preorder lower))
    cases found : n.chain? with
    | some oc =>
      rw [unchained_rewriting.value_of_special (shortCircuit?_of_chain found), marked, if_pos (by simp [isInside])]
      exact holdsMark_replacement found bare below
    | none =>
      have inside : isInside n true = true := by simp [isInside]
      rw [unchained_of_none found, inside, holdsMark_map, holdsMark_iff]
      exact or_congr_right (exists_congr fun c => and_congr_right fun child =>
        below c (Node.child_mem_descendants child))

end Unchained

/-! ## Both passes -/

section Both

variable {n : Node}

/-- A node that is no link ends no chain, whatever its children become. -/
theorem endsOptional_map {k : Node → Node}
    (each : ∀ c ∈ n.children, (k c).endsOptional = c.endsOptional) :
    (n.withForm (n.form.map k)).endsOptional = n.endsOptional := by
  have onLink {i : Info} (link : Link Node) (object : Node) (optional : Bool)
      (each : ∀ c ∈ Node.children ⟨i, .expr (link.on object optional)⟩,
        (k c).endsOptional = c.endsOptional) :
      Node.endsOptional ⟨i, .expr ((link.on object optional).map k)⟩
        = Node.endsOptional ⟨i, .expr (link.on object optional)⟩ := by
    rw [Link.map_on, endsOptional_on, endsOptional_on, each object mem_link.1]
  rcases n with ⟨i, f⟩
  cases f with
  | expr f =>
    cases f with
    | member object property optional => exact onLink (.member property) object optional each
    | index object property optional => exact onLink (.index property) object optional each
    | call object args optional => exact onLink (.call args) object optional each
    | _ => rfl
  | _ => rfl

/-- The first pass leaves optional chains where they are. -/
theorem endsOptional_coalesced (b : Bool) : (n.coalesced b).endsOptional = n.endsOptional := by
  induction n using Node.childInduction generalizing b with
  | step n ih =>
    cases found : n.coalescence? with
    | some new =>
      rw [coalesced_rewriting.value_of_special found, marked]
      obtain ⟨i, l, r, rfl, rfl⟩ := coalescence_cases found
      split <;> rfl
    | none =>
      rw [coalesced_rewriting.value_of_none found]
      exact endsOptional_map fun c child => ih c child _

theorem chainsUnmarked_iff :
    n.ChainsUnmarked ↔ (n.endsOptional → reviewComment ∉ n.comments) ∧ ∀ c ∈ n.children, c.ChainsUnmarked :=
  Node.forall_mem_preorder_iff

/-- A built expression carries no comment of its own. -/
theorem chainsUnmarked_plain {pos : Int} {f : ExprForm Node} :
    (Node.expr pos f).ChainsUnmarked ↔ ∀ s ∈ f.slots, s.2.ChainsUnmarked := by
  rw [chainsUnmarked_iff, Node.children, Node.expr, Node.plain, Form.children_eq_slots (by simp),
    List.forall_mem_map]
  exact and_iff_right fun _ => List.not_mem_nil

theorem chainsUnmarked_coalesce {pos : Int} {l r : Node} (left : l.ChainsUnmarked)
    (right : r.ChainsUnmarked) : (coalesce pos l r).ChainsUnmarked := by
  simp [coalesce, nullTest, undefinedAt, Node.ident, chainsUnmarked_plain, ExprForm.slots, left, right]

/-- The first pass puts no comment on an optional chain. -/
theorem chainsUnmarked_coalesced {b : Bool} (unmarked : ¬n.HoldsMark) : (n.coalesced b).ChainsUnmarked := by
  induction n using Node.descend generalizing b with
  | step n ih =>
    have below {c : Node} (lower : c ∈ n.descendants) (b : Bool) : (c.coalesced b).ChainsUnmarked :=
      ih c lower fun holds => unmarked (holds.of_mem (Node.descendants_subset_preorder lower))
    have ends := endsOptional_coalesced (n := n) b
    cases found : n.coalescence? with
    | some new =>
      rw [coalesced_rewriting.value_of_special found] at ends ⊢
      obtain ⟨i, l, r, rfl, rfl⟩ := coalescence_cases found
      have built : (coalesce i.pos (l.coalesced true) (r.coalesced true)).ChainsUnmarked :=
        chainsUnmarked_coalesce
          (below (Node.child_mem_descendants
            (by simp [Node.children, Form.children, Form.parts, ExprForm.parts])) true)
          (below (Node.child_mem_descendants
            (by simp [Node.children, Form.children, Form.parts, ExprForm.parts])) true)
      refine chainsUnmarked_iff.mpr ⟨fun chain => ?_, ?_⟩
      · rw [ends] at chain
        cases chain
      · rw [Node.children, form_marked]
        exact (chainsUnmarked_iff.mp built).2
    | none =>
      rw [coalesced_rewriting.value_of_none found, chainsUnmarked_iff, Node.children,
        Node.form_withForm, Form.children_map, List.forall_mem_map]
      exact ⟨fun _ mark => unmarked ⟨n, n.self_mem_preorder, mark⟩,
        fun c child => below (Node.child_mem_descendants child) _⟩

/-- Outside of the two operators, a node keeps its place and the passes go on below it. -/
theorem rewritten_of_other {b : Bool} (other : n.isRewritten = false) :
    n.rewritten b = n.withForm (n.form.map (Node.rewritten (isInside n b))) := by
  obtain ⟨notNullish, plain⟩ := Bool.or_eq_false_iff.mp other
  have first : n.coalesced b = n.withForm (n.form.map (Node.coalesced (isInside n b))) :=
    coalesced_rewriting.value_of_none (coalescence?_eq_none_iff.mpr notNullish)
  have none : (n.coalesced b).chain? = none :=
    chain?_of_endsOptional ((endsOptional_coalesced b).trans plain)
  rw [Node.rewritten, unchained_of_none none, first, Node.form_withForm, Form.map_map]
  rfl

/-- The two passes replace the outermost expressions with one of the operators. -/
theorem rewritten_eq_reviewed (n : Node) (b : Bool) : n.rewritten b = n.reviewed b := by
  induction n using Node.childInduction generalizing b with
  | step n ih =>
    rw [Node.reviewed_eq]
    split
    next => rfl
    next other =>
      rw [rewritten_of_other (Bool.eq_false_iff.mpr other),
        Form.map_congr fun c child => ih c child (isInside n b)]

theorem not_endsOptional_of_nullish (nullish : n.form.isNullish) : n.endsOptional = false := by
  rcases n with ⟨i, f⟩
  obtain ⟨l, r, rfl⟩ := Form.nullish_cases nullish
  rfl

theorem holdsMark_below_built {pos : Int} {f : ExprForm Node} :
    (∃ m ∈ ((Node.expr pos f).addComment reviewComment).descendants, reviewComment ∈ m.comments)
      ↔ (Node.expr pos f).HoldsMark := by
  rw [holdsMark_descendants, holdsMark_iff (n := .expr pos f)]
  exact (or_iff_right List.not_mem_nil).symm

/-- What replaces a `??` carries the comment, and nothing below it does. -/
theorem rewritten_nullish (nullish : n.form.isNullish) (unmarked : ¬n.HoldsMark) :
    (n.rewritten false).comments = [reviewComment]
      ∧ ¬∃ m ∈ (n.rewritten false).descendants, reviewComment ∈ m.comments := by
  have own : reviewComment ∉ n.comments := fun mark => unmarked ⟨n, n.self_mem_preorder, mark⟩
  have none : (n.coalesced false).chain? = none := chain?_of_endsOptional
    ((endsOptional_coalesced false).trans (not_endsOptional_of_nullish nullish))
  have bare : (n.coalesced false).ChainsUnmarked := chainsUnmarked_coalesced unmarked
  obtain ⟨new, found⟩ : ∃ new, n.coalescence? = some new := by
    rw [← Option.ne_none_iff_exists', ne_eq, coalescence?_eq_none_iff, nullish]
    simp
  have first : n.coalesced false = new.addComment reviewComment := by
    rw [coalesced_rewriting.value_of_special found, marked, isInside_of_unmarked own]
    rfl
  have clean : ¬new.HoldsMark := by
    obtain ⟨i, l, r, rfl, rfl⟩ := coalescence_cases found
    have each : ∀ c ∈ [l, r], ¬(c.coalesced true).HoldsMark := by
      intro c side
      have child : c ∈ Node.children ⟨i, .expr (.binary .nullish l r)⟩ := by
        simpa [Node.children, Form.children, Form.parts, ExprForm.parts] using side
      rw [holdsMark_coalesced fun holds => unmarked (holdsMark_iff.mpr (.inr ⟨c, child, holds⟩))]
      simp
    rw [holdsMark_coalesce]
    simpa using each
  have inside : isInside (n.coalesced false) false = true := by
    rw [first]
    simp [isInside, Node.addComment, Node.comments]
  rw [Node.rewritten, unchained_of_none none, inside]
  refine ⟨?_, ?_⟩
  · rw [first]
    obtain ⟨i, l, r, rfl, rfl⟩ := coalescence_cases found
    rfl
  · rw [holdsMark_descendants, Node.children, Node.form_withForm, Form.children_map]
    simp only [List.mem_map, exists_exists_and_eq_and]
    rintro ⟨c, child, holds⟩
    have lower := Node.descendants_subset_preorder (Node.child_mem_descendants child)
    rw [holdsMark_unchained (bare.of_mem lower)] at holds
    rw [first] at child
    exact clean (holdsMark_iff.mpr (.inr ⟨c, child, holds⟩))

/-- What replaces an optional chain carries the comment, and so does something below it if there is
a `??` in the chain. -/
theorem rewritten_chain (ends : n.endsOptional) (unmarked : ¬n.HoldsMark) :
    (n.rewritten false).comments = [reviewComment]
      ∧ ((∃ m ∈ (n.rewritten false).descendants, reviewComment ∈ m.comments)
        ↔ ∃ m ∈ n.preorder, m.form.isNullish) := by
  have own : reviewComment ∉ n.comments := fun mark => unmarked ⟨n, n.self_mem_preorder, mark⟩
  have notNullish : n.form.isNullish = false := by
    rw [Bool.eq_false_iff]
    intro nullish
    rw [not_endsOptional_of_nullish nullish] at ends
    cases ends
  have bare : (n.coalesced false).ChainsUnmarked := chainsUnmarked_coalesced unmarked
  obtain ⟨⟨o, c⟩, found⟩ := Option.isSome_iff_exists.mp
    ((isSome_chain? (n.coalesced false)).trans ((endsOptional_coalesced false).trans ends))
  have outside : isInside (n.coalesced false) false = false := by
    rw [coalesced_rewriting.value_of_none (coalescence?_eq_none_iff.mpr notNullish)]
    exact isInside_of_unmarked own false
  have whole : n.rewritten false
      = (shortCircuit (n.coalesced false).pos o c).addComment reviewComment := by
    rw [Node.rewritten, unchained_rewriting.value_of_special (shortCircuit?_of_chain found), marked,
      outside]
    rfl
  have below : ∀ d ∈ (n.coalesced false).descendants, (d.unchained true).HoldsMark ↔ d.HoldsMark :=
    fun d lower => holdsMark_unchained (bare.of_mem (Node.descendants_subset_preorder lower))
  rw [whole]
  refine ⟨rfl, ?_⟩
  rw [shortCircuit, holdsMark_below_built]
  change (shortCircuit _ o c).HoldsMark ↔ _
  rw [holdsMark_replacement found bare below, holdsMark_coalesced unmarked]
  simp

/-- Below a node that carries the comment already, no more of them are put. -/
theorem not_holdsMark_rewritten (unmarked : ¬n.HoldsMark) : ¬(n.rewritten true).HoldsMark := by
  rw [Node.rewritten, holdsMark_unchained (chainsUnmarked_coalesced unmarked),
    holdsMark_coalesced unmarked]
  simp

end Both

/-- Where the comment is that asks for a review.  The two passes replace the outermost expressions
with one of the operators, and nothing else.  Each replacement carries the comment once, unless a
node above it carries it already.  Below a replacement there is a comment exactly if it replaces an
optional chain that has a `??` in it. -/
theorem review_comment_of_passes {src : Source} {tree : Node} (parsed : src.parse = .ok tree) :
    Passes.optionalChaining (Passes.nullishCoalescing tree) = tree.reviewed false
      ∧ ∀ e ∈ tree.preorder, e.isRewritten → ¬e.HoldsMark →
        ¬(e.rewritten true).HoldsMark
        ∧ (e.rewritten false).comments = [reviewComment]
        ∧ ((∃ m ∈ (e.rewritten false).descendants, reviewComment ∈ m.comments)
          ↔ e.endsOptional ∧ ∃ m ∈ e.preorder, m.form.isNullish) := by
  have stage := Source.parse_stage parsed
  have first : Passes.nullishCoalescing tree = tree.coalesced false := by
    have pass := stage.nullishCoalescing
    rwa [Node.after_nil, Node.after_nil] at pass
  have second : Passes.optionalChaining (tree.coalesced false) = tree.rewritten false := by
    have pass := (stage.rewrite .nullishCoalescing).optionalChaining
    rwa [Node.after_nil, Node.after_nil] at pass
  refine ⟨by rw [first, second, rewritten_eq_reviewed], fun e _ special unmarked => ?_⟩
  refine ⟨not_holdsMark_rewritten unmarked, ?_⟩
  cases ends : e.endsOptional with
  | true =>
    obtain ⟨comments, below⟩ := rewritten_chain ends unmarked
    exact ⟨comments, below.trans (by simp)⟩
  | false =>
    rw [Node.isRewritten, ends, Bool.or_false] at special
    obtain ⟨comments, below⟩ := rewritten_nullish special unmarked
    exact ⟨comments, iff_of_false below (by simp)⟩

/-- An optional chain in the operand of a `??`. -/
theorem review_comment_of_passes_mixed : ∃ tree e,
    Source.parse { text := "x = a?.b ?? c;" } = .ok tree ∧ e ∈ tree.preorder ∧ e.form.isNullish
      ∧ (∃ m ∈ e.descendants, m.endsOptional) ∧ ¬e.HoldsMark
      ∧ (e.rewritten false).comments = [reviewComment]
      ∧ ¬∃ m ∈ (e.rewritten false).descendants, reviewComment ∈ m.comments := by
  have found : ((Source.parse { text := "x = a?.b ?? c;" }).toOption.bind fun tree =>
      tree.preorder.find? fun e => e.form.isNullish && e.descendants.any (·.endsOptional)
        && e.preorder.all fun m => m.comments.isEmpty).isSome := by
    rw [Source.parse_eq_parseByGrids]
    decide +kernel
  obtain ⟨e, found⟩ := Option.isSome_iff_exists.mp found
  obtain ⟨tree, parsed, found⟩ := Option.bind_eq_some_iff.mp found
  have special := List.find?_some found
  rw [Bool.and_eq_true, Bool.and_eq_true, List.any_eq_true, List.all_eq_true] at special
  obtain ⟨⟨nullish, inner⟩, bare⟩ := special
  have unmarked : ¬e.HoldsMark := not_holdsMark_of_bare bare
  have rewritten : e.isRewritten := by rw [Node.isRewritten, nullish]; rfl
  have member := List.mem_of_find?_eq_some found
  obtain ⟨-, comments, below⟩ := (review_comment_of_passes (ok_of_toOption parsed)).2 e member rewritten unmarked
  refine ⟨tree, e, ok_of_toOption parsed, member, nullish, inner, unmarked, comments, fun held => ?_⟩
  have ends := (below.mp held).1
  rw [not_endsOptional_of_nullish nullish] at ends
  cases ends

/-- A `??` in an optional chain: a replacement carries the comment, and so does a node below it. -/
theorem review_comment_nested : ∃ tree,
    Source.parse { text := "(a ?? b)?.c;" } = .ok tree ∧ ¬tree.HoldsMark
      ∧ ∃ new ∈ (Passes.optionalChaining (Passes.nullishCoalescing tree)).preorder,
        reviewComment ∈ new.comments ∧ ∃ m ∈ new.descendants, reviewComment ∈ m.comments := by
  have found : (Source.parse { text := "(a ?? b)?.c;" }).toOption.any fun tree =>
      (tree.preorder.all fun m => m.comments.isEmpty)
        && (Passes.optionalChaining (Passes.nullishCoalescing tree)).preorder.any fun new =>
          new.comments.contains reviewComment
            && new.descendants.any (·.comments.contains reviewComment) := by
    rw [Source.parse_eq_parseByGrids]
    decide +kernel
  obtain ⟨tree, parsed, both⟩ := (Option.any_eq_true _ _).mp found
  simp only [Bool.and_eq_true, List.any_eq_true, List.all_eq_true, List.contains_iff_mem] at both
  exact ⟨tree, ok_of_toOption parsed, not_holdsMark_of_bare both.1, both.2⟩

end Retype
