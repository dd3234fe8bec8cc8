import Mathlib.Data.List.Pairwise
import Mathlib.Data.Prod.Lex
import Retype.Proofs.Tree.Descent

/-!
# The order of a walk

A walk goes over a tree with a stack and without recursion.  `Visits` says what the loop does from a
stack, one rule for the empty stack and one for a step, so a derivation of it is a loop that ends.

A child is found in its layer by a *branch*: the number of the part that holds it and, in a part
that is a list, the number of the item.  An *occurrence* of a node in a tree is a path of branches
from the root to the node.  A node that stands at two places has two occurrences.  Paths are ordered
like words, and branches by the part and then by the item.  So a path comes before all paths that
continue it, and the paths through one child come before those through the next.

`walk_occurrences` says that a walk ends, and that it lists the node at each occurrence, once and in
the order of the paths.
-/

namespace Retype

variable {α β : Type}

/-! ## Branches of a layer -/

/-- The place of a child in a layer: the number of its part, and that of its item. -/
abbrev Branch := Nat ×ₗ Nat

/-- The child of a part at a number.  A part that is no list holds one child. -/
def Part.at? : Part α → Nat → Option α
  | .node a, 0 => some a
  | .list items, j => items[j]?.bind Item.child
  | _, _ => none

/-- The child of a layer at a branch. -/
def Form.at? (f : Form α) (b : Branch) : Option α := f.parts[(ofLex b).1]?.bind (·.at? (ofLex b).2)

/-- The children of a part with their numbers. -/
def Part.entries : Part α → List (Nat × α)
  | .node a => [(0, a)]
  | .list items => items.zipIdx.filterMap fun i => i.1.child.map (i.2, ·)
  | _ => []

/-- The children of a layer with their branches. -/
def Form.entries (f : Form α) : List (Branch × α) :=
  f.parts.zipIdx.flatMap fun p => p.1.entries.map fun e => (toLex (p.2, e.1), e.2)

theorem pairwise_zipIdx (as : List α) (k : Nat) : (as.zipIdx k).Pairwise (·.2 < ·.2) := by
  have numbers : ((as.zipIdx k).map Prod.snd).Pairwise (· < ·) := by
    rw [List.zipIdx_map_snd]
    exact List.pairwise_lt_range' 1
  exact List.pairwise_map.mp numbers

theorem Part.mem_entries_iff {p : Part α} {j : Nat} {a : α} :
    (j, a) ∈ p.entries ↔ p.at? j = some a := by
  cases p with
  | node b => cases j <;> simp [entries, at?, eq_comm]
  | list items => simp [entries, at?, List.mem_zipIdx_iff_getElem?, Option.bind_eq_some_iff]
  | _ => simp [entries, at?]

theorem Part.sorted_entries (p : Part α) : p.entries.Pairwise (·.1 < ·.1) := by
  cases p with
  | list items =>
    refine (pairwise_zipIdx items 0).filterMap _ fun i j before e found e' found' => ?_
    obtain ⟨a, -, rfl⟩ := Option.map_eq_some_iff.mp found
    obtain ⟨a', -, rfl⟩ := Option.map_eq_some_iff.mp found'
    exact before
  | node a => exact List.pairwise_singleton _ _
  | _ => exact .nil

theorem Part.values_entries (p : Part α) : p.entries.map Prod.snd = p.nodes := by
  cases p with
  | list items =>
    rw [entries, nodes, List.map_filterMap]
    conv_rhs => rw [← List.zipIdx_map_fst 0 items, List.filterMap_map]
    congr 1
    funext i
    rcases i with ⟨_ | _, j⟩ <;> rfl
  | _ => rfl

theorem Part.entries_map (k : α → β) (p : Part α) :
    (p.map k).entries = p.entries.map (Prod.map id k) := by
  cases p with
  | list items =>
    rw [map, entries, entries, List.zipIdx_map, List.filterMap_map, List.map_filterMap]
    congr 1
    funext i
    rcases i with ⟨_ | _, j⟩ <;> rfl
  | _ => rfl

/-- The entries of a layer are its children at their branches. -/
theorem Form.mem_entries_iff {f : Form α} {b : Branch} {a : α} :
    (b, a) ∈ f.entries ↔ f.at? b = some a := by
  simp only [entries, at?, List.mem_flatMap, List.mem_map, Option.bind_eq_some_iff, Prod.exists,
    List.mem_zipIdx_iff_getElem?, Prod.mk.injEq]
  constructor
  · rintro ⟨p, i, part, j, a, entry, rfl, rfl⟩
    exact ⟨p, part, Part.mem_entries_iff.mp entry⟩
  · rintro ⟨p, part, found⟩
    exact ⟨p, _, part, _, a, Part.mem_entries_iff.mpr found, rfl, rfl⟩

/-- The entries of a layer are in the order of their branches. -/
theorem Form.sorted_entries (f : Form α) : f.entries.Pairwise (·.1 < ·.1) := by
  refine List.pairwise_flatMap.mpr ⟨fun p _ => ?_, ?_⟩
  · refine List.pairwise_map.mpr (p.1.sorted_entries.imp fun before => ?_)
    exact Prod.Lex.toLex_lt_toLex.mpr (.inr ⟨rfl, before⟩)
  · refine (pairwise_zipIdx f.parts 0).imp fun before => ?_
    simp only [List.forall_mem_map]
    exact fun _ _ _ _ => Prod.Lex.toLex_lt_toLex.mpr (.inl before)

theorem Form.values_entries (f : Form α) : f.entries.map Prod.snd = f.children := by
  have values (p : Part α × Nat) :
      (p.1.entries.map fun e => (toLex (p.2, e.1), e.2)).map Prod.snd = p.1.nodes := by
    rw [List.map_map, ← Part.values_entries]
    rfl
  rw [entries, children, List.map_flatMap]
  simp only [values]
  conv_rhs => rw [← List.zipIdx_map_fst 0 f.parts, List.flatMap_map]

theorem Form.entries_map (k : α → β) (f : Form α) :
    (f.map k).entries = f.entries.map (Prod.map id k) := by
  simp only [entries, Form.parts_map, List.zipIdx_map, List.flatMap_map, List.map_flatMap,
    Prod.map_fst, Prod.map_snd, Part.entries_map, List.map_map, id_eq]
  rfl

namespace Node

/-! ## Occurrences -/

/-- A way from the root of a tree down to one of its nodes. -/
abbrev Path := List Branch

/-- The node at the end of a path. -/
def at? : Node → Path → Option Node
  | n, [] => some n
  | n, b :: path => (n.form.at? b).bind (·.at? path)

/-- The occurrences of nodes in a tree with their paths: that of the root, and those in the trees of
the children. -/
def occurrences (n : Node) : List (Path × Node) :=
  n.fold fun n results =>
    ([], n) :: results.entries.flatMap fun e => e.2.map fun o => (e.1 :: o.1, o.2)

theorem occurrences_eq (n : Node) : n.occurrences =
    ([], n) :: n.form.entries.flatMap fun e => e.2.occurrences.map fun o => (e.1 :: o.1, o.2) := by
  rw [occurrences, fold_eq, Form.entries_map, List.flatMap_map]
  rfl

theorem mem_children_of_entry {n : Node} {e : Branch × Node} (entry : e ∈ n.form.entries) :
    e.2 ∈ n.children := by
  rw [children, ← Form.values_entries]
  exact List.mem_map_of_mem entry

/-- The occurrences in a tree are the nodes at the ends of its paths. -/
theorem mem_occurrences_iff {n m : Node} {path : Path} :
    (path, m) ∈ n.occurrences ↔ n.at? path = some m := by
  induction n using childInduction generalizing path with
  | step n ih =>
    rw [occurrences_eq]
    cases path with
    | nil => simp [at?, eq_comm]
    | cons b path =>
      simp only [List.mem_cons, Prod.mk.injEq, reduceCtorEq, false_and, false_or, List.mem_flatMap,
        List.mem_map, List.cons.injEq, at?, Option.bind_eq_some_iff]
      constructor
      · rintro ⟨e, entry, o, below, ⟨rfl, rfl⟩, rfl⟩
        exact ⟨e.2, Form.mem_entries_iff.mp entry,
          (ih e.2 (mem_children_of_entry entry)).mp below⟩
      · rintro ⟨c, found, below⟩
        have entry := Form.mem_entries_iff.mpr found
        exact ⟨(b, c), entry, (path, m), (ih c (mem_children_of_entry entry)).mpr below,
          ⟨rfl, rfl⟩, rfl⟩

/-- The occurrences in a tree are in the order of their paths. -/
theorem sorted_occurrences (n : Node) : n.occurrences.Pairwise (·.1 < ·.1) := by
  induction n using childInduction with
  | step n ih =>
    rw [occurrences_eq]
    refine List.pairwise_cons.mpr ⟨fun o below => ?_, List.pairwise_flatMap.mpr ⟨fun e entry => ?_, ?_⟩⟩
    · obtain ⟨e, -, o, -, rfl⟩ := by simpa only [List.mem_flatMap, List.mem_map] using below
      exact List.nil_lt_cons _ _
    · refine List.pairwise_map.mpr ((ih e.2 (mem_children_of_entry entry)).imp fun before => ?_)
      exact List.cons_lt_cons_iff.mpr (.inr ⟨rfl, before⟩)
    · refine n.form.sorted_entries.imp fun before => ?_
      simp only [List.forall_mem_map]
      exact fun _ _ _ _ => List.cons_lt_cons_iff.mpr (.inl before)

theorem values_occurrences (n : Node) : n.occurrences.map Prod.snd = n.preorder := by
  induction n using childInduction with
  | step n ih =>
    rw [occurrences_eq, preorder_eq, children, ← Form.values_entries, List.map_cons, List.map_flatMap,
      List.flatMap_map]
    congr 1
    refine List.flatMap_congr fun e entry => ?_
    rw [List.map_map, ← ih e.2 (mem_children_of_entry entry)]
    rfl

/-! ## The loop -/

/-- From a stack, the loop of a walk ends and meets these nodes. -/
inductive Visits : List Node → List Node → Prop
  | done : Visits [] []
  | step {n : Node} {rest out : List Node} (next : Visits (n.children ++ rest) out) :
      Visits (n :: rest) (n :: out)

/-- The loop ends from every stack, and meets what the walk lists. -/
theorem visits_walkFrom (stack : List Node) : Visits stack (walkFrom stack) := by
  induction stack using walkFrom.induct with
  | case1 =>
    rw [walkFrom]
    exact .done
  | case2 n rest ih =>
    rw [walkFrom]
    exact .step ih

theorem Visits.eq_walkFrom {stack out : List Node} (visits : Visits stack out) :
    out = walkFrom stack := by
  induction visits with
  | done => rw [walkFrom]
  | step _ ih => rw [walkFrom, ih]

/-- What is left of a walk lists the trees on the stack, the top first. -/
theorem walkFrom_eq (stack : List Node) : walkFrom stack = stack.flatMap preorder := by
  induction stack using walkFrom.induct with
  | case1 => rw [walkFrom, List.flatMap_nil]
  | case2 n rest ih =>
    -- the children of the top stand where its tree stood
    rw [walkFrom, ih, List.flatMap_append, List.flatMap_cons, preorder_eq n, List.cons_append]

theorem walk_eq_preorder (n : Node) : n.walk = n.preorder := by
  rw [walk, walkFrom_eq, List.flatMap_singleton]

/-- A walk of a tree ends, and nothing but the tree decides what it lists: the root, and then the
walks of the children in their order.  It lists the node at each occurrence in the tree, once, in the
order of the paths, and so none behind an occurrence that lies below it. -/
theorem walk_occurrences (n : Node) :
    (∀ out, Visits [n] out ↔ out = n.walk)
      ∧ n.walk = n :: n.children.flatMap walk
      ∧ n.walk = n.occurrences.map Prod.snd
      ∧ (∀ path m, (path, m) ∈ n.occurrences ↔ n.at? path = some m)
      ∧ n.occurrences.Pairwise (fun o p => o.1 < p.1 ∧ ¬ p.1 <+: o.1) := by
  refine ⟨fun out => ⟨Visits.eq_walkFrom, ?_⟩, ?_, ?_, fun path m => mem_occurrences_iff, ?_⟩
  · rintro rfl
    exact visits_walkFrom [n]
  · rw [walk_eq_preorder, preorder_eq]
    simp only [funext walk_eq_preorder]
  · rw [walk_eq_preorder, values_occurrences]
  · exact n.sorted_occurrences.imp fun before => ⟨before, fun above => above.le before⟩

end Node

end Retype
