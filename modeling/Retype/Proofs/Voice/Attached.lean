import Mathlib.Data.List.Nodup
import Retype.Proofs.Pass.Order
import Retype.Proofs.Voice.Spot

/-!
# Trees with all their comments

A parsed tree is the tree that the grammar builds, with the comments of the text hung on its nodes.  Every
comment goes to one spot, and the lists of a node hold the comments that go to it, in the order of the
text.  Nothing else changes (`Source.parse_attached`).

A comment behind code trails a node only if a node that takes comments starts on its line.  The code may
be the end of a node that starts on an earlier line.  If nothing else starts on the line, the comment
leads the node behind it or stays with the program (`Source.parse_behind_code`).
-/

namespace Retype

/-! ## Shapes -/

theorem Node.pos_shape (n : Node) : n.shape.pos = n.pos := by
  rw [shape_eq]
  rfl

theorem Node.preorder_shape (n : Node) : n.shape.preorder = n.preorder.map shape := by
  induction n using Node.childInduction with
  | step n ih =>
    have below : n.shape.children = n.children.map shape := by
      rw [children, form_shape, Form.children_map]
      rfl
    rw [preorder_eq, below, n.preorder_eq, List.map_cons, List.map_flatMap, List.flatMap_map]
    congr 1
    exact List.flatMap_congr ih

theorem Node.shape_of_fresh {n : Node} (formed : n.Formed Fresh) : n.shape = n := by
  induction n using Node.childInduction with
  | step n ih =>
    rw [shape_eq, Form.map_eq_self fun c child => ih c child (formed.of_child child)]
    obtain ⟨info, form⟩ := n
    exact congrArg (Node.mk · form) formed.extra.2.symm

namespace Comments

theorem isStatement_shape (n : Node) : isStatement n.shape = isStatement n := by
  rw [isStatement, isStatement, Node.form_shape]
  cases n.form with
  | flow f => cases f <;> rfl
  | ts f => cases f <;> rfl
  | expr f => cases f <;> rfl
  | stmt f => cases f <;> rfl
  | foreign kind ps => rfl

theorem isTarget_shape (n : Node) : isTarget n.shape = isTarget n := by
  have statement := isStatement_shape n
  rw [isTarget, isTarget, Node.form_shape]
  cases n.form with
  | flow f => cases f <;> first | rfl | exact statement
  | ts f => cases f <;> exact statement
  | expr f => cases f <;> first | rfl | exact statement
  | stmt f => cases f <;> exact statement
  | foreign kind ps => exact statement

/-- A tree has the targets of its shape. -/
theorem targets_shape (n : Node) : targets n.shape = targets n := by
  have shaped (ns : List Node) : ∀ i, targetsFrom i (ns.map Node.shape) = targetsFrom i ns := by
    induction ns with
    | nil => exact fun i => rfl
    | cons n ns ih =>
      intro i
      rw [List.map_cons, targetsFrom, targetsFrom, isTarget_shape, isStatement_shape, Node.pos_shape, ih]
  rw [targets, Node.preorder_shape, shaped, targets]

/-! ## The lists of a node -/

/-- The comments that go to a spot, in the order of the text. -/
def texts (comments : List Comment) (spotOf : Comment → Spot) (s : Spot) : List String :=
  (comments.filter (spotOf · = s)).map (·.text)

section Lists

variable {src : Source} {ps : List Placed} {ts : List Target} {place : Nat}

theorem map_placedAt (comments : List Comment) (spotOf : Comment → Spot) (s : Spot) :
    (placedAt (comments.map fun c => ⟨c, spotOf c⟩) s).map (·.text) = texts comments spotOf s := by
  rw [placedAt, List.filterMap_map, texts, ← List.filterMap_eq_filter]
  congr 2
  funext c
  simp [Option.guard]

theorem lists_decorate (n : Node) :
    (decorate src ps ts place n).comments = n.comments ++ (placedAt ps (.leading place)).map (·.text)
      ∧ (decorate src ps ts place n).trailing
        = n.trailing ++ (placedAt ps (.trailing place)).map (·.text) := by
  unfold decorate
  dsimp only
  split
  · split <;> exact ⟨rfl, rfl⟩
  · exact ⟨rfl, rfl⟩

/-- What hangs on a node of the tree with its comments. -/
theorem lists_attach {comments : List Comment} {tree : Node} (plays : tree.Plays Node.Fresh .program)
    {i : Nat} {n : Node} (found : (attach src comments tree).preorder[i]? = some n) :
    n.comments = texts comments (spot src.text.toList (targets tree)) (.leading i)
        ++ (if i = 0 then texts comments (spot src.text.toList (targets tree)) .program else [])
      ∧ n.trailing = texts comments (spot src.text.toList (targets tree)) (.trailing i) := by
  simp only [← map_placedAt]
  rw [attach] at found
  dsimp only at found
  generalize comments.map (fun c => Placed.mk c (spot src.text.toList (targets tree) c)) = ps at found ⊢
  have walk : looks (decorateAll src ps (targets tree) tree) = sights src ps (targets tree) 0 tree :=
    (walks_visit plays.2 0).holds
  generalize decorateAll src ps (targets tree) tree = hung at walk found
  -- The lists of a node of the walked tree, before the program gets its comments.
  have seen {m : Node} (here : hung.preorder[i]? = some m) :
      m.comments = (placedAt ps (.leading i)).map (·.text)
        ∧ m.trailing = (placedAt ps (.trailing i)).map (·.text) := by
    have look := congrArg (·[i]?) walk
    simp only [looks, sights, List.getElem?_map, here, List.getElem?_mapIdx, Nat.zero_add] at look
    obtain ⟨k, atPlace, same⟩ := Option.map_eq_some_iff.mp look.symm
    have fresh := (plays.2 k (List.mem_of_getElem? atPlace)).2.2
    have info : (decorate src ps (targets tree) i k).info = m.info := (Prod.mk.inj same).1
    have both : (decorate src ps (targets tree) i k).comments = _ ∧
      (decorate src ps (targets tree) i k).trailing = _ := lists_decorate k
    rw [Node.comments, Node.trailing, info, Node.comments, Node.trailing, fresh] at both
    exact both
  cases i with
  | zero =>
    rw [Node.preorder_eq, List.getElem?_cons_zero] at found
    cases found
    obtain ⟨comments, trailing⟩ := seen (by rw [Node.preorder_eq, List.getElem?_cons_zero])
    refine ⟨?_, trailing⟩
    rw [if_pos rfl, ← comments]
    rfl
  | succ i =>
    rw [if_neg (Nat.succ_ne_zero i), List.append_nil]
    apply seen
    rw [Node.preorder_eq, List.getElem?_cons_succ] at found ⊢
    exact found

/-- Without its comments, a tree with comments is the tree that the grammar built. -/
theorem shape_attach {comments : List Comment} {tree : Node} (plays : tree.Plays Node.Fresh .program) :
    (attach src comments tree).shape = tree := by
  obtain ⟨⟨shape, -⟩, -⟩ := threads_visit plays.2 0 (ready_targets src.text.toList comments tree)
  rw [Node.shape_of_fresh plays.2] at shape
  rw [Node.shape_eq] at shape ⊢
  exact shape

end Lists

/-! ## Nothing is lost or doubled -/

section Parcels

variable {α κ : Type} [DecidableEq κ]

/-- What is sorted by a key into one parcel for each key is still there, once. -/
theorem perm_flatMap_filter (key : α → κ) {ks : List κ} (distinct : ks.Nodup) {xs : List α}
    (known : ∀ x ∈ xs, key x ∈ ks) : (ks.flatMap fun k => xs.filter (key · = k)).Perm xs := by
  induction distinct generalizing xs with
  | nil =>
    cases xs with
    | nil => exact .nil
    | cons x xs => exact absurd (known x List.mem_cons_self) List.not_mem_nil
  | @cons k ks other distinct ih =>
    have rest : ks.flatMap (fun l => xs.filter (key · = l))
        = ks.flatMap fun l => (xs.filter fun x => !decide (key x = k)).filter (key · = l) := by
      refine List.flatMap_congr fun l member => ?_
      rw [List.filter_filter]
      refine List.filter_congr fun x _ => ?_
      have differ := other l member
      by_cases same : key x = l
      · simp [same, differ.symm]
      · simp [same]
    rw [List.flatMap_cons, rest]
    refine ((ih ?_).append_left _).trans (List.filter_append_perm _ xs)
    intro x member
    obtain ⟨among, differ⟩ := List.mem_filter.mp member
    exact (List.mem_cons.mp (known x among)).resolve_left (by simpa using differ)

end Parcels

/-- The spots of the node at a place, the program's among them if it is the root. -/
def spots (i : Nat) : List Spot := .leading i :: (if i = 0 then [.program] else []) ++ [.trailing i]

/-- The place of the node that a spot belongs to. -/
def Spot.place : Spot → Nat
  | .leading i => i
  | .trailing i => i
  | .program => 0

theorem place_of_mem_spots {s : Spot} {i : Nat} (member : s ∈ spots i) : s.place = i := by
  rw [spots] at member
  split at member
  next zero =>
    simp only [List.cons_append, List.nil_append, List.mem_cons, List.not_mem_nil, or_false] at member
    rcases member with rfl | rfl | rfl
    · rfl
    · exact zero.symm
    · rfl
  next =>
    simp only [List.cons_append, List.nil_append, List.mem_cons, List.not_mem_nil, or_false] at member
    rcases member with rfl | rfl <;> rfl

theorem nodup_spots (count : Nat) : ((List.range count).flatMap spots).Nodup := by
  refine List.nodup_flatMap.mpr ⟨fun i _ => ?_, ?_⟩
  · rw [spots]
    split <;> simp
  · refine List.nodup_range.imp fun differ => ?_
    intro s here there
    exact differ ((place_of_mem_spots here).symm.trans (place_of_mem_spots there))

/-- A tree with comments hung on it. -/
structure Attached (text : List Char) (comments : List Comment) (tree : Node) : Prop where
  /-- Every comment goes to one spot, the one that the rule names, and the lists of a node hold the
  comments that go to it. -/
  placed : ∃ spotOf : Comment → Spot, (∀ c ∈ comments, ∀ s, Goes text tree c s ↔ spotOf c = s)
    ∧ ∀ i n, tree.preorder[i]? = some n →
      n.comments = texts comments spotOf (.leading i)
          ++ (if i = 0 then texts comments spotOf .program else [])
        ∧ n.trailing = texts comments spotOf (.trailing i)
  /-- No comment is lost or doubled. -/
  complete : (tree.preorder.flatMap fun n => n.comments ++ n.trailing).Perm (comments.map (·.text))

theorem mem_spots (text : List Char) (tree : Node) (c : Comment) :
    spot text (targets tree) c ∈ (List.range tree.preorder.length).flatMap spots := by
  have inside {i : Nat} {n : Node} (found : tree.preorder[i]? = some n) {s : Spot} (here : s ∈ spots i) :
      s ∈ (List.range tree.preorder.length).flatMap spots :=
    List.mem_flatMap.mpr ⟨i, List.mem_range.mpr (List.getElem?_eq_some_iff.mp found).1, here⟩
  rcases spot_of_targets text (targets tree) c with program | ⟨t, target, there⟩
  · have root : tree.preorder[0]? = some tree := by rw [Node.preorder_eq, List.getElem?_cons_zero]
    rw [program]
    exact inside root (by simp [spots])
  · obtain ⟨m, found, -⟩ := mem_targets target
    refine inside found ?_
    rcases there with leading | trailing
    · simp [spots, leading]
    · simp [spots, trailing]

/-- The lists of all nodes, taken together, are the parcels of all spots. -/
theorem flatMap_lists {comments : List Comment} {spotOf : Comment → Spot} {tree : Node}
    (lists : ∀ i n, tree.preorder[i]? = some n → n.comments = texts comments spotOf (.leading i)
          ++ (if i = 0 then texts comments spotOf .program else [])
        ∧ n.trailing = texts comments spotOf (.trailing i)) :
    (tree.preorder.flatMap fun n => n.comments ++ n.trailing)
      = ((List.range tree.preorder.length).flatMap spots).flatMap (texts comments spotOf) := by
  have each : tree.preorder.map (fun n => n.comments ++ n.trailing)
      = (List.range tree.preorder.length).map fun i => (spots i).flatMap (texts comments spotOf) := by
    refine List.ext_getElem (by simp) fun i inside _ => ?_
    rw [List.length_map] at inside
    obtain ⟨leading, trailing⟩ := lists i _ (List.getElem?_eq_getElem inside)
    rw [List.getElem_map, List.getElem_map, List.getElem_range, leading, trailing, spots]
    split <;> simp
  rw [List.flatMap_def, each, ← List.flatMap_def, List.flatMap_assoc]

/-- Hanging comments on a program leaves it as it is, but for the comments. -/
theorem attached_attach {src : Source} {comments : List Comment}
    (inside : ∀ c ∈ comments, c.pos ≤ src.text.toList.length) {tree : Node}
    (plays : tree.Plays Node.Fresh .program) :
    Attached src.text.toList comments (attach src comments tree) := by
  have same : targets (attach src comments tree) = targets tree := by
    rw [← targets_shape, shape_attach plays]
  have lists : ∀ i n, (attach src comments tree).preorder[i]? = some n → _ :=
    fun i n => lists_attach plays
  refine ⟨⟨_, fun c member s => ?_, lists⟩, ?_⟩
  · rw [goes_iff (inside c member), same]
  · rw [flatMap_lists lists]
    have parcels : ((List.range (attach src comments tree).preorder.length).flatMap spots).flatMap
        (texts comments (spot src.text.toList (targets tree)))
        = (((List.range (attach src comments tree).preorder.length).flatMap spots).flatMap fun s =>
          comments.filter (spot src.text.toList (targets tree) · = s)).map (·.text) := by
      rw [List.map_flatMap]
      rfl
    rw [parcels, ← same]
    exact (perm_flatMap_filter _ (nodup_spots _) fun c _ => mem_spots _ _ c).map _

end Comments

/-- A parsed tree is the tree that the grammar builds, with every comment hung on it where the rule says,
and nothing else changed. -/
theorem Source.parse_attached {src : Source} {tree : Node} (parsed : src.parse = .ok tree) :
    ∃ found, Stream.read src.text.toList = .ok found ∧ Parser.parse found.tokens = .ok tree.shape
      ∧ found.comments.Pairwise (fun c d => c.pos ≤ d.pos)
      ∧ Comments.Attached src.text.toList found.comments tree := by
  obtain ⟨found, bare, reading, building, rfl⟩ := src.parse_cases parsed
  have plays := Grammar.parse_plays building
  refine ⟨found, reading, ?_, ordered_read _ found reading, ?_⟩
  · rw [Comments.shape_attach plays, building]
  · exact Comments.attached_attach (inside_read _ found reading) plays

/-- Comments in front of a statement, behind members and their brackets, and behind all code. -/
theorem Source.parse_attached_members : ∃ tree found,
    Source.parse { text := "// a\nf(\x7b // b\n  c, // d\n  e: 1 /* g */ \x7d); // h\n/* i */" } = .ok tree
      ∧ (tree.preorder.map fun n => (n.comments, n.trailing)) = [(["/* i */"], []), (["// a"], []),
        ([], []), ([], []), ([], []), (["// b"], ["// d"]), ([], []), ([], ["/* g */", "// h"]), ([], [])]
      ∧ Stream.read "// a\nf(\x7b // b\n  c, // d\n  e: 1 /* g */ \x7d); // h\n/* i */".toList = .ok found
      ∧ Comments.Attached "// a\nf(\x7b // b\n  c, // d\n  e: 1 /* g */ \x7d); // h\n/* i */".toList
        found.comments tree := by
  have accepted : (Source.parse
      { text := "// a\nf(\x7b // b\n  c, // d\n  e: 1 /* g */ \x7d); // h\n/* i */" }).toOption.any fun tree =>
        (tree.preorder.map fun n => (n.comments, n.trailing)) = [(["/* i */"], []), (["// a"], []),
          ([], []), ([], []), ([], []), (["// b"], ["// d"]), ([], []), ([], ["/* g */", "// h"]),
          ([], [])] := by
    rw [Source.parse_eq_parseByGrids]
    decide +kernel
  cases parsed : Source.parse
      { text := "// a\nf(\x7b // b\n  c, // d\n  e: 1 /* g */ \x7d); // h\n/* i */" } with
  | error e =>
    rw [parsed] at accepted
    cases accepted
  | ok tree =>
    rw [parsed] at accepted
    obtain ⟨found, reading, -, -, attached⟩ := Source.parse_attached parsed
    exact ⟨tree, found, rfl, of_decide_eq_true accepted, reading, attached⟩

/-! ## Comments behind code -/

namespace Comments

variable {text : List Char} {comments : List Comment} {tree : Node}

/-- Where some node takes comments, one is the first. -/
theorem exists_first {pos : Int} {j : Nat} {n : Node} (takes : Takes tree j n) (le : pos ≤ n.pos) :
    ∃ place m, First tree pos place m ∧ m.pos ≤ n.pos := by
  cases found : firstFrom (targets tree) pos with
  | none =>
    have := firstFrom_eq_none_iff.mp found j n takes
    omega
  | some t =>
    obtain ⟨m, other, -⟩ := takes_of_mem_targets (List.mem_of_find?_eq_some found)
    have first := first_iff.mpr ⟨other.found, t, found, rfl⟩
    refine ⟨t.place, m, first, ?_⟩
    rcases first.least j n takes le with lt | ⟨eq, -⟩ <;> omega

theorem mem_texts {spotOf : Comment → Spot} {c : Comment} (member : c ∈ comments) :
    c.text ∈ texts comments spotOf (spotOf c) :=
  List.mem_map_of_mem (List.mem_filter.mpr ⟨member, decide_eq_true rfl⟩)

/-- Where a comment behind code hangs. -/
inductive BehindCode (text : List Char) (tree : Node) (start : Nat) (c : Comment) : Prop where
  /-- A node starts on the line of the comment, in front of it, and the comment trails the first. -/
  | trails {place : Nat} {n : Node} (first : First tree start place n) (ahead : n.pos < c.pos)
      (goes : Goes text tree c (.trailing place)) (held : c.text ∈ n.trailing)
  /-- No node starts there, and the comment leads the first node behind it. -/
  | leads {place : Nat} {n : Node} (alone : ∀ j m, Takes tree j m → start ≤ m.pos → c.pos ≤ m.pos)
      (first : First tree (c.pos + c.text.length : Nat) place n)
      (goes : Goes text tree c (.leading place)) (held : c.text ∈ n.comments)
  /-- No node starts there, none starts behind the comment, and it stays with the program. -/
  | remains (alone : ∀ j m, Takes tree j m → start ≤ m.pos → c.pos ≤ m.pos)
      (last : ∀ j m, Takes tree j m → m.pos < (c.pos + c.text.length : Nat))
      (goes : Goes text tree c .program) (held : c.text ∈ tree.comments)

theorem Attached.behindCode (attached : Attached text comments tree) {c : Comment}
    (member : c ∈ comments) (inside : c.pos ≤ text.length) {start : Nat}
    (starts : StartsLine text start c.pos) (owns : Owns (Template.slice text start c.pos)) :
    BehindCode text tree start c := by
  obtain ⟨spotOf, rule, lists⟩ := attached.placed
  have goes := (rule c member (spotOf c)).mpr rfl
  have held : c.text ∈ texts comments spotOf (spotOf c) := mem_texts member
  have alone (apart : ∀ j, ¬Trails text tree c j) (j : Nat) (m : Node) (takes : Takes tree j m)
      (le : start ≤ m.pos) : c.pos ≤ m.pos := by
    by_contra ahead
    obtain ⟨place, n, first, early⟩ := exists_first takes le
    exact apart place ⟨start, n, starts, owns, first, by omega⟩
  generalize spotOf c = s at goes held
  cases goes with
  | @trailing place trails =>
    obtain ⟨start', n, starts', -, first, ahead⟩ := id trails
    obtain rfl : start' = start :=
      ((startsLine_iff inside).mp starts').trans ((startsLine_iff inside).mp starts).symm
    refine .trails first ahead (.trailing trails) ?_
    rw [(lists place n first.takes.found).2]
    exact held
  | @leading place n apart first =>
    refine .leads (alone apart) first (.leading apart first) ?_
    rw [(lists place n first.takes.found).1]
    exact List.mem_append_left _ held
  | program apart last =>
    refine .remains (alone apart) last (.program apart last) ?_
    rw [(lists 0 tree (by rw [Node.preorder_eq, List.getElem?_cons_zero])).1, if_pos rfl]
    exact List.mem_append_right _ held

end Comments

/-- A comment with code before it on its line trails the first node that starts on the line.  If none
does, it leads what is behind it. -/
theorem Source.parse_behind_code {src : Source} {tree : Node} (parsed : src.parse = .ok tree) :
    ∃ found, Stream.read src.text.toList = .ok found ∧ ∀ c ∈ found.comments, ∀ start,
      Comments.StartsLine src.text.toList start c.pos →
      Comments.Owns (Template.slice src.text.toList start c.pos) →
      Comments.BehindCode src.text.toList tree start c := by
  obtain ⟨found, bare, reading, building, rfl⟩ := src.parse_cases parsed
  have inside := inside_read _ found reading
  have attached : Comments.Attached src.text.toList found.comments _ :=
    Comments.attached_attach inside (Grammar.parse_plays building)
  refine ⟨found, reading, ?_⟩
  intro c member start starts owns
  exact attached.behindCode member (inside c member) starts owns

/-- A comment behind the last line of a call, and one behind a statement on one line. -/
theorem Source.parse_behind_code_calls : ∃ tree,
    Source.parse { text := "f(\n  a\n) // c\ng(); // d" } = .ok tree
      ∧ Comments.BehindCode "f(\n  a\n) // c\ng(); // d".toList tree 7 ⟨9, "// c"⟩
      ∧ Comments.BehindCode "f(\n  a\n) // c\ng(); // d".toList tree 14 ⟨19, "// d"⟩ := by
  have accepted : (Source.parse { text := "f(\n  a\n) // c\ng(); // d" }).toOption.isSome := by
    rw [Source.parse_eq_parseByGrids]
    decide +kernel
  have comments : (Stream.read "f(\n  a\n) // c\ng(); // d".toList).toOption.map (·.comments)
      = some [⟨9, "// c"⟩, ⟨19, "// d"⟩] := by decide +kernel
  obtain ⟨tree, parsed⟩ := Option.isSome_iff_exists.mp accepted
  obtain ⟨found, reading, behind⟩ := Source.parse_behind_code (ok_of_toOption parsed)
  rw [reading] at comments
  obtain same : found.comments = [⟨9, "// c"⟩, ⟨19, "// d"⟩] := Option.some.inj comments
  rw [same] at behind
  refine ⟨tree, ok_of_toOption parsed, behind _ (by simp) 7 ⟨by decide, .inr (by rfl), by decide⟩ ?_,
    behind _ (by simp) 14 ⟨by decide, .inr (by rfl), by decide⟩ ?_⟩
  · exact (Comments.ownsComment_iff _).mp (by rfl)
  · exact (Comments.ownsComment_iff _).mp (by rfl)

/-- A comment with code before it on its line leads the next statement, and trails no node. -/
theorem Source.parse_moves_comment_behind_code :
    (∃ tree, Source.parse { text := "f(\n  a\n) // c\ng();" } = .ok tree
      ∧ (tree.preorder.map fun n => (n.pos, n.comments, n.trailing)) = [(0, [], []), (0, [], []),
        (0, [], []), (0, [], []), (5, [], []), (14, ["// c"], []), (14, [], []), (14, [], [])])
      ∧ Comments.StartsLine "f(\n  a\n) // c\ng();".toList 7 9
      ∧ Comments.Owns (Template.slice "f(\n  a\n) // c\ng();".toList 7 9) := by
  have accepted : (Source.parse { text := "f(\n  a\n) // c\ng();" }).toOption.any fun tree =>
      (tree.preorder.map fun n => (n.pos, n.comments, n.trailing)) = [(0, [], []), (0, [], []),
        (0, [], []), (0, [], []), (5, [], []), (14, ["// c"], []), (14, [], []), (14, [], [])] := by
    rw [Source.parse_eq_parseByGrids]
    decide +kernel
  obtain ⟨tree, parsed, lists⟩ := (Option.any_eq_true ..).mp accepted
  refine ⟨⟨tree, ok_of_toOption parsed, of_decide_eq_true lists⟩, ⟨by decide, .inr (by rfl), by decide⟩, ?_⟩
  exact (Comments.ownsComment_iff _).mp (by rfl)

end Retype
