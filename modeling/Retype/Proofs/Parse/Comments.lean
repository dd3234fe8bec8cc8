import Retype.Program
import Retype.Proofs.Parse.Grammar

/-!
# Trees with comments

Hanging comments on a tree changes what is known of its nodes besides their offsets, and
nothing else.  Two trees that differ in nothing else have the same *shape*, and the shape
of a tree decides whether it is well-formed.

A comment goes to a node that takes comments.  The nodes are found by their places: the
tree is walked, and the places are counted on the way.  `Ready` says of trees in a row
that from a place on, no comment is placed on a node of them that takes none.
-/

namespace Retype

/-! ## Shapes -/

/-- The tree without comments and blank lines. -/
def Node.shape (n : Node) : Node := n.fold fun m results => .plain m.pos results

namespace Node

theorem shape_eq (n : Node) : n.shape = .plain n.pos (n.form.map shape) := n.fold_eq _

theorem form_shape (n : Node) : n.shape.form = n.form.map shape := by
  rw [shape_eq, plain]

theorem roles_shape (n : Node) : n.shape.form.roles = n.form.roles := by
  rw [form_shape, Form.roles_map]

/-- The type of a binding is the first value of its node. -/
theorem annotatedType?_eq (n : Node) :
    Convert.annotatedType? n = n.form.parts.head?.bind Part.child := by
  rcases n with ⟨i, f⟩
  cases f with
  | flow f => cases f <;> rfl
  | ts f => cases f <;> rfl
  | expr f => rfl
  | stmt f => rfl
  | foreign kind ps => rfl

theorem annotatedType?_shape (n : Node) :
    Convert.annotatedType? n.shape = (Convert.annotatedType? n).map shape := by
  rw [annotatedType?_eq, annotatedType?_eq, form_shape, Form.parts_map]
  cases n.form.parts with
  | nil => rfl
  | cons p ps => cases p <;> rfl

theorem isFunctionType_shape (n : Node) :
    Convert.isFunctionType n.shape = Convert.isFunctionType n := by
  rw [Convert.isFunctionType, Convert.isFunctionType, form_shape]
  rcases n with ⟨i, f⟩
  cases f with
  | flow f => cases f <;> rfl
  | ts f => cases f <;> rfl
  | expr f => rfl
  | stmt f => rfl
  | foreign kind ps => rfl

end Node

theorem Form.sound_shape (f : Form Node) : (f.map Node.shape).Sound ↔ f.Sound := by
  cases f with
  | flow f =>
    cases f with
    | declareFunction name a =>
      cases a with
      | none => simp [FlowForm.map, FlowForm.mapM, Form.Sound, FlowForm.Sound]
      | some a =>
        simp [FlowForm.map, FlowForm.mapM, Form.Sound, FlowForm.Sound, Node.annotatedType?_shape,
          Node.isFunctionType_shape]
    | _ => simp [FlowForm.map, FlowForm.mapM, Form.Sound, FlowForm.Sound]
  | ts f => cases f <;> simp [TsForm.map, TsForm.mapM, Form.Sound, TsForm.Sound]
  | expr f => cases f <;> simp [ExprForm.map, ExprForm.mapM, Form.Sound, ExprForm.Sound]
  | stmt f => cases f <;> simp [StmtForm.map, StmtForm.mapM, Form.Sound, StmtForm.Sound]
  | foreign kind ps => simp [Form.Sound]

/-- The shape of a tree decides whether it is well-formed. -/
theorem Node.formed_shape {E : Node → Prop} (same : ∀ n : Node, E n.shape ↔ E n) (n : Node) :
    n.shape.Formed E ↔ n.Formed E := by
  induction n using Node.childInduction with
  | step n ih =>
    rw [Node.formed_iff, Node.formed_iff, same, form_shape, Form.sound_shape, Form.slots_map,
      List.forall_mem_map]
    refine and_congr_right fun _ => and_congr_right fun _ => forall₂_congr fun s slot => ?_
    exact and_congr (by rw [Prod.map_fst, Prod.map_snd, roles_shape, id])
      (ih s.2 (mem_children_of_slot slot))

/-! ## Places -/

namespace Comments

/-- No comment is placed on the node at a place. -/
structure Free (ps : List Placed) (ts : List Target) (place : Nat) : Prop where
  leading : placedAt ps (.leading place) = []
  trailing : placedAt ps (.trailing place) = []
  untargeted : ts.find? (·.place = place) = none

/-- From a place on, no comment is placed on a node that takes none. -/
def Ready (ps : List Placed) (ts : List Target) (place : Nat) (ns : List Node) : Prop :=
  ∀ i m, (ns.flatMap Node.preorder)[i]? = some m → isTarget m = false → Free ps ts (place + i)

section Walk

variable {src : Source} {ps : List Placed} {ts : List Target} {place : Nat}

theorem decorate_of_free {n : Node} (free : Free ps ts place) :
    decorate src ps ts place n = n := by
  obtain ⟨⟨pos, comments, trailing, blank⟩, form⟩ := n
  simp [decorate, free.leading, free.trailing, free.untargeted, Node.comments, Node.trailing]

theorem form_decorate {n : Node} : (decorate src ps ts place n).form = n.form := by
  unfold decorate
  dsimp only
  split
  · split <;> rfl
  · rfl

theorem pos_decorate {n : Node} : (decorate src ps ts place n).pos = n.pos := by
  unfold decorate
  dsimp only
  split
  · split <;> rfl
  · rfl

theorem ready_append {as bs : List Node} :
    Ready ps ts place (as ++ bs)
      ↔ Ready ps ts place as ∧ Ready ps ts (place + Node.countAll as) bs := by
  rw [Ready, Ready, Ready, List.flatMap_append, Node.countAll]
  generalize as.flatMap Node.preorder = xs
  generalize bs.flatMap Node.preorder = ys
  constructor
  · intro ready
    refine ⟨fun i m found => ready i m ?_, fun i m found => ?_⟩
    · exact List.getElem?_append_left (List.getElem?_eq_some_iff.mp found).1 ▸ found
    · rw [Nat.add_assoc]
      refine ready (xs.length + i) m ?_
      rw [List.getElem?_append_right (Nat.le_add_right _ _), Nat.add_sub_cancel_left]
      exact found
  · rintro ⟨first, second⟩ i m found
    by_cases inFirst : i < xs.length
    · exact first i m (List.getElem?_append_left inFirst ▸ found)
    · rw [List.getElem?_append_right (Nat.le_of_not_lt inFirst)] at found
      have shifted := second (i - xs.length) m found
      rwa [Nat.add_assoc, Nat.add_sub_cancel' (Nat.le_of_not_lt inFirst)] at shifted

theorem ready_root {n : Node} (ready : Ready ps ts place [n]) (bare : isTarget n = false) :
    Free ps ts place := by
  refine ready 0 n ?_ bare
  rw [List.flatMap_singleton, Node.preorder_eq]
  rfl

theorem ready_children {n : Node} (ready : Ready ps ts place [n]) :
    Ready ps ts (place + 1) n.children := by
  intro i m found
  have shifted := ready (i + 1) m
  rw [List.flatMap_singleton, Node.preorder_eq, List.getElem?_cons_succ] at shifted
  rw [Nat.add_assoc, Nat.add_comm 1 i]
  exact shifted found

/-- The walk that decorates a tree. -/
def visit (src : Source) (ps : List Placed) (ts : List Target) (n : Node) : StateM Nat Node :=
  n.visitM fun _ => do
    let place ← get
    set (place + 1)
    return decorate src ps ts place

theorem visit_run (n : Node) :
    (visit src ps ts n).run place =
      (decorate src ps ts place
          (n.withForm ((n.form.mapM (visit src ps ts)).run (place + 1)).1),
        ((n.form.mapM (visit src ps ts)).run (place + 1)).2) := by
  rw [visit, Node.visitM, Node.fold_eq, Form.mapM_map]
  rfl

/-- A tree in which no comment hangs on a layer that may be made anew. -/
def Tidy (n : Node) : Prop := ∀ m ∈ n.preorder, m.form.isHolder → m.info = { pos := m.pos }

/-- A tree of the same shape as another, and tidy. -/
def Hung (before after : Node) : Prop := after.shape = before.shape ∧ Tidy after

/-- A walk over trees in a row.  It counts their nodes, and what it makes of them meets a
condition. -/
def Threads {β : Type} (ps : List Placed) (ts : List Target) (ns : List Node) (x : StateM Nat β)
    (P : β → Prop) : Prop :=
  ∀ place, Ready ps ts place ns →
    P (x.run place).1 ∧ (x.run place).2 = place + Node.countAll ns

section Threads

attribute [local simp] Form.children Form.parts FlowForm.parts ExprForm.parts StmtForm.parts
  Part.ofVariance? Part.ofImportKind? FlowForm.map FlowForm.mapM ExprForm.map ExprForm.mapM
  StmtForm.map StmtForm.mapM or_imp forall_and

variable {β γ : Type} {as bs : List Node} {P : β → Prop} {Q : γ → Prop}

theorem threads_pure {b : β} (holds : P b) : Threads ps ts [] (pure b) P :=
  fun _ _ => ⟨holds, rfl⟩

theorem threads_bind {x : StateM Nat β} {h : β → StateM Nat γ} (first : Threads ps ts as x P)
    (second : ∀ b, P b → Threads ps ts bs (h b) Q) : Threads ps ts (as ++ bs) (x >>= h) Q := by
  intro place ready
  obtain ⟨readyFirst, readySecond⟩ := ready_append.mp ready
  obtain ⟨holds, reached⟩ := first place readyFirst
  obtain ⟨result, final⟩ := second _ holds _ (reached ▸ readySecond)
  refine ⟨result, final.trans ?_⟩
  rw [reached, Node.countAll, Node.countAll, Node.countAll, List.flatMap_append,
    List.length_append, Nat.add_assoc]

theorem threads_map {x : StateM Nat β} {f : β → γ} (first : Threads ps ts as x P)
    (holds : ∀ b, P b → Q (f b)) : Threads ps ts as (do return f (← x)) Q := by
  rw [← List.append_nil as]
  exact threads_bind first fun b good => threads_pure (holds b good)

variable {k : Node → StateM Nat Node}

theorem threads_children (each : ∀ n ∈ as, Threads ps ts [n] (k n) (Hung n)) :
    Threads ps ts as (mapChildren k as) fun bs =>
      bs.map Node.shape = as.map Node.shape ∧ ∀ b ∈ bs, Tidy b := by
  induction as with
  | nil => exact threads_pure ⟨rfl, by simp⟩
  | cons n ns ih =>
    rw [← List.singleton_append]
    refine threads_bind (each n List.mem_cons_self) fun m first => ?_
    refine threads_map (ih fun c member => each c (List.mem_cons_of_mem n member)) fun ms rest => ?_
    refine ⟨?_, List.forall_mem_cons.mpr ⟨first.2, rest.2⟩⟩
    rw [List.map_cons, rest.1, first.1, List.singleton_append, List.map_cons]

theorem threads_child? {a : Option Node} (each : ∀ n, a = some n → Threads ps ts [n] (k n) (Hung n)) :
    Threads ps ts a.toList (mapChild? k a) fun b =>
      b.map Node.shape = a.map Node.shape ∧ ∀ n, b = some n → Tidy n := by
  cases a with
  | none => exact threads_pure ⟨rfl, by simp⟩
  | some n =>
    refine threads_map (each n rfl) fun m hung => ⟨by rw [Option.map_some, hung.1, Option.map_some], ?_⟩
    rintro _ ⟨⟩
    exact hung.2

theorem threads_of_eq {x : StateM Nat β} (walk : Threads ps ts as x P) (same : as = bs) :
    Threads ps ts bs x P := same ▸ walk

/-- What a walk makes of a layer has the same shape and tidy children. -/
theorem threads_form {f : Form Node} (notTs : ∀ g, f ≠ .ts g)
    (known : ∀ kind parts, f ≠ .foreign kind parts)
    (each : ∀ n ∈ f.children, Threads ps ts [n] (k n) (Hung n)) :
    Threads ps ts f.children (f.mapM k) fun g =>
      g.map Node.shape = f.map Node.shape ∧ ∀ c ∈ g.children, Tidy c := by
  cases f with
  | ts g => exact absurd rfl (notTs g)
  | foreign kind parts => exact absurd rfl (known kind parts)
  | flow g | expr g | stmt g =>
    cases g
    all_goals
      -- the walk goes from child to child, so the children are split off as it does
      simp only [Form.mapM, FlowForm.mapM, ExprForm.mapM, StmtForm.mapM, bind_assoc, pure_bind]
      apply threads_of_eq
      · repeat' first
          | apply threads_bind (threads_children fun n member => each n (by simp [member]))
          | apply threads_bind (threads_child? fun n member => each n (by simp [member]))
          | apply threads_bind (each _ (by simp))
          | apply threads_pure
          | rintro _ ⟨_, _⟩
        simp +contextual [*]
      · simp

end Threads

theorem isHolder_map (f : Form Node) (k : Node → Node) : (f.map k).isHolder = f.isHolder := by
  cases f with
  | flow f => cases f <;> rfl
  | _ => rfl

theorem isTarget_of_isHolder {n : Node} (holder : n.form.isHolder) : isTarget n = false := by
  rcases n with ⟨i, f⟩
  cases f with
  | flow f => cases f <;> first | rfl | cases holder
  | _ => cases holder

theorem threads_visit {n : Node} (formed : n.Formed Node.Fresh) :
    Threads ps ts [n] (visit src ps ts n) (Hung n) := by
  induction n using Node.childInduction with
  | step n ih =>
    intro place ready
    obtain ⟨⟨shape, tidy⟩, reached⟩ := threads_form formed.extra.1 formed.fits.known
      (fun c child => ih c child (formed.of_child child)) (place + 1) (ready_children ready)
    rw [visit_run]
    generalize ((n.form.mapM (visit src ps ts)).run (place + 1)).1 = g at shape tidy
    refine ⟨⟨?_, Node.forall_mem_preorder_iff.mpr ⟨?_, ?_⟩⟩, ?_⟩
    · rw [Node.shape_eq, form_decorate, pos_decorate, Node.withForm, shape]
      exact n.shape_eq.symm
    · intro holder
      -- a holder takes no comments, so it is as the grammar left it
      rw [form_decorate, Node.withForm, ← isHolder_map g Node.shape, shape, isHolder_map] at holder
      rw [decorate_of_free (ready_root ready (isTarget_of_isHolder holder))]
      exact formed.extra.2
    · intro c child
      rw [Node.children, form_decorate] at child
      exact tidy c child
    · have size : Node.countAll [n] = Node.countAll n.form.children + 1 := by
        rw [Node.countAll, List.flatMap_singleton]
        exact n.count_eq
      rw [reached, size]
      omega

/-! ## Targets -/

theorem perm_insertTarget (t : Target) (us : List Target) : (insertTarget t us).Perm (t :: us) := by
  induction us with
  | nil => exact .refl _
  | cons u us ih =>
    rw [insertTarget]
    split
    · exact (ih.cons u).trans (.swap t u us)
    · exact .refl _

theorem perm_targets (tree : Node) : (targets tree).Perm (targetsFrom 0 tree.preorder) := by
  have sorted : ∀ us vs : List Target,
      (us.foldl (fun sorted t => insertTarget t sorted) vs).Perm (us ++ vs) := by
    intro us
    induction us with
    | nil => exact fun vs => .refl _
    | cons u us ih =>
      intro vs
      exact (ih _).trans (((perm_insertTarget u vs).append_left us).trans List.perm_middle)
  exact (sorted _ []).trans (.of_eq (List.append_nil _))

theorem mem_targetsFrom {t : Target} {i : Nat} {ns : List Node} : t ∈ targetsFrom i ns ↔
    ∃ j m, ns[j]? = some m ∧ isTarget m = true ∧ t = ⟨i + j, m.pos, isStatement m⟩ := by
  induction ns generalizing i with
  | nil => simp [targetsFrom]
  | cons n ns ih =>
    have shifted (j : Nat) : i + 1 + j = i + (j + 1) := by omega
    rw [targetsFrom]
    constructor
    · intro member
      have later (inRest : t ∈ targetsFrom (i + 1) ns) : ∃ j m, (n :: ns)[j]? = some m
          ∧ isTarget m = true ∧ t = ⟨i + j, m.pos, isStatement m⟩ := by
        obtain ⟨j, m, found, target, same⟩ := ih.mp inRest
        exact ⟨j + 1, m, found, target, shifted j ▸ same⟩
      split at member
      next target =>
        rcases List.mem_cons.mp member with same | inRest
        · exact ⟨0, n, rfl, target, same⟩
        · exact later inRest
      next => exact later member
    · rintro ⟨j, m, found, target, same⟩
      cases j with
      | zero =>
        cases found
        rw [if_pos target, same]
        exact List.mem_cons_self
      | succ j =>
        have inRest : t ∈ targetsFrom (i + 1) ns := ih.mpr ⟨j, m, found, target, shifted j ▸ same⟩
        split
        · exact List.mem_cons_of_mem _ inRest
        · exact inRest

/-- The targets are the places of the nodes that take comments. -/
theorem mem_targets_iff {t : Target} {tree : Node} : t ∈ targets tree ↔
    ∃ m, tree.preorder[t.place]? = some m ∧ isTarget m = true ∧ t = ⟨t.place, m.pos, isStatement m⟩ := by
  rw [(perm_targets tree).mem_iff, mem_targetsFrom]
  constructor
  · rintro ⟨j, m, found, target, rfl⟩
    rw [Nat.zero_add]
    exact ⟨m, found, target, rfl⟩
  · rintro ⟨m, found, target, same⟩
    exact ⟨t.place, m, found, target, by rw [Nat.zero_add]; exact same⟩

/-- A target is the place of a node that takes comments. -/
theorem mem_targets {t : Target} {tree : Node} (member : t ∈ targets tree) :
    ∃ m, tree.preorder[t.place]? = some m ∧ isTarget m = true := by
  obtain ⟨m, found, target, -⟩ := mem_targets_iff.mp member
  exact ⟨m, found, target⟩

/-- A comment goes to a target or to the program. -/
theorem spot_of_targets (text : List Char) (ts : List Target) (c : Comment) :
    spot text ts c = .program
      ∨ ∃ t ∈ ts, spot text ts c = .leading t.place ∨ spot text ts c = .trailing t.place := by
  have leads : leadingSpot ts c = .program ∨ ∃ t ∈ ts, leadingSpot ts c = .leading t.place
      ∨ leadingSpot ts c = .trailing t.place := by
    rw [leadingSpot]
    split
    next t found => exact .inr ⟨t, List.mem_of_find?_eq_some found, .inl rfl⟩
    next => exact .inl rfl
  unfold spot
  dsimp only
  split
  · split
    next t found =>
      split
      · exact .inr ⟨t, List.mem_of_find?_eq_some found, .inr rfl⟩
      · exact leads
    next => exact leads
  · exact leads

/-- Comments are placed on nodes that take comments. -/
theorem ready_targets (text : List Char) (comments : List Comment) (tree : Node) :
    Ready (comments.map fun c => ⟨c, spot text (targets tree) c⟩) (targets tree) 0 [tree] := by
  intro i m found bare
  rw [List.flatMap_singleton] at found
  rw [Nat.zero_add]
  have untargeted : ∀ t ∈ targets tree, t.place ≠ i := by
    rintro t member rfl
    obtain ⟨n, atPlace, target⟩ := mem_targets member
    rw [found] at atPlace
    cases atPlace
    rw [bare] at target
    cases target
  have nothing : ∀ s, (s = .leading i ∨ s = .trailing i) →
      placedAt (comments.map fun c => ⟨c, spot text (targets tree) c⟩) s = [] := by
    intro s here
    rw [placedAt, List.filterMap_eq_nil_iff]
    intro p member
    obtain ⟨c, -, rfl⟩ := List.mem_map.mp member
    refine if_neg fun equal => ?_
    dsimp only at equal
    rcases spot_of_targets text (targets tree) c with program | ⟨t, target, leading | trailing⟩
    · rw [← equal, program] at here
      rcases here with absurdSpot | absurdSpot <;> cases absurdSpot
    · rw [← equal, leading] at here
      rcases here with same | absurdSpot
      · exact untargeted t target (Spot.leading.inj same)
      · cases absurdSpot
    · rw [← equal, trailing] at here
      rcases here with absurdSpot | same
      · cases absurdSpot
      · exact untargeted t target (Spot.trailing.inj same)
  refine ⟨nothing _ (.inl rfl), nothing _ (.inr rfl), List.find?_eq_none.mpr ?_⟩
  intro t member
  simpa using untargeted t member

end Walk

theorem isHolder_of_program {f : Form Node} (isProgram : .program ∈ f.roles) :
    f.isHolder = false := by
  cases f with
  | flow f => cases f <;> simp [Form.roles, FlowForm.roles, Role.ofExpr] at isProgram
  | _ => rfl

/-- With its comments, a program is well-formed still, and its comments hang where no pass
makes a layer anew. -/
theorem attach_plays {src : Source} {comments : List Comment} {tree : Node}
    (plays : tree.Plays Node.Fresh .program) :
    (attach src comments tree).Plays Node.Parsed .program := by
  rw [attach]
  obtain ⟨⟨shape, tidy⟩, -⟩ := threads_visit plays.2 0
    (ready_targets src.text.toList comments tree)
  change (decorateAll src _ _ tree).shape = _ at shape
  change Tidy (decorateAll src _ _ tree) at tidy
  generalize decorateAll src _ _ tree = hung at shape tidy
  have role : .program ∈ hung.form.roles := by
    rw [← Node.roles_shape, shape, Node.roles_shape]
    exact plays.1
  have formed : hung.Formed fun n => ∀ f, n.form ≠ .ts f := by
    have dialect : ∀ n : Node, (∀ f, n.shape.form ≠ .ts f) ↔ ∀ f, n.form ≠ .ts f := by
      intro n
      rw [Node.form_shape]
      cases n.form <;> simp
    rw [← Node.formed_shape dialect, shape, Node.formed_shape dialect]
    exact plays.2.mono fun m _ fresh => fresh.1
  obtain ⟨notTs, sound, slots⟩ := Node.formed_iff.mp formed
  refine ⟨role, Node.formed_iff.mpr ⟨⟨notTs, ?_⟩, sound, ?_⟩⟩
  · -- the root takes comments too, but a program is never made anew
    intro holder
    rw [isHolder_of_program role] at holder
    cases holder
  · intro s slot
    refine (slots s slot).mono fun m member notTs => ⟨notTs, ?_⟩
    exact (Node.forall_mem_preorder_iff.mp tidy).2 s.2 (Node.mem_children_of_slot slot) m member

end Comments

theorem Source.parse_cases {src : Source} {tree : Node} (parsed : src.parse = .ok tree) :
    ∃ found bare, Stream.read src.text.toList = .ok found ∧ Parser.parse found.tokens = .ok bare
      ∧ tree = Comments.attach src found.comments bare := by
  rw [Source.parse] at parsed
  cases reading : Stream.read src.text.toList with
  | error e =>
    rw [reading] at parsed
    cases parsed
  | ok found =>
    cases building : Parser.parse found.tokens with
    | error e => simp [reading, building, bind, Except.bind] at parsed
    | ok bare =>
      simp only [reading, building, bind, Except.bind, pure, Except.pure, Except.ok.injEq] at parsed
      exact ⟨found, bare, rfl, building, parsed.symm⟩

/-- What is read from a text is a well-formed program. -/
theorem Source.parse_plays {src : Source} {tree : Node} (parsed : src.parse = .ok tree) :
    tree.Plays Node.Parsed .program := by
  obtain ⟨found, bare, -, building, rfl⟩ := src.parse_cases parsed
  exact Comments.attach_plays (Grammar.parse_plays building)

end Retype
