import Retype.Proofs.Parse.Comments
import Retype.Proofs.Voice.Text

/-!
# Where comments hang

Every comment of a text hangs on a node that takes comments, or on the program.  The tree is walked,
and the node at a place gets the comments placed there, so what is known of the nodes of the tree is
known of those of the new tree, place by place.
-/

namespace Retype.Comments

variable {src : Source} {ps : List Placed} {ts : List Target} {place : Nat}

/-! ## What a walk leaves at each place -/

/-- What is known of a node once its comments are hung on it: its place in the text, and whether it
takes comments. -/
def sight (src : Source) (ps : List Placed) (ts : List Target) (place : Nat) (n : Node) : Info × Bool :=
  ((decorate src ps ts place n).info, isTarget n)

/-- What is known of all nodes of a tree, from a place on. -/
def sights (src : Source) (ps : List Placed) (ts : List Target) (place : Nat) (n : Node) :
    List (Info × Bool) :=
  n.preorder.mapIdx fun i m => sight src ps ts (place + i) m

/-- What is known of all nodes of a tree as they are. -/
def looks (n : Node) : List (Info × Bool) := n.preorder.map fun m => (m.info, isTarget m)

/-- What is known of all nodes of trees in a row, from a place on. -/
def allSights (src : Source) (ps : List Placed) (ts : List Target) (place : Nat) :
    List Node → List (Info × Bool)
  | [] => []
  | n :: ns => sights src ps ts place n ++ allSights src ps ts (place + n.count) ns

@[simp]
theorem countAll_nil : Node.countAll [] = 0 := rfl

@[simp]
theorem countAll_cons (n : Node) (ns : List Node) : Node.countAll (n :: ns) = n.count + Node.countAll ns := by
  simp [Node.countAll, Node.count]

@[simp]
theorem countAll_append (as bs : List Node) :
    Node.countAll (as ++ bs) = Node.countAll as + Node.countAll bs := by
  rw [Node.countAll, List.flatMap_append, List.length_append]
  rfl

@[simp]
theorem allSights_nil : allSights src ps ts place [] = [] := rfl

@[simp]
theorem allSights_cons (n : Node) (ns : List Node) : allSights src ps ts place (n :: ns)
    = sights src ps ts place n ++ allSights src ps ts (place + n.count) ns := rfl

@[simp]
theorem allSights_append (as bs : List Node) : allSights src ps ts place (as ++ bs)
    = allSights src ps ts place as ++ allSights src ps ts (place + Node.countAll as) bs := by
  induction as generalizing place with
  | nil => rfl
  | cons n ns ih => simp [ih, Nat.add_assoc]

/-- Trees in a row are seen as one list of nodes. -/
theorem allSights_eq (ns : List Node) : allSights src ps ts place ns
    = (ns.flatMap Node.preorder).mapIdx fun i m => sight src ps ts (place + i) m := by
  induction ns generalizing place with
  | nil => rfl
  | cons n ns ih =>
    simp [ih, sights, Node.count, List.mapIdx_append, Nat.add_left_comm, Nat.add_comm]

/-- A walk over trees in a row, from a place on.  It counts their nodes, and what it makes of them
meets a condition. -/
structure Walks {β : Type} (place : Nat) (ns : List Node) (x : StateM Nat β) (P : β → Prop) : Prop where
  holds : P (x.run place).1
  reached : (x.run place).2 = place + Node.countAll ns

section Walks

attribute [local simp] Form.children Form.parts FlowForm.parts ExprForm.parts StmtForm.parts TsForm.parts
  Part.ofVariance? Part.ofImportKind? FlowForm.mapM ExprForm.mapM StmtForm.mapM TsForm.mapM

variable {β γ : Type} {as bs : List Node} {P : β → Prop} {Q : γ → Prop} {k : Node → StateM Nat Node}

theorem walks_pure {b : β} (holds : P b) : Walks place [] (pure b) P := ⟨holds, rfl⟩

theorem walks_bind {x : StateM Nat β} {h : β → StateM Nat γ} (first : Walks place as x P)
    (second : ∀ b, P b → Walks (place + Node.countAll as) bs (h b) Q) :
    Walks place (as ++ bs) (x >>= h) Q := by
  obtain ⟨holds, reached⟩ := second _ first.holds
  rw [← first.reached] at holds reached
  refine ⟨holds, reached.trans ?_⟩
  rw [first.reached, countAll_append, Nat.add_assoc]

theorem walks_map {x : StateM Nat β} {f : β → γ} (first : Walks place as x P)
    (holds : ∀ b, P b → Q (f b)) : Walks place as (do return f (← x)) Q := by
  rw [← List.append_nil as]
  exact walks_bind first fun b good => walks_pure (holds b good)

theorem walks_children (each : ∀ n ∈ as, ∀ place, Walks place [n] (k n)
      fun m => looks m = sights src ps ts place n) :
    Walks place as (mapChildren k as) fun bs => bs.flatMap looks = allSights src ps ts place as := by
  induction as generalizing place with
  | nil => exact walks_pure rfl
  | cons n ns ih =>
    rw [← List.singleton_append]
    refine walks_bind (each n List.mem_cons_self place) fun m first => ?_
    refine walks_map (ih fun c member => each c (List.mem_cons_of_mem n member)) fun ms rest => ?_
    simp [first, rest]

theorem walks_child? {a : Option Node} (each : ∀ n, a = some n → ∀ place, Walks place [n] (k n)
      fun m => looks m = sights src ps ts place n) :
    Walks place a.toList (mapChild? k a)
      fun b => b.toList.flatMap looks = allSights src ps ts place a.toList := by
  cases a with
  | none => exact walks_pure rfl
  | some n =>
    exact walks_map (each n rfl place) fun m here => by simp [here]

theorem walks_of_eq {x : StateM Nat β} (walk : Walks place as x P) (same : as = bs) :
    Walks place bs x P := same ▸ walk

/-- What a walk makes of a layer takes comments if the layer does, and the places below it are as they
should be. -/
theorem walks_form {f : Form Node} (notTs : ∀ g, f ≠ .ts g)
    (known : ∀ kind parts, f ≠ .foreign kind parts)
    (each : ∀ n ∈ f.children, ∀ place, Walks place [n] (k n)
      fun m => looks m = sights src ps ts place n) :
    Walks place f.children (f.mapM k) fun g =>
      (∀ i j, isTarget ⟨i, g⟩ = isTarget ⟨j, f⟩)
        ∧ g.children.flatMap looks = allSights src ps ts place f.children := by
  cases f with
  | ts g => exact absurd rfl (notTs g)
  | foreign kind parts => exact absurd rfl (known kind parts)
  | flow g | expr g | stmt g =>
    cases g
    all_goals
      simp only [Form.mapM, FlowForm.mapM, ExprForm.mapM, StmtForm.mapM, bind_assoc, pure_bind]
      apply walks_of_eq
      · repeat' first
          | apply walks_bind (walks_children fun n member => each n (by simp [member]))
          | apply walks_bind (walks_child? fun n member => each n (by simp [member]))
          | apply walks_bind (each _ (by simp) _)
          | apply walks_pure
          | intro _ _
        refine ⟨fun _ _ => rfl, ?_⟩
        simp [*, Nat.add_assoc]
      · simp

end Walks

theorem looks_eq (n : Node) : looks n = (n.info, isTarget n) :: n.children.flatMap looks := by
  rw [looks, Node.preorder_eq, List.map_cons, List.map_flatMap]
  rfl

theorem sights_eq (n : Node) : sights src ps ts place n
    = sight src ps ts place n :: allSights src ps ts (place + 1) n.children := by
  rw [sights, Node.preorder_eq, List.mapIdx_cons, allSights_eq]
  simp [Nat.add_left_comm, Nat.add_comm]

/-- The place of a node decides what hangs on it. -/
theorem info_decorate {n : Node} {f : Form Node} :
    (decorate src ps ts place (n.withForm f)).info = (decorate src ps ts place n).info := by
  unfold decorate
  dsimp only
  split
  · split <;> rfl
  · rfl

theorem isTarget_of_form {n m : Node} (same : m.form = n.form) : isTarget m = isTarget n := by
  rw [isTarget, isTarget, isStatement, isStatement, same]

theorem walks_visit {n : Node} (formed : n.Formed Node.Fresh) (place : Nat) :
    Walks place [n] (visit src ps ts n) fun m => looks m = sights src ps ts place n := by
  induction n using Node.childInduction generalizing place with
  | step n ih =>
    obtain ⟨⟨target, below⟩, reached⟩ : Walks (place + 1) n.form.children
        (n.form.mapM (visit src ps ts)) fun g => (∀ i j, isTarget ⟨i, g⟩ = isTarget ⟨j, n.form⟩)
          ∧ g.children.flatMap looks = allSights src ps ts (place + 1) n.form.children :=
      walks_form formed.extra.1 formed.fits.known
        fun c child place => ih c child (formed.of_child child) place
    refine ⟨?_, ?_⟩
    · rw [visit_run]
      generalize ((n.form.mapM (visit src ps ts)).run (place + 1)).1 = g at target below
      rw [looks_eq, sights_eq, Node.children, form_decorate, Node.children]
      refine congrArg₂ _ (Prod.ext info_decorate ?_) below
      exact (isTarget_of_form form_decorate).trans (target n.info n.info)
    · rw [visit_run, reached, countAll_cons, Node.count_eq]
      rw [countAll_nil, Nat.add_zero, Node.children, Nat.add_assoc, Nat.add_comm 1]

/-! ## Comments of a text -/

theorem mem_placedAt (text : List Char) (ts : List Target) {comments : List Comment} {c : Comment}
    (member : c ∈ comments) (s : Spot) (there : spot text ts c = s) :
    c ∈ placedAt (comments.map fun c => ⟨c, spot text ts c⟩) s :=
  List.mem_filterMap.mpr ⟨⟨c, spot text ts c⟩, List.mem_map_of_mem member, by simp [there]⟩

/-- The node at the place of a comment carries it. -/
theorem carries_decorate {n : Node} {c : Comment}
    (placed : c ∈ placedAt ps (.leading place) ∨ c ∈ placedAt ps (.trailing place)) :
    (decorate src ps ts place n).Carries c.text := by
  have leads (comments : List String) (held : c ∈ placedAt ps (.leading place)) :
      c.text ∈ comments ++ (placedAt ps (.leading place)).map (·.text) :=
    List.mem_append_right _ (List.mem_map_of_mem held)
  have trails (comments : List String) (held : c ∈ placedAt ps (.trailing place)) :
      c.text ∈ comments ++ (placedAt ps (.trailing place)).map (·.text) :=
    List.mem_append_right _ (List.mem_map_of_mem held)
  unfold decorate
  dsimp only
  split
  · split <;> exact placed.imp (leads _) (trails _)
  · exact placed.imp (leads _) (trails _)

theorem isTarget_of_program {n : Node} (isProgram : .program ∈ n.form.roles) : isTarget n = false := by
  rcases n with ⟨i, f⟩
  cases f with
  | flow f => cases f <;> simp [Form.roles, FlowForm.roles, Role.ofExpr] at isProgram
  | expr f => cases f <;> simp [Form.roles, ExprForm.roles, Role.ofExpr] at isProgram
  | stmt f => cases f <;> first | rfl | simp [Form.roles, StmtForm.roles] at isProgram
  | _ => rfl

/-- Every comment hangs on the program, or on a node below it that takes comments. -/
theorem hangs_attach {comments : List Comment} {tree : Node} (plays : tree.Plays Node.Fresh .program)
    {c : Comment} (member : c ∈ comments) : c.text ∈ (attach src comments tree).comments
      ∨ ∃ k ∈ (attach src comments tree).descendants, isTarget k ∧ k.Carries c.text := by
  rw [attach]
  dsimp only
  have placed := mem_placedAt src.text.toList (targets tree) member
  generalize comments.map (fun c => Placed.mk c (spot src.text.toList (targets tree) c)) = ps at placed
  have walk : looks (decorateAll src ps (targets tree) tree) = sights src ps (targets tree) 0 tree :=
    (walks_visit plays.2 0).holds
  generalize decorateAll src ps (targets tree) tree = hung at walk
  rcases spot_of_targets src.text.toList (targets tree) c with program | ⟨t, target, there⟩
  · exact .inl (List.mem_append_right _ (List.mem_map_of_mem (placed _ program)))
  · right
    obtain ⟨m, atPlace, takes⟩ := mem_targets target
    have seen : (looks hung)[t.place]? = some (sight src ps (targets tree) t.place m) := by
      rw [walk, sights, List.getElem?_mapIdx, atPlace, Nat.zero_add]
      rfl
    rw [looks, List.getElem?_map, Option.map_eq_some_iff] at seen
    obtain ⟨k, found, same⟩ := seen
    obtain ⟨info, takes'⟩ := Prod.mk.inj same
    refine ⟨k, ?_, takes'.trans takes, ?_⟩
    · -- The program takes no comments, so the place is below it.
      cases place : t.place with
      | zero =>
        rw [place, Node.preorder_eq_cons_descendants, List.getElem?_cons_zero] at atPlace
        cases atPlace
        rw [isTarget_of_program plays.1] at takes
        cases takes
      | succ j =>
        rw [place, Node.preorder_eq_cons_descendants, List.getElem?_cons_succ] at found
        exact List.mem_of_getElem? found
    · have carried : (decorate src ps (targets tree) t.place m).Carries c.text :=
        carries_decorate (there.imp (placed _) (placed _))
      rwa [Node.Carries, Node.comments, Node.trailing, info]

end Retype.Comments
