import Retype.Proofs.Printer.Expression

/-!
# Printing statements

Every layer of a statement is printed in each of its roles, if its parts are, strays apart, and its text
holds the comments kept in it.  At a stray printing stops.
-/

namespace Retype

open Printer

variable {c : String} {i : Info} {r : Role} {ns : List Node} {a : Option Node}

section Statements

variable {f : StmtForm Node}

theorem allStrays_stmt : Node.allStrays ⟨i, .stmt f⟩
    = Node.strays ⟨i, .stmt f⟩ ++ strayRow (f.slots.map (·.2)) := by
  rw [Node.allStrays_eq, Node.children, Form.children_eq_slots (by simp)]
  rfl

/-! ## Comments of statements -/

/-- A comment kept in a statement is kept in what it shows, its rows carry it, or it stands behind a
branch. -/
theorem heard_stmt (heard : Heard c [⟨i, .stmt f⟩]) :
    (∃ n ∈ Node.rows ⟨i, .stmt f⟩, n.Carries c) ∨ (∃ n ∈ Node.branches ⟨i, .stmt f⟩, c ∈ n.trailing)
      ∨ Heard c (Node.shown ⟨i, .stmt f⟩) := by
  have voiced : Voiced c ⟨i, .stmt f⟩ := by simpa using heard
  cases voiced with
  | row row own => exact .inl ⟨_, row, own⟩
  | branch branch own => exact .inr (.inl ⟨_, branch, own⟩)
  | within shown inner => exact .inr (.inr ⟨_, shown, inner⟩)

theorem tells_shown {text : String} (bare : Node.rows ⟨i, .stmt f⟩ = [])
    (straight : Node.branches ⟨i, .stmt f⟩ = []) (tells : Tells c (Node.shown ⟨i, .stmt f⟩) text) :
    Tells c [⟨i, .stmt f⟩] text := by
  intro heard
  rcases heard_stmt heard with ⟨n, row, -⟩ | ⟨n, branch, -⟩ | inner
  · exact absurd row (by simp [bare])
  · exact absurd branch (by simp [straight])
  · exact tells inner

theorem shown_of_children (all : Node.shown ⟨i, .stmt f⟩ = Node.children ⟨i, .stmt f⟩) :
    Node.shown ⟨i, .stmt f⟩ = f.slots.map (·.2) := by
  rw [all, Node.children, Form.children_eq_slots (by simp)]
  rfl

/-- A statement that shows all its parts, and has neither rows nor branches. -/
theorem tells_stmt {text : String} (bare : Node.rows ⟨i, .stmt f⟩ = [])
    (straight : Node.branches ⟨i, .stmt f⟩ = [])
    (all : Node.shown ⟨i, .stmt f⟩ = Node.children ⟨i, .stmt f⟩)
    (tells : Tells c (f.slots.map (·.2)) text) : Tells c [⟨i, .stmt f⟩] text :=
  tells_shown bare straight (shown_of_children all ▸ tells)

theorem allStrays_straight (straight : Node.branches ⟨i, .stmt f⟩ = []) :
    Node.allStrays ⟨i, .stmt f⟩ = strayRow (f.slots.map (·.2)) := by
  rw [allStrays_stmt, Node.strays, straight]
  rfl

/-- A statement is printed with its parts. -/
theorem writes_stmt {x : Except Failure String} {ns : List Node} (bare : Node.rows ⟨i, .stmt f⟩ = [])
    (straight : Node.branches ⟨i, .stmt f⟩ = [])
    (all : Node.shown ⟨i, .stmt f⟩ = Node.children ⟨i, .stmt f⟩)
    (writes : Writes (strayRow ns) x (Tells c ns)) (parts : f.slots.map (·.2) = ns) :
    Writes (strayRow [⟨i, .stmt f⟩]) x (Tells c [⟨i, .stmt f⟩]) := by
  subst parts
  refine (writes.imp fun _ => tells_stmt bare straight all).of_eq ?_
  rw [strayRow_cons, allStrays_straight straight]
  exact (List.append_nil _).symm

/-! ## Branches -/

theorem strayRow_eq_nil (each : ∀ n ∈ ns, n.allStrays = []) : strayRow ns = [] :=
  List.flatMap_eq_nil_iff.mpr each

/-- No declaration of the source is printed as a statement. -/
theorem stmt_of_isDeclare_eq {s : Node} (declares : s.form.isDeclare) (ind : String) :
    stmt ind s = unprintable s := by
  rcases s with ⟨i, f⟩
  cases f with
  | flow f => rw [stmt] <;> simp
  | _ => cases declares

/-- The strays among the branches of a node, with those inside the branches. -/
def branchStrays (ns : List Node) : List Node := ns.filter (·.form.isDeclare) ++ strayRow ns

/-- A branch is printed, or it is a stray. -/
theorem writes_branch_stmt {s : Node} (each : s.form.isDeclare ∨ WritesAs c s .stmt) (ind : String) :
    Writes (branchStrays [s]) (stmt ind s) (Tells c [s]) := by
  by_cases declares : s.form.isDeclare
  · rw [stmt_of_isDeclare_eq declares]
    exact .stops (by simp [branchStrays, declares])
  · refine (each.resolve_left declares ind).of_eq ?_
    simp [branchStrays, declares]

/-- The text of a branch holds its comments and those behind it. -/
theorem writes_branch (each : ∀ n, a = some n → n.form.isDeclare ∨ WritesAs c n .stmt) (ind : String) :
    Writes (branchStrays a.toList) (branch ind a) fun text =>
      (∃ n, a = some n ∧ c ∈ n.trailing) ∨ Heard c a.toList → Holds c text := by
  cases a with
  | none =>
    rw [branch]
    exact .ok fun held => by simp at held
  | some n =>
    rw [branch]
    refine (writes_branch_stmt (each n rfl) ind).map fun t text held => ?_
    rcases held with ⟨m, same, own⟩ | inner
    · cases same
      simp [own]
    · simp [text inner]

theorem mem_allStrays_cond {test s : Node} {cons alt : Option Node} :
    s ∈ strayRow [⟨i, .stmt (.cond test cons alt)⟩]
      ↔ s ∈ strayRow [test] ++ (branchStrays cons.toList ++ branchStrays alt.toList) := by
  simp only [allStrays_stmt, branchStrays, Node.strays, Node.branches, StmtForm.slots, List.map_cons, List.map_append,
    Role.for?_snd, strayRow_cons, strayRow_nil, List.append_nil, strayRow_append, List.filter_append,
    List.mem_append]
  tauto

theorem mem_allStrays_loop {test s : Node} {body : Option Node} :
    s ∈ strayRow [⟨i, .stmt (.loop test body)⟩]
      ↔ s ∈ strayRow [test] ++ branchStrays body.toList := by
  simp only [allStrays_stmt, branchStrays, Node.strays, Node.branches, StmtForm.slots, List.map_cons, Role.for?_snd,
    strayRow_cons, strayRow_nil, List.append_nil, List.mem_append]
  tauto

/-! ## Statements -/

/-- The text of a condition holds the comments of its branches and those behind them. -/
theorem writes_cond {test : Node} {cons alt : Option Node} (isExpr : WritesAs c test .expr)
    (isCons : ∀ n, cons = some n → n.form.isDeclare ∨ WritesAs c n .stmt)
    (isAlt : ∀ n, alt = some n → n.form.isDeclare ∨ WritesAs c n .stmt) :
    WritesAs c ⟨i, .stmt (.cond test cons alt)⟩ .stmt := by
  intro ind
  -- Where the comment is.
  have places (heard : Heard c [⟨i, .stmt (.cond test cons alt)⟩]) : Heard c [test]
      ∨ ((∃ n, cons = some n ∧ c ∈ n.trailing) ∨ Heard c cons.toList)
      ∨ ((∃ n, alt = some n ∧ c ∈ n.trailing) ∨ Heard c alt.toList) := by
    rcases heard_stmt heard with ⟨n, row, -⟩ | ⟨n, branch, own⟩ | inner
    · exact absurd row List.not_mem_nil
    · simp only [Node.branches, List.mem_append, Option.mem_toList] at branch
      exact .inr (branch.imp (fun found => .inl ⟨n, found, own⟩) fun found => .inl ⟨n, found, own⟩)
    · rw [shown_of_children rfl, StmtForm.slots, List.map_cons, List.map_append, Role.for?_snd,
        Role.for?_snd, ← List.singleton_append, heard_append, heard_append] at inner
      exact inner.imp_right (.imp .inr .inr)
  refine Writes.of_mem ?_ fun s => mem_allStrays_cond.symm
  cases alt with
  | none =>
    rw [stmt]
    refine Writes.of_eq ((isExpr ind).bind fun s first => (writes_branch isCons ind).map
      fun t second heard => ?_) (by simp [branchStrays])
    rcases places heard with inner | inner | inner
    · simp [first inner]
    · simp [second inner]
    · simp at inner
  | some m =>
    rw [stmt]
    refine (isExpr ind).bind fun s first => (writes_branch isCons ind).bind fun t second =>
      (writes_branch_stmt (isAlt m rfl) ind).map fun u third heard => ?_
    rcases places heard with inner | inner | ⟨n, same, own⟩ | inner
    · simp [first inner]
    · simp [second inner]
    · cases same
      simp [own]
    · simp [third inner]

theorem writes_loop {test : Node} {content : Option Node} (isExpr : WritesAs c test .expr)
    (isBody : ∀ n, content = some n → n.form.isDeclare ∨ WritesAs c n .stmt) :
    WritesAs c ⟨i, .stmt (.loop test content)⟩ .stmt := by
  intro ind
  refine Writes.of_mem ?_ fun s => mem_allStrays_loop.symm
  rw [stmt]
  refine (isExpr ind).bind fun s first => (writes_branch isBody ind).map fun t second heard => ?_
  rcases heard_stmt heard with ⟨n, row, -⟩ | ⟨n, branch, own⟩ | inner
  · exact absurd row List.not_mem_nil
  · simp only [Node.branches, Option.mem_toList] at branch
    simp [second (.inl ⟨n, branch, own⟩)]
  · rw [shown_of_children rfl, StmtForm.slots, List.map_cons, Role.for?_snd, ← List.singleton_append,
      heard_append] at inner
    rcases inner with inner | inner
    · simp [first inner]
    · simp [second (.inr inner)]

/-- The text of a class holds the comments of its members. -/
theorem writes_class {name : String} {tps parent args : Option Node} {parents members : List Node}
    (sound : (StmtForm.classDecl name tps parent args parents members).Sound)
    (slots : ∀ s ∈ (StmtForm.classDecl name tps parent args parents members).slots, WritesAs c s.2 s.1) :
    WritesAs c ⟨i, .stmt (.classDecl name tps parent args parents members)⟩ .stmt := by
  simp only [StmtForm.slots, List.forall_mem_append, Role.forall_mem_for?, Role.forall_mem_forAll] at slots
  obtain ⟨⟨⟨⟨isTparams, isExpr⟩, isTargs⟩, areParents⟩, areMembers⟩ := slots
  intro ind
  rw [stmt]
  refine Writes.of_eq ((writes_tparams isTparams ind).bind fun s first =>
    writes_extends sound isExpr isTargs 17 ind fun p a super arguments =>
      (writes_heritages areParents ind).bind fun ts row =>
        (writes_classMembers areMembers _).map fun us rows heard => ?_)
    (by simp [allStrays_stmt, Node.strays, Node.branches, StmtForm.slots])
  rcases heard_stmt heard with own | ⟨n, branch, -⟩ | inner
  · simp [holds_blockText rows.1 (.inl own)]
  · exact absurd branch List.not_mem_nil
  · simp only [shown_of_children (f := .classDecl name tps parent args parents members) rfl,
      StmtForm.slots, List.map_append, Role.for?_snd, Role.forAll_snd, heard_append] at inner
    rcases inner with (((inner | inner) | inner) | inner) | inner
    · simp [first inner]
    · simp [super inner]
    · simp [arguments inner]
    · have held := row.2 inner
      have filled : ts.isEmpty = false := by
        cases ts with
        | nil => exact absurd held not_holdsAny_nil
        | cons => rfl
      simp [filled, held]
    · simp [holds_blockText rows.1 (.inr (rows.2 inner))]

theorem statementsOf_program {ss : List Node} :
    statementsOf ⟨i, .stmt (.program ss)⟩ = .ok ss := by
  have rows : (ss.map Item.node).mapM Item.child = some ss := by
    induction ss with
    | nil => rfl
    | cons s ss ih => simp [Item.child, ih]
  rw [statementsOf, Form.parts, StmtForm.parts, List.head?_cons, Option.bind_some, Part.ofChildren,
    Part.children, rows]

/-- The text of a program holds the comments of its statements, and those of none. -/
theorem writes_program {ss : List Node} (each : ∀ n ∈ ss, WritesAs c n .stmt) :
    WritesAs c ⟨i, .stmt (.program ss)⟩ .program := by
  change Writes _ (program _) _
  rw [program, statementsOf_program]
  refine Writes.of_eq ((writes_stmts each "").map fun ts row heard => holds_intercalate ?_)
    (by simp [allStrays_stmt, Node.strays, Node.branches, StmtForm.slots])
  have inside (inner : Voiced c ⟨i, .stmt (.program ss)⟩) :
      HoldsAny c (statementLines "" true (ss.zip ts)) := by
    refine holdsAny_statementLines row.1 ?_
    rcases heard_stmt (heard_cons.mpr (.inl inner)) with own | ⟨n, branch, -⟩ | inner
    · exact .inl own
    · exact absurd branch List.not_mem_nil
    · rw [shown_of_children rfl, StmtForm.slots, Role.forAll_snd] at inner
      exact .inr (row.2 inner)
  unfold programLines
  rcases heard with own | inner
  · have filled : (Node.comments ⟨i, .stmt (.program ss)⟩).isEmpty = false :=
      List.isEmpty_eq_false_iff_exists_mem.mpr ⟨c, own⟩
    have listed : HoldsAny c (Node.comments ⟨i, .stmt (.program ss)⟩) := ⟨c, own, holds_self⟩
    simp [filled, listed]
  · split <;> simp [inside inner]

/-- A statement is printed in each of its roles, if its parts are, strays apart. -/
theorem writesAs_stmt (sound : f.Sound)
    (slots : ∀ s ∈ f.slots, (s.1 = .stmt ∧ s.2 ∈ Node.strays ⟨i, .stmt f⟩) ∨ WritesAs c s.2 s.1)
    (role : r ∈ f.roles) : WritesAs c ⟨i, .stmt f⟩ r := by
  have plain (none : Node.strays ⟨i, .stmt f⟩ = []) : ∀ s ∈ f.slots, WritesAs c s.2 s.1 := by
    simpa [none] using slots
  cases f with
  | program ss =>
    obtain rfl := List.mem_singleton.mp role
    exact writes_program (Role.forall_mem_forAll.mp (plain rfl))
  | block ss =>
    have rows := writes_stmts (Role.forall_mem_forAll.mp (plain rfl))
    simp only [StmtForm.roles, List.mem_cons, List.not_mem_nil, or_false] at role
    rcases role with rfl | rfl | rfl
    · intro ind
      rw [stmt]
      exact ((rows _).map fun ts => tells_block).of_eq (by simp [allStrays_block])
    · intro ind
      rw [body]
      exact ((rows _).map fun ts => tells_block).of_eq (by simp [allStrays_block])
    · exact .inl ⟨i, ss, rfl, rows⟩
  | exprStmt e =>
    obtain rfl := List.mem_singleton.mp role
    intro ind
    rw [stmt]
    refine writes_stmt rfl rfl rfl ((plain rfl _ List.mem_cons_self ind).one fun t held => ?_) rfl
    split <;> simp [held]
  | throw e =>
    obtain rfl := List.mem_singleton.mp role
    intro ind
    rw [stmt]
    exact writes_stmt rfl rfl rfl ((plain rfl _ List.mem_cons_self ind).one fun t held => by simp [held]) rfl
  | varDecl kind ds =>
    refine writesAs_declaration (fun ind => ?_) role
    rw [stmt]
    exact writes_stmt rfl rfl rfl ((writes_declarators (Role.forall_mem_forAll.mp (plain rfl)) ind).one
      fun ts held => by simp [held]) (Role.forAll_snd _ _)
  | declarator binding annot init =>
    obtain rfl := List.mem_singleton.mp role
    have parts := plain rfl
    simp only [StmtForm.slots, List.forall_mem_cons, List.forall_mem_append, Role.forall_mem_for?] at parts
    intro ind ns row
    rw [declarators]
    refine Writes.of_eq ((parts.1 ind).bind fun s first => (writes_annot parts.2.1 ind).bind fun t second =>
      (writes_init? parts.2.2 ind).bind fun u third => row.map fun ts later heard => ?_)
      (by simp [allStrays_stmt, Node.strays, Node.branches, StmtForm.slots])
    rcases heard_cons.mp heard with here | there
    · have inner : Tells c [⟨i, .stmt (.declarator binding annot init)⟩] (s ++ t ++ ifSome " = " u) := by
        refine tells_stmt rfl rfl rfl ?_
        rw [StmtForm.slots, List.map_cons, List.map_append, Role.for?_snd, Role.for?_snd,
          ← List.singleton_append, tells_append, tells_append]
        exact ⟨first.imp fun held => by simp [held], second.imp fun held => by simp [held],
          third.imp fun held => by simp [held]⟩
      simp [inner (heard_cons.mpr (.inl here))]
    · simp [later there]
  | ret e =>
    obtain rfl := List.mem_singleton.mp role
    intro ind
    cases e with
    | none =>
      rw [stmt]
      exact writes_stmt rfl rfl rfl .none rfl
    | some e =>
      rw [stmt]
      exact writes_stmt rfl rfl rfl ((plain rfl (.expr, e) List.mem_cons_self ind).one
        fun t held => by simp [held]) rfl
  | cond test cons alt =>
    obtain rfl := List.mem_singleton.mp role
    simp only [StmtForm.slots, List.forall_mem_cons, List.forall_mem_append, Role.forall_mem_for?] at slots
    exact writes_cond (slots.1.resolve_left (by simp))
      (fun n found => (slots.2.1 n found).imp_left fun stray => isDeclare_of_stray stray.2)
      fun n found => (slots.2.2 n found).imp_left fun stray => isDeclare_of_stray stray.2
  | loop test body =>
    obtain rfl := List.mem_singleton.mp role
    simp only [StmtForm.slots, List.forall_mem_cons, Role.forall_mem_for?] at slots
    exact writes_loop (slots.1.resolve_left (by simp))
      fun n found => (slots.2 n found).imp_left fun stray => isDeclare_of_stray stray.2
  | classDecl name tps parent args parents members =>
    have text := writes_class (i := i) sound (plain rfl)
    simp only [StmtForm.roles, List.mem_cons, List.not_mem_nil, or_false] at role
    rcases role with rfl | rfl | rfl
    · exact text
    · exact text
    · intro ind j
      rw [stmt]
      exact (text ind).map fun t tells => tells.imp fun held => by simp [held]
  | classProp key annot value isStatic variance optional =>
    obtain rfl := List.mem_singleton.mp role
    have parts := plain rfl
    simp only [StmtForm.slots, List.forall_mem_append, Role.forall_mem_for?] at parts
    intro ind
    rw [classMember]
    refine writes_stmt rfl rfl rfl ((writes_annot parts.1 ind).two (writes_init? parts.2 ind) fun s t held => ?_)
      (by simp [StmtForm.slots])
    rcases held with held | held <;> simp [held]
  | classMethod key fn isStatic =>
    obtain rfl := List.mem_singleton.mp role
    obtain ⟨j, name, tps, ps, ret, content, isAsync, isExpr, rfl, head, text⟩ :=
      plain rfl (.method, fn) List.mem_cons_self
    intro ind
    rw [classMember]
    refine writes_stmt rfl rfl rfl (writes_function (i := j) head text ind fun s ts u t held => ?_) rfl
    rcases held with held | held <;> simp [held]
  | importDecl kind specs source =>
    obtain rfl := List.mem_singleton.mp role
    intro ind
    rw [stmt]
    have none := strayRow_eq_nil (Role.forall_mem_forAll.mp (plain rfl))
    exact (Writes.ok (tells_shown rfl rfl tells_nil)).of_eq
      (by simp [allStrays_stmt, Node.strays, Node.branches, StmtForm.slots, none])
  | importDefault | importAll | importSpec | exportSpec =>
    obtain rfl := List.mem_singleton.mp role
    exact allStrays_straight rfl
  | exportNamed decl specs source kind =>
    obtain rfl := List.mem_singleton.mp role
    have parts := plain rfl
    simp only [StmtForm.slots, List.forall_mem_append, Role.forall_mem_for?, Role.forall_mem_forAll] at parts
    have none := strayRow_eq_nil parts.2
    intro ind
    cases decl with
    | none =>
      rw [stmt]
      exact (Writes.ok (tells_shown rfl rfl tells_nil)).of_eq
        (by simp [allStrays_stmt, Node.strays, Node.branches, StmtForm.slots, none])
    | some decl =>
      rw [stmt]
      exact Writes.of_eq ((parts.1 decl rfl ind).map fun t inner => tells_shown rfl rfl
        (inner.imp fun held => by simp [held]))
        (by simp [allStrays_stmt, Node.strays, Node.branches, StmtForm.slots, none])
  | exportDefault value =>
    obtain rfl := List.mem_singleton.mp role
    intro ind
    exact writes_stmt rfl rfl rfl (plain rfl (.value, value) List.mem_cons_self ind i) rfl
  | exportAll rename source =>
    obtain rfl := List.mem_singleton.mp role
    intro ind
    rw [stmt]
    exact writes_stmt rfl rfl rfl .none rfl

/-! ## Trees -/

/-- A tree that can be printed, up to strays. -/
def Node.Ready (n : Node) : Prop := ∀ m, Exposed n m → m.Fits ∧ ∀ f, m.form ≠ .flow f

/-- Printing a tree in one of its roles meets its strays, and nothing else, and the text holds the comments
kept in the tree. -/
theorem Node.Ready.writesAs {n : Node} (ready : n.Ready) (role : r ∈ n.form.roles) : WritesAs c n r := by
  induction n using Node.childInduction generalizing r with
  | step n ih =>
    obtain ⟨fits, notFlow⟩ := ready n (.root n)
    have part : ∀ s ∈ n.form.slots, s.2 ∉ n.strays → WritesAs c s.2 s.1 := by
      intro s slot other
      have child := Node.mem_children_of_slot slot
      exact ih s.2 child (fun m exposed => ready m (.descend child other exposed)) (fits.plays s slot)
    rcases n with ⟨i, f⟩
    cases f with
    | flow f => exact absurd rfl (notFlow f)
    | ts f => exact writesAs_ts fits.sound (fun s slot => part s slot List.not_mem_nil) role
    | expr f => exact writesAs_expr fits.sound (fun s slot => part s slot List.not_mem_nil) role
    | stmt f =>
      refine writesAs_stmt fits.sound (fun s slot => ?_) role
      by_cases stray : s.2 ∈ Node.strays ⟨i, .stmt f⟩
      · refine .inl ⟨stmt_of_isDeclare (isDeclare_of_stray stray) (fits.plays s slot) ?_, stray⟩
        exact (f.slots_outer i s slot).imp_left And.left
      · exact .inr (part s slot stray)
    | foreign kind ps => exact absurd fits.sound id

end Statements

end Retype
