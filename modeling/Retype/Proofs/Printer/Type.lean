import Retype.Proofs.Voice.Text

/-!
# Printing types

Every layer of the TypeScript dialect is printed in each of its roles, if its parts are, and its text
holds the comments kept in it.
-/

namespace Retype

open Printer

variable {c : String} {i : Info} {r : Role} {ns : List Node} {a : Option Node}

/-! ## Parts -/

section Parts

theorem writes_tys (each : ∀ n ∈ ns, WritesAs c n .type) (least : Nat) (ind : String) :
    Writes (strayRow ns) (tys least ind ns) (TellsAny c ns) :=
  (writes_row (typeText least) (fun _ _ => holds_typeText) (by rw [tys]) (fun n ns => by rw [tys])
    fun n member => each n member ind).imp fun _ => And.right

theorem writes_exprs (each : ∀ n ∈ ns, WritesAs c n .arg) (least : Nat) (ind : String) :
    Writes (strayRow ns) (exprs least ind ns) (TellsAny c ns) :=
  (writes_row (exprText least) (fun _ _ => holds_exprText) (by rw [exprs]) (fun n ns => by rw [exprs])
    fun n member => each n member ind).imp fun _ => And.right

theorem writes_heritages (each : ∀ n ∈ ns, WritesAs c n .heritage) (ind : String) :
    Writes (strayRow ns) (heritages ind ns) fun texts => texts.length = ns.length ∧ TellsAny c ns texts :=
  writes_row (fun _ text => text) (fun _ _ => id) (by rw [heritages]) (fun n ns => by rw [heritages])
    fun n member => each n member ind

theorem writes_typeMembers (each : ∀ n ∈ ns, WritesAs c n .typeMember) (ind : String) :
    Writes (strayRow ns) (typeMembers ind ns) fun texts => texts.length = ns.length ∧ TellsAny c ns texts :=
  writes_row (fun _ text => text) (fun _ _ => id) (by rw [typeMembers]) (fun n ns => by rw [typeMembers])
    fun n member => each n member ind

theorem writes_objectProps (each : ∀ n ∈ ns, WritesAs c n .objectProp) (ind : String) :
    Writes (strayRow ns) (objectProps ind ns) fun texts => texts.length = ns.length ∧ TellsAny c ns texts :=
  writes_row (fun _ text => text) (fun _ _ => id) (by rw [objectProps]) (fun n ns => by rw [objectProps])
    fun n member => each n member ind

theorem writes_classMembers (each : ∀ n ∈ ns, WritesAs c n .classMember) (ind : String) :
    Writes (strayRow ns) (classMembers ind ns) fun texts => texts.length = ns.length ∧ TellsAny c ns texts :=
  writes_row (fun _ text => text) (fun _ _ => id) (by rw [classMembers])
    (fun n ns => by rw [classMembers]) fun n member => each n member ind

theorem writes_stmts (each : ∀ n ∈ ns, WritesAs c n .stmt) (ind : String) :
    Writes (strayRow ns) (stmts ind ns) fun texts => texts.length = ns.length ∧ TellsAny c ns texts :=
  writes_row (fun _ text => text) (fun _ _ => id) (by rw [stmts]) (fun n ns => by rw [stmts])
    fun n member => each n member ind

theorem writes_sigParams (each : ∀ n ∈ ns, WritesAs c n .fnParam) (ind : String) :
    Writes (strayRow ns) (sigParams ind ns) (TellsAny c ns) :=
  writes_front (by rw [sigParams]) fun n member => (each n member).1 ind

theorem writes_params (each : ∀ n ∈ ns, WritesAs c n .param) (ind : String) :
    Writes (strayRow ns) (params ind ns) (TellsAny c ns) :=
  writes_front (by rw [params]) fun n member => each n member ind

theorem writes_patternProps (each : ∀ n ∈ ns, WritesAs c n .patternProp) (ind : String) :
    Writes (strayRow ns) (patternProps ind ns) (TellsAny c ns) :=
  writes_front (by rw [patternProps]) fun n member => each n member ind

theorem writes_declarators (each : ∀ n ∈ ns, WritesAs c n .declarator) (ind : String) :
    Writes (strayRow ns) (declarators ind ns) (TellsAny c ns) :=
  writes_front (by rw [declarators]) fun n member => each n member ind

theorem writes_sigRest (each : ∀ n, a = some n → WritesAs c n .fnParam) (ind : String) :
    Writes (strayRow a.toList) (sigRest ind a) (TellsAny c a.toList) :=
  writes_option (by rw [sigRest]) fun n found => (each n found).2 ind

theorem writes_tparams (each : ∀ n, a = some n → WritesAs c n .tparams) (ind : String) :
    Writes (strayRow a.toList) (tparams ind a) (Tells c a.toList) :=
  writes_option (by rw [tparams]) fun n found => each n found ind

theorem writes_targs (each : ∀ n, a = some n → WritesAs c n .targs) (ind : String) :
    Writes (strayRow a.toList) (targs ind a) (Tells c a.toList) :=
  writes_option (by rw [targs]) fun n found => each n found ind

theorem writes_annot (each : ∀ n, a = some n → WritesAs c n .annot) (ind : String) :
    Writes (strayRow a.toList) (annot ind a) (Tells c a.toList) :=
  writes_option (by rw [annot]) fun n found => each n found ind

theorem writes_ty? (each : ∀ n, a = some n → WritesAs c n .type) (ind : String) :
    Writes (strayRow a.toList) (ty? ind a) fun text => TellsAny c a.toList text.toList :=
  writes_option (by rw [ty?]) fun n found => by
    rw [ty?]
    exact (each n found ind).map fun t text heard => by simpa using text heard

theorem writes_binding? (each : ∀ n, a = some n → WritesAs c n .binding) (ind : String) :
    Writes (strayRow a.toList) (binding? ind a) fun text => TellsAny c a.toList text.toList :=
  writes_option (by rw [binding?]) fun n found => by
    rw [binding?]
    exact (each n found ind).map fun t text heard => by simpa using text heard

theorem writes_init? (each : ∀ n, a = some n → WritesAs c n .expr) (ind : String) :
    Writes (strayRow a.toList) (init? ind a) fun text => TellsAny c a.toList text.toList :=
  writes_option (by rw [init?]) fun n found => by
    rw [init?]
    exact (each n found ind).map fun t text heard => by simp [text heard]

/-- Every substitution of a template is printed, since a text stands behind each. -/
theorem writes_holes {quasis : List String} (each : ∀ n ∈ ns, WritesAs c n .expr) (ind : String)
    (enough : quasis.length = ns.length) : Writes (strayRow ns) (holes ind ns quasis) (TellsAny c ns) := by
  induction ns generalizing quasis with
  | nil =>
    rw [holes]
    · exact .ok fun heard => absurd heard not_heard_nil
    · simp
  | cons n ns ih =>
    cases quasis with
    | nil => cases enough
    | cons q quasis =>
      obtain ⟨first, rest⟩ := List.forall_mem_cons.mp each
      rw [holes]
      refine Writes.of_eq ((first ind).bind fun t text => (ih rest (Nat.succ.inj enough)).map
        fun ts later heard => ?_) (strayRow_append [n] ns).symm
      rcases heard_cons.mp heard with here | there
      · simp [holeText, text (by simp [here])]
      · simp [later there]

end Parts

/-! ## Types -/

section Types

variable {f : TsForm Node}

theorem allStrays_ts : Node.allStrays ⟨i, .ts f⟩ = strayRow (f.slots.map (·.2)) := by
  rw [Node.allStrays_eq, Node.children, Form.children_eq_slots (by simp)]
  rfl

/-- A comment kept in a type is kept in one of its parts, or its members carry it. -/
theorem heard_ts (heard : Heard c [⟨i, .ts f⟩]) :
    (∃ n ∈ Node.rows ⟨i, .ts f⟩, n.Carries c) ∨ Heard c (f.slots.map (·.2)) := by
  have voiced : Voiced c ⟨i, .ts f⟩ := by simpa using heard
  cases voiced with
  | row row own => exact .inl ⟨_, row, own⟩
  | branch branch => exact absurd branch List.not_mem_nil
  | within shown inner =>
    refine .inr ⟨_, ?_, inner⟩
    change _ ∈ Node.children ⟨i, .ts f⟩ at shown
    rwa [Node.children, Form.children_eq_slots (by simp)] at shown

theorem tells_ts {text : String} (bare : Node.rows ⟨i, .ts f⟩ = [])
    (tells : Tells c (f.slots.map (·.2)) text) : Tells c [⟨i, .ts f⟩] text := by
  intro heard
  refine tells ((heard_ts heard).resolve_left ?_)
  rintro ⟨n, row, -⟩
  exact absurd row (by simp [bare])

/-- A type is printed with its parts, if it has no members. -/
theorem writes_ts {x : Except Failure String} {ns : List Node} (bare : Node.rows ⟨i, .ts f⟩ = [])
    (writes : Writes (strayRow ns) x (Tells c ns)) (parts : f.slots.map (·.2) = ns) :
    Writes (strayRow [⟨i, .ts f⟩]) x (Tells c [⟨i, .ts f⟩]) := by
  subst parts
  refine (writes.imp fun _ => tells_ts bare).of_eq ?_
  rw [strayRow_cons, allStrays_ts]
  exact (List.append_nil _).symm

theorem writesType {tps rest : Option Node} {ps : List Node} {ret : Node}
    (slots : ∀ s ∈ (TsForm.function tps ps rest ret).slots, WritesAs c s.2 s.1) :
    WritesType c tps ps rest ret := by
  simp only [TsForm.slots, List.forall_mem_append, List.forall_mem_cons, Role.forall_mem_for?,
    Role.forall_mem_forAll] at slots
  obtain ⟨⟨⟨tps_text, ps_text⟩, rest_text⟩, ret_text, -⟩ := slots
  exact ⟨writes_tparams tps_text, writes_sigParams ps_text, writes_sigRest rest_text, ret_text⟩

/-- A text with the head of a function type in it holds the comments of the function type. -/
theorem writes_fnHead {tps rest : Option Node} {ps : List Node} {ret : Node}
    (heads : WritesType c tps ps rest ret) (ind : String)
    {k : String → List String → List String → String → String}
    (holds : ∀ s ts us t, Holds c s ∨ HoldsAny c (ts ++ us) ∨ Holds c t → Holds c (k s ts us t)) :
    Writes (strayRow ((TsForm.function tps ps rest ret).slots.map (·.2)))
      (tparams ind tps >>= fun s => sigParams ind ps >>= fun ts => sigRest ind rest >>= fun us =>
        ty ind ret >>= fun t => pure (k s ts us t))
      (Tells c ((TsForm.function tps ps rest ret).slots.map (·.2))) := by
  refine Writes.of_eq ((heads.tparams ind).bind fun s first => (heads.params ind).bind fun ts row =>
    (heads.rest ind).bind fun us last => (heads.ret ind).map fun t second => ?_) (by simp [TsForm.slots])
  simp only [TsForm.slots, List.map_append, Role.for?_snd, Role.forAll_snd, List.map_cons, List.map_nil,
    tells_append]
  have whole := holds s ts us t
  exact ⟨⟨⟨first.imp fun held => whole (.inl held),
    row.imp fun held => whole (.inr (.inl (holdsAny_append.mpr (.inl held))))⟩,
    last.imp fun held => whole (.inr (.inl (holdsAny_append.mpr (.inr held))))⟩,
    second.imp fun held => whole (.inr (.inr held))⟩

/-- The text of a converted type holds its comments. -/
theorem writes_ty (slots : ∀ s ∈ f.slots, WritesAs c s.2 s.1) (role : .type ∈ f.roles ∨ .name ∈ f.roles)
    (ind : String) : Writes (strayRow [⟨i, .ts f⟩]) (ty ind ⟨i, .ts f⟩) (Tells c [⟨i, .ts f⟩]) := by
  cases f with
  | keyword | literal =>
    rw [ty]
    exact writes_ts rfl .none rfl
  | array | keyOf | typeOf | qualified =>
    rw [ty]
    exact writes_ts rfl ((slots _ List.mem_cons_self ind).one fun t held => by simp [held]) rfl
  | tuple es =>
    rw [ty]
    exact writes_ts rfl ((writes_tys (Role.forall_mem_forAll.mp slots) 0 ind).one fun ts held => by simp [held])
      (Role.forAll_snd _ _)
  | union | intersection =>
    rw [ty]
    exact writes_ts rfl ((writes_tys (Role.forall_mem_forAll.mp slots) _ ind).one fun ts => holds_intercalate)
      (Role.forAll_snd _ _)
  | typeLiteral ms =>
    rw [ty]
    refine Writes.of_eq ((writes_typeMembers (Role.forall_mem_forAll.mp slots) _).map fun ts row heard => ?_)
      (by simp [allStrays_ts, TsForm.slots])
    refine holds_membersText row.1 ((heard_ts heard).imp_right fun inner => row.2 ?_)
    simpa [TsForm.slots] using inner
  | mapped | indexed =>
    simp only [TsForm.slots, List.forall_mem_cons] at slots
    rw [ty]
    refine writes_ts rfl ((slots.1 ind).two (slots.2.1 ind) fun s t held => ?_) rfl
    rcases held with held | held <;> simp [held]
  | ref id args =>
    simp only [TsForm.slots, List.forall_mem_cons, Role.forall_mem_for?] at slots
    rw [ty]
    refine writes_ts rfl ((slots.1 ind).two (writes_targs slots.2 ind) fun s t held => ?_) (by simp [TsForm.slots])
    rcases held with held | held <;> simp [held]
  | function tps ps rest ret =>
    rw [ty]
    refine writes_ts rfl (writes_fnHead (writesType slots) ind fun s ts us t held => ?_) rfl
    rcases held with held | held | held <;> simp [held]
  | _ => simp [TsForm.roles, Role.ofExpr] at role

/-- An expression is told as a default export, if it is no function. -/
theorem writes_default {n : Node} (text : WritesAs c n .expr)
    (notFunction : ∀ name tps ps ret content isAsync isExpr,
      n.form ≠ .expr (.function name tps ps ret content isAsync isExpr))
    (notClass : ∀ name tps parent args parents members,
      n.form ≠ .stmt (.classDecl name tps parent args parents members)) : WritesAs c n .value := by
  intro ind i
  rcases n with ⟨j, f⟩
  rw [stmt]
  · exact (text ind).map fun t tells => tells.imp fun held => by simp [held]
  · intro j name tps ps ret content isAsync isExpr same
    cases same
    exact notFunction _ _ _ _ _ _ _ rfl
  · intro j name tps parent args parents members same
    cases same
    exact notClass _ _ _ _ _ _ rfl

/-- An expression that is no function, in every role of an expression. -/
theorem writesAs_ofExpr {n : Node} (text : WritesAs c n .expr) (notStmt : ∀ f, n.form ≠ .stmt f)
    (notFunction : ∀ name tps ps ret content isAsync isExpr,
      n.form ≠ .expr (.function name tps ps ret content isAsync isExpr))
    (role : r ∈ Role.ofExpr) : WritesAs c n r := by
  simp only [Role.ofExpr, List.mem_cons, List.not_mem_nil, or_false] at role
  rcases role with rfl | rfl | rfl | rfl
  · exact text
  · exact text
  · exact .inr ⟨fun ss => notStmt _, text⟩
  · exact writes_default text notFunction fun _ _ _ _ _ _ => notStmt _

/-- A declaration is printed as a statement, and in the same way behind `export`. -/
theorem writesAs_declaration {n : Node} (text : WritesAs c n .stmt) (role : r ∈ [.stmt, .exported]) :
    WritesAs c n r := by
  simp only [List.mem_cons, List.not_mem_nil, or_false] at role
  rcases role with rfl | rfl <;> exact text

/-- A superclass with the type arguments behind it. -/
theorem writes_extends {α : Type} {parent args : Option Node} (sound : parent = none → args = none)
    (isExpr : ∀ n, parent = some n → WritesAs c n .expr)
    (isTargs : ∀ n, args = some n → WritesAs c n .targs) (least : Nat) (ind : String) {Q : α → Prop}
    {ss : List Node} {k : Option String → String → Except Failure α}
    (rest : ∀ p a, TellsAny c parent.toList p.toList → Tells c args.toList a → Writes ss (k p a) Q) :
    Writes (strayRow parent.toList ++ (strayRow args.toList ++ ss)) (superclass least ind parent >>= fun p =>
      if p.isSome then targs ind args >>= k p else pure "" >>= k p) Q := by
  cases parent with
  | none =>
    obtain rfl := sound rfl
    rw [superclass]
    exact rest none "" (fun heard => absurd heard not_heard_nil) tells_nil
  | some e =>
    rw [superclass, bind_assoc]
    refine (isExpr e rfl ind).bind fun t text => (writes_targs isTargs ind).bind fun a args => ?_
    exact rest _ a (fun heard => by simp [text heard]) args

/-- The parts of types, and all that holds types, hold their comments. -/
theorem writesAs_ts (sound : f.Sound) (slots : ∀ s ∈ f.slots, WritesAs c s.2 s.1) (role : r ∈ f.roles) :
    WritesAs c ⟨i, .ts f⟩ r := by
  cases f with
  | propSig key type optional readonly =>
    obtain rfl := List.mem_singleton.mp role
    intro ind
    rw [typeMember]
    exact writes_ts rfl ((slots (.type, type) List.mem_cons_self ind).one fun t held => by simp [held]) rfl
  | methodSig key fn optional =>
    obtain rfl := List.mem_singleton.mp role
    obtain ⟨j, tps, ps, rest, ret, rfl, heads⟩ := slots (.fnType, fn) List.mem_cons_self
    intro ind
    rw [typeMember]
    refine writes_ts rfl (writes_ts (i := j) rfl (writes_fnHead heads ind fun s ts us t held => ?_) rfl) rfl
    rcases held with held | held | held <;> simp [held]
  | indexSig name key value readonly =>
    obtain rfl := List.mem_singleton.mp role
    simp only [TsForm.slots, List.forall_mem_cons] at slots
    intro ind
    rw [typeMember]
    refine writes_ts rfl ((slots.1 ind).two (slots.2.1 ind) fun s t held => ?_) rfl
    rcases held with held | held <;> simp [held]
  | param name type optional =>
    obtain rfl := List.mem_singleton.mp role
    have text := slots (.type, type) List.mem_cons_self
    refine ⟨fun ind ns row => ?_, fun ind => ?_⟩
    · rw [sigParams]
      refine Writes.of_eq ((text ind).bind fun t first => row.map fun ts later heard => ?_)
        (by simp [allStrays_ts, TsForm.slots])
      rcases heard_cons.mp heard with here | there
      · have held : Holds c t := tells_ts (f := .param name type optional) rfl first (by simpa using here)
        simp [held]
      · simp [later there]
    · rw [sigRest]
      refine Writes.of_eq ((text ind).map fun t first heard => ?_) (by simp [allStrays_ts, TsForm.slots])
      have held : Holds c t := tells_ts (f := .param name type optional) rfl first heard
      simp [held]
  | tparam name bound default =>
    obtain rfl := List.mem_singleton.mp role
    simp only [TsForm.slots, List.forall_mem_append, Role.forall_mem_for?] at slots
    intro ind ns row
    rw [tparamList]
    refine Writes.of_eq ((writes_ty? slots.1 ind).bind fun s first =>
      (writes_ty? slots.2 ind).bind fun t second =>
      row.map fun ts later heard => ?_) (by simp [allStrays_ts, TsForm.slots])
    rcases heard_cons.mp heard with here | there
    · have inner := (heard_ts (heard_cons.mpr (.inl here))).resolve_left (by simp [Node.rows])
      simp only [TsForm.slots, List.map_append, Role.for?_snd, heard_append] at inner
      rcases inner with inner | inner
      · simp [first inner]
      · simp [second inner]
    · simp [later there]
  | tparams ps =>
    obtain rfl := List.mem_singleton.mp role
    intro ind
    rw [tparams]
    exact writes_ts rfl ((writes_front (by rw [tparamList]) fun n member =>
      Role.forall_mem_forAll.mp slots n member ind).one fun ts held => by simp [held]) (Role.forAll_snd _ _)
  | targs types =>
    obtain rfl := List.mem_singleton.mp role
    intro ind
    rw [targs]
    refine writes_ts rfl ((writes_tys (Role.forall_mem_forAll.mp slots) 0 ind).map fun ts row heard => ?_)
      (Role.forAll_snd _ _)
    have filled : types.isEmpty = false := by
      cases types with
      | nil => exact absurd heard not_heard_nil
      | cons => rfl
    simp [filled, row heard]
  | annot type =>
    obtain rfl := List.mem_singleton.mp role
    intro ind
    rw [annot]
    exact writes_ts rfl ((slots (.type, type) List.mem_cons_self ind).one fun t held => by simp [held]) rfl
  | heritage id args =>
    obtain rfl := List.mem_singleton.mp role
    simp only [TsForm.slots, List.forall_mem_cons, Role.forall_mem_for?] at slots
    intro ind
    rw [heritage]
    refine writes_ts rfl ((slots.1 ind).two (writes_targs slots.2 ind) fun s t held => ?_) (by simp [TsForm.slots])
    rcases held with held | held <;> simp [held]
  | typeAlias name tps type declare =>
    simp only [TsForm.slots, List.forall_mem_append, List.forall_mem_cons, Role.forall_mem_for?] at slots
    refine writesAs_declaration (fun ind => ?_) role
    rw [stmt]
    refine writes_ts rfl ((writes_tparams slots.1 ind).two (slots.2.1 ind) fun s t held => ?_)
      (by simp [TsForm.slots])
    rcases held with held | held <;> simp [held]
  | interface name tps parents members declare =>
    simp only [TsForm.slots, List.forall_mem_append, Role.forall_mem_for?, Role.forall_mem_forAll] at slots
    refine writesAs_declaration (fun ind => ?_) role
    rw [stmt]
    refine Writes.of_eq ((writes_tparams slots.1.1 ind).bind fun s first =>
      (writes_heritages slots.1.2 ind).bind fun ts row =>
        (writes_typeMembers slots.2 _).map fun us rows heard => ?_) (by simp [allStrays_ts, TsForm.slots])
    rcases heard_ts heard with own | inner
    · simp [holds_membersText rows.1 (.inl own)]
    · simp only [TsForm.slots, List.map_append, Role.for?_snd, Role.forAll_snd, heard_append] at inner
      rcases inner with (inner | inner) | inner
      · simp [first inner]
      · have held := row.2 inner
        have filled : ts.isEmpty = false := by
          cases ts with
          | nil => exact absurd held not_holdsAny_nil
          | cons => rfl
        simp [filled, held]
      · simp [holds_membersText rows.1 (.inr (rows.2 inner))]
  | declareVar kind name annot =>
    refine writesAs_declaration (fun ind => ?_) role
    rw [stmt]
    exact writes_ts rfl ((writes_annot (Role.forall_mem_for?.mp slots) ind).one fun t held => by simp [held])
      (Role.for?_snd _ _)
  | declareFunction name tps ps rest ret =>
    refine writesAs_declaration (fun ind => ?_) role
    rw [stmt]
    refine writes_ts rfl (writes_fnHead (writesType slots) ind fun s ts us t held => ?_) rfl
    rcases held with held | held | held <;> simp [held]
  | declareClass name tps parent args =>
    simp only [TsForm.slots, List.forall_mem_append, Role.forall_mem_for?] at slots
    refine writesAs_declaration (fun ind => ?_) role
    rw [stmt]
    refine writes_ts rfl (Writes.of_eq ((writes_tparams slots.1.1 ind).bind fun s first =>
      writes_extends sound slots.1.2 slots.2 0 ind fun p a super arguments => .ok ?_) (by simp [TsForm.slots])) rfl
    simp only [TsForm.slots, List.map_append, Role.for?_snd, tells_append]
    exact ⟨⟨first.imp fun held => by simp [held], super.imp fun held => by simp [held]⟩,
      arguments.imp fun held => by simp [held]⟩
  | cast e type =>
    simp only [TsForm.slots, List.forall_mem_cons] at slots
    refine writesAs_ofExpr (fun ind => ?_) (by simp) (by simp) role
    rw [bare]
    refine writes_ts rfl ((slots.1 ind).two (slots.2.1 ind) fun s t held => ?_) rfl
    rcases held with held | held <;> simp [held]
  | function tps ps rest ret =>
    simp only [TsForm.roles, List.mem_cons, List.not_mem_nil, or_false] at role
    rcases role with rfl | rfl
    · exact writes_ty slots (.inl List.mem_cons_self)
    · exact ⟨i, tps, ps, rest, ret, rfl, writesType slots⟩
  | qualified =>
    obtain rfl := List.mem_singleton.mp role
    exact writes_ty slots (.inr role)
  | _ =>
    obtain rfl := List.mem_singleton.mp role
    exact writes_ty slots (.inl role)

end Types

end Retype
