import Retype.Proofs.Printer.Type

/-!
# Printing expressions

Every layer of an expression is printed in each of its roles, if its parts are, and its text holds the
comments kept in it.
-/

namespace Retype

open Printer

variable {c : String} {i : Info} {r : Role}

section Expressions

variable {f : ExprForm Node}

theorem allStrays_expr : Node.allStrays ⟨i, .expr f⟩ = strayRow (f.slots.map (·.2)) := by
  rw [Node.allStrays_eq, Node.children, Form.children_eq_slots (by simp)]
  rfl

theorem allStrays_block {ss : List Node} : Node.allStrays ⟨i, .stmt (.block ss)⟩ = strayRow ss := by
  rw [Node.allStrays_eq, Node.children, Form.children_eq_slots (by simp), Form.slots,
    StmtForm.slots, Role.forAll_snd]
  rfl

/-- A comment kept in an expression is kept in one of its parts, or its properties carry it. -/
theorem heard_expr (heard : Heard c [⟨i, .expr f⟩]) :
    (∃ n ∈ Node.rows ⟨i, .expr f⟩, n.Carries c) ∨ Heard c (f.slots.map (·.2)) := by
  have voiced : Voiced c ⟨i, .expr f⟩ := by simpa using heard
  cases voiced with
  | row row own => exact .inl ⟨_, row, own⟩
  | branch branch => exact absurd branch List.not_mem_nil
  | @within _ m shown inner =>
    refine .inr ⟨_, ?_, inner⟩
    have child : m ∈ Node.children ⟨i, .expr f⟩ := by
      cases f with
      | prop key value shorthand =>
        cases shorthand with
        | true => exact absurd shown List.not_mem_nil
        | false => exact shown
      | _ => exact shown
    rwa [Node.children, Form.children_eq_slots (by simp)] at child

theorem tells_expr {text : String} (bare : Node.rows ⟨i, .expr f⟩ = [])
    (tells : Tells c (f.slots.map (·.2)) text) : Tells c [⟨i, .expr f⟩] text := by
  intro heard
  refine tells ((heard_expr heard).resolve_left ?_)
  rintro ⟨n, row, -⟩
  exact absurd row (by simp [bare])

/-- An expression is printed with its parts, if it has no properties. -/
theorem writes_expr {x : Except Failure String} {ns : List Node} (bare : Node.rows ⟨i, .expr f⟩ = [])
    (writes : Writes (strayRow ns) x (Tells c ns)) (parts : f.slots.map (·.2) = ns) :
    Writes (strayRow [⟨i, .expr f⟩]) x (Tells c [⟨i, .expr f⟩]) := by
  subst parts
  refine (writes.imp fun _ => tells_expr bare).of_eq ?_
  rw [strayRow_cons, allStrays_expr]
  exact (List.append_nil _).symm

theorem writesHead {tps ret : Option Node} {ps : List Node}
    (isTparams : ∀ n, tps = some n → WritesAs c n .tparams) (isParams : ∀ n ∈ ps, WritesAs c n .param)
    (isAnnot : ∀ n, ret = some n → WritesAs c n .annot) : WritesHead c tps ps ret :=
  ⟨writes_tparams isTparams, writes_params isParams, writes_annot isAnnot⟩

/-- Something with the head of a function in front. -/
theorem writes_head {tps ret : Option Node} {ps : List Node} (head : WritesHead c tps ps ret) (ind : String)
    {Q : String → Prop} {ss : List Node} {k : String → List String → String → Except Failure String}
    (rest : ∀ s ts u, Tells c (tps.toList ++ ps ++ ret.toList) (signatureText s ts u) → Writes ss (k s ts u) Q) :
    Writes (strayRow tps.toList ++ (strayRow ps ++ (strayRow ret.toList ++ ss)))
      (tparams ind tps >>= fun s => params ind ps >>= fun ts => annot ind ret >>= k s ts) Q := by
  refine (head.tparams ind).bind fun s first => (head.params ind).bind fun ts row =>
    (head.ret ind).bind fun u last => rest s ts u ?_
  rw [tells_append, tells_append]
  exact ⟨⟨first.imp fun held => holds_signatureText (.inl held),
    row.imp fun held => holds_signatureText (.inr (.inl held))⟩,
    last.imp fun held => holds_signatureText (.inr (.inr held))⟩

theorem writes_function {tps ret : Option Node} {ps : List Node} {content : Node}
    {name : Option String} {isAsync isExpr : Bool} (head : WritesHead c tps ps ret)
    (text : ∀ ind, Writes (strayRow [content]) (body ind content) (Tells c [content])) (ind : String)
    {k : String → List String → String → String → String}
    (holds : ∀ s ts u t, Holds c (signatureText s ts u) ∨ Holds c t → Holds c (k s ts u t)) :
    Writes (strayRow [⟨i, .expr (.function name tps ps ret content isAsync isExpr)⟩])
      (tparams ind tps >>= fun s => params ind ps >>= fun ts => annot ind ret >>= fun u =>
        body ind content >>= fun t => pure (k s ts u t))
      (Tells c [⟨i, .expr (.function name tps ps ret content isAsync isExpr)⟩]) := by
  refine writes_expr rfl (Writes.of_eq (writes_head head ind fun s ts u sign =>
    (text ind).map fun t inner => ?_) (by simp [ExprForm.slots])) rfl
  simp only [ExprForm.slots, List.map_append, Role.for?_snd, Role.forAll_snd, List.map_cons, List.map_nil]
  exact tells_append.mpr ⟨sign.imp fun held => holds s ts u t (.inl held),
    inner.imp fun held => holds s ts u t (.inr held)⟩

/-- The text of a block holds the comments of its statements. -/
theorem tells_block {ss : List Node} {texts : List String} {ind : String}
    (row : texts.length = ss.length ∧ TellsAny c ss texts) :
    Tells c [⟨i, .stmt (.block ss)⟩] (blockText ind ss texts) := by
  intro heard
  have voiced : Voiced c ⟨i, .stmt (.block ss)⟩ := by simpa using heard
  refine holds_blockText row.1 ?_
  cases voiced with
  | row member own => exact .inl ⟨_, member, own⟩
  | branch branch => exact absurd branch List.not_mem_nil
  | within shown inner =>
    change _ ∈ Node.children ⟨i, .stmt (.block ss)⟩ at shown
    rw [Node.children, Form.children_eq_slots (by simp), Form.slots, StmtForm.slots,
      Role.forAll_snd] at shown
    exact .inr (row.2 ⟨_, shown, inner⟩)

/-- The text of an expression holds its comments, in each of its roles. -/
theorem writesAs_expr (sound : f.Sound) (slots : ∀ s ∈ f.slots, WritesAs c s.2 s.1) (role : r ∈ f.roles) :
    WritesAs c ⟨i, .expr f⟩ r := by
  cases f with
  | ident name =>
    have silent {text : String} : Writes (strayRow [⟨i, .expr (.ident name)⟩]) (.ok text)
        (Tells c [⟨i, .expr (.ident name)⟩]) := writes_expr rfl .none rfl
    rcases List.mem_append.mp role with other | isExpr
    · simp only [List.mem_cons, List.not_mem_nil, or_false] at other
      rcases other with rfl | rfl | rfl
      · intro ind
        rw [binding]
        exact silent
      · intro ind
        rw [ty]
        exact silent
      · exact allStrays_expr
    · refine writesAs_ofExpr (fun ind => ?_) (by simp) (by simp) isExpr
      rw [bare]
      exact silent
  | this | num | str | bool | null =>
    refine writesAs_ofExpr (fun ind => ?_) (by simp) (by simp) role
    rw [bare]
    exact writes_expr rfl .none rfl
  | template quasis exprs =>
    refine writesAs_ofExpr (fun ind => ?_) (by simp) (by simp) role
    have enough : quasis.tail.length = exprs.length := by
      rw [List.length_tail, show quasis.length = exprs.length + 1 from sound, Nat.add_sub_cancel]
    rw [bare]
    exact writes_expr rfl ((writes_holes (Role.forall_mem_forAll.mp slots) ind enough).one fun ts held => by
      simp [templateText, holds_join held]) (Role.forAll_snd _ _)
  | array elems =>
    refine writesAs_ofExpr (fun ind => ?_) (by simp) (by simp) role
    rw [bare]
    exact writes_expr rfl ((writes_exprs (Role.forall_mem_forAll.mp slots) 1 ind).one fun ts held => by simp [held])
      (Role.forAll_snd _ _)
  | object props =>
    refine writesAs_ofExpr (fun ind => ?_) (by simp) (by simp) role
    rw [bare]
    refine Writes.of_eq ((writes_objectProps (Role.forall_mem_forAll.mp slots) _).map fun ts row heard => ?_)
      (by simp [allStrays_expr, ExprForm.slots])
    refine holds_membersText row.1 ((heard_expr heard).imp_right fun inner => row.2 ?_)
    rwa [ExprForm.slots, Role.forAll_snd] at inner
  | spread e =>
    have text := slots (.expr, e) List.mem_cons_self
    simp only [ExprForm.roles, List.mem_cons, List.not_mem_nil, or_false] at role
    rcases role with rfl | rfl
    · intro ind
      rw [bare]
      exact writes_expr rfl ((text ind).one fun t held => by simp [held]) rfl
    · intro ind
      rw [objectProp]
      exact writes_expr rfl ((text ind).one fun t held => by simp [held]) rfl
  | prop key value shorthand =>
    obtain rfl := List.mem_singleton.mp role
    have text := slots _ List.mem_cons_self
    intro ind
    rw [objectProp]
    cases shorthand with
    | true =>
      refine (Writes.ok fun heard => ?_).of_eq (by simpa [allStrays_expr, ExprForm.slots] using text.symm)
      have voiced : Voiced c ⟨i, .expr (.prop key value true)⟩ := by simpa using heard
      obtain ⟨m, shown, -⟩ := voiced.exists_shown rfl rfl
      exact absurd shown List.not_mem_nil
    | false =>
      exact writes_expr rfl ((text ind).one fun t held => by simp [held]) rfl
  | computedProp key value =>
    obtain rfl := List.mem_singleton.mp role
    simp only [ExprForm.slots, List.forall_mem_cons] at slots
    intro ind
    rw [objectProp]
    refine writes_expr rfl ((slots.1 ind).two (slots.2.1 ind) fun s t held => ?_) rfl
    rcases held with held | held <;> simp [held]
  | method key fn =>
    obtain rfl := List.mem_singleton.mp role
    obtain ⟨j, name, tps, ps, ret, content, isAsync, isExpr, rfl, head, text⟩ :=
      slots (.method, fn) List.mem_cons_self
    intro ind
    rw [objectProp]
    refine writes_expr rfl (writes_function (i := j) head text ind fun s ts u t held => ?_) rfl
    rcases held with held | held <;> simp [held]
  | function name tps ps ret content isAsync isExpr =>
    simp only [ExprForm.slots, List.forall_mem_append, List.forall_mem_cons, Role.forall_mem_for?,
      Role.forall_mem_forAll] at slots
    obtain ⟨⟨⟨isTparams, isParams⟩, isAnnot⟩, text, -⟩ := slots
    have head := writesHead isTparams isParams isAnnot
    have expr_text : WritesAs c ⟨i, .expr (.function name tps ps ret content isAsync isExpr)⟩ .expr := by
      intro ind
      rw [bare]
      refine writes_function head text ind fun s ts u t held => ?_
      rcases held with held | held <;> simp [held]
    have stmt_text : WritesAs c ⟨i, .expr (.function name tps ps ret content isAsync isExpr)⟩ .stmt := by
      intro ind
      rw [stmt]
      refine writes_function head text ind fun s ts u t held => ?_
      rcases held with held | held <;> simp [held]
    simp only [ExprForm.roles, Role.ofExpr, List.cons_append, List.nil_append, List.mem_cons,
      List.not_mem_nil, or_false] at role
    rcases role with rfl | rfl | rfl | rfl | rfl | rfl | rfl
    · exact stmt_text
    · exact stmt_text
    · exact ⟨i, name, tps, ps, ret, content, isAsync, isExpr, rfl, head, text⟩
    · exact expr_text
    · exact expr_text
    · exact .inr ⟨by simp, expr_text⟩
    · intro ind j
      rw [stmt]
      exact (stmt_text ind).map fun t tells => tells.imp fun held => by simp [held]
  | arrow tps ps ret content isAsync =>
    simp only [ExprForm.slots, List.forall_mem_append, List.forall_mem_cons, Role.forall_mem_for?,
      Role.forall_mem_forAll] at slots
    obtain ⟨⟨⟨isTparams, isParams⟩, isAnnot⟩, text, -⟩ := slots
    have head := writesHead isTparams isParams isAnnot
    refine writesAs_ofExpr (fun ind => ?_) (by simp) (by simp) role
    have parts {s t whole : String} (sign : Tells c (tps.toList ++ ps ++ ret.toList) s)
        (inner : Tells c [content] t) (holds : Holds c s ∨ Holds c t → Holds c whole) :
        Tells c ((ExprForm.arrow tps ps ret content isAsync).slots.map (·.2)) whole := by
      simp only [ExprForm.slots, List.map_append, Role.for?_snd, Role.forAll_snd, List.map_cons,
        List.map_nil]
      exact tells_append.mpr ⟨sign.imp fun held => holds (.inl held), inner.imp fun held => holds (.inr held)⟩
    rcases text with ⟨j, ss, rfl, rows⟩ | ⟨notBlock, text⟩
    · rw [bare]
      refine writes_expr rfl (Writes.of_eq (writes_head head ind fun s ts u sign =>
        (rows _).map fun texts row => ?_) (by simp [ExprForm.slots, allStrays_block])) rfl
      have content : Tells c [⟨j, .stmt (.block ss)⟩] (blockText ind ss texts) := tells_block row
      refine parts sign content fun held => ?_
      rcases held with held | held <;> simp [held]
    · rw [bare]
      · refine writes_expr rfl (Writes.of_eq (writes_head head ind fun s ts u sign =>
          (text ind).map fun t inner => parts sign inner fun held => ?_) (by simp [ExprForm.slots])) rfl
        rcases held with held | held
        · simp [held]
        · split <;> simp [held]
      · rintro j ss rfl
        exact notBlock ss rfl
  | param binding annot optional default rest =>
    obtain rfl := List.mem_singleton.mp role
    simp only [ExprForm.slots, List.forall_mem_cons, List.forall_mem_append, Role.forall_mem_for?] at slots
    intro ind ns row
    rw [params]
    refine Writes.of_eq ((slots.1 ind).bind fun s first => (writes_annot slots.2.1 ind).bind fun t second =>
      (writes_init? slots.2.2 ind).bind fun u third => row.map fun ts later heard => ?_)
      (by simp [allStrays_expr, ExprForm.slots])
    rcases heard_cons.mp heard with here | there
    · have inner := (heard_expr (heard_cons.mpr (.inl here))).resolve_left (by simp [Node.rows])
      simp only [ExprForm.slots, List.map_cons, List.map_append, Role.for?_snd, heard_cons,
        heard_append] at inner
      rcases inner with inner | inner | inner
      · simp [first (by simpa using inner)]
      · simp [second inner]
      · simp [third inner]
    · simp [later there]
  | pattern props =>
    obtain rfl := List.mem_singleton.mp role
    intro ind
    rw [binding]
    exact writes_expr rfl ((writes_patternProps (Role.forall_mem_forAll.mp slots) ind).one
      fun ts held => by simp [held]) (Role.forAll_snd _ _)
  | patternProp key binding default rest =>
    obtain rfl := List.mem_singleton.mp role
    simp only [ExprForm.slots, List.forall_mem_append, Role.forall_mem_for?] at slots
    intro ind ns row
    rw [patternProps]
    have parts (here : Voiced c ⟨i, .expr (.patternProp key binding default rest)⟩) :
        Heard c binding.toList ∨ Heard c default.toList := by
      have inner := (heard_expr (heard_cons.mpr (.inl here))).resolve_left (by simp [Node.rows])
      simpa only [ExprForm.slots, List.map_append, Role.for?_snd, heard_append] using inner
    cases rest with
    | true =>
      obtain ⟨rfl, rfl⟩ := sound rfl
      refine Writes.of_eq (row.map fun ts later heard => ?_) (by simp [allStrays_expr, ExprForm.slots])
      rcases heard_cons.mp heard with here | there
      · exact absurd (parts here) (by simp)
      · simp [later there]
    | false =>
      refine Writes.of_eq ((writes_binding? slots.1 ind).bind fun s first =>
        (writes_init? slots.2 ind).bind fun t second => row.map fun ts later heard => ?_)
        (by simp [allStrays_expr, ExprForm.slots])
      rcases heard_cons.mp heard with here | there
      · rcases parts here with inner | inner
        · simp [first inner]
        · simp [second inner]
      · simp [later there]
  | call callee args optional =>
    refine writesAs_ofExpr (fun ind => ?_) (by simp) (by simp) role
    simp only [ExprForm.slots, List.forall_mem_cons, Role.forall_mem_forAll] at slots
    rw [bare]
    refine writes_expr rfl ((slots.1 ind).two (writes_exprs slots.2 1 ind) fun s ts held => ?_)
      (by simp [ExprForm.slots])
    rcases held with held | held <;> simp [held]
  | construct callee types args =>
    refine writesAs_ofExpr (fun ind => ?_) (by simp) (by simp) role
    simp only [ExprForm.slots, List.forall_mem_cons, List.forall_mem_append, Role.forall_mem_for?,
      Role.forall_mem_forAll] at slots
    rw [bare]
    refine writes_expr rfl ((slots.1 ind).three (writes_targs slots.2.1 ind) (writes_exprs slots.2.2 1 ind)
      fun s t ts held => ?_) (by simp [ExprForm.slots])
    rcases held with held | held | held
    · split <;> simp [held]
    · simp [held]
    · simp [held]
  | constructBare callee types =>
    refine writesAs_ofExpr (fun ind => ?_) (by simp) (by simp) role
    simp only [ExprForm.slots, List.forall_mem_cons, Role.forall_mem_for?] at slots
    rw [bare]
    refine writes_expr rfl ((slots.1 ind).two (writes_targs slots.2 ind) fun s t held => ?_)
      (by simp [ExprForm.slots])
    rcases held with held | held
    · split <;> simp [held]
    · simp [held]
  | member | unary | paren =>
    refine writesAs_ofExpr (fun ind => ?_) (by simp) (by simp) role
    rw [bare]
    exact writes_expr rfl ((slots _ List.mem_cons_self ind).one fun t held => by simp [held]) rfl
  | update =>
    refine writesAs_ofExpr (fun ind => ?_) (by simp) (by simp) role
    rw [bare]
    refine writes_expr rfl ((slots _ List.mem_cons_self ind).one fun t held => ?_) rfl
    split <;> simp [held]
  | index | binary | assign =>
    refine writesAs_ofExpr (fun ind => ?_) (by simp) (by simp) role
    simp only [ExprForm.slots, List.forall_mem_cons] at slots
    rw [bare]
    refine writes_expr rfl ((slots.1 ind).two (slots.2.1 ind) fun s t held => ?_) rfl
    rcases held with held | held <;> simp [held]
  | cond test cons alt =>
    refine writesAs_ofExpr (fun ind => ?_) (by simp) (by simp) role
    simp only [ExprForm.slots, List.forall_mem_cons] at slots
    rw [bare]
    refine writes_expr rfl ((slots.1 ind).three (slots.2.1 ind) (slots.2.2.1 ind) fun s t u held => ?_) rfl
    rcases held with held | held | held <;> simp [held]

end Expressions

end Retype
