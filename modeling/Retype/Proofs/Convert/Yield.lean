import Retype.Proofs.Pass.After

/-!
# Conversions that always give the same

A conversion meets trees that some passes have gone through already, and is told what
becomes of the nodes that it keeps.  `Yields` says that neither matters: whatever topics
were settled before, and whatever becomes of kept nodes, as long as converted trees stay
as they are, the conversion succeeds with one and the same value.

The lemmas here say how conversions in a row and over lists yield their values, and
which converted trees the helpers of the conversion build.
-/

namespace Retype.Convert

open Node (Converted Parsed after)
open Outcome (fail warn warnIf ofExcept attempt)

variable {α β : Type}

/-- Converted trees stay as they are. -/
def Fixes (keep : Node → Node) : Prop := ∀ n : Node, n.Formed Converted → keep n = n

theorem fixes_id : Fixes id := fun _ _ => rfl

theorem fixes_settle (t : Topic) (depth : Nat) : Fixes (t.rule.settle depth) :=
  fun _ formed => Node.settle_of_converted formed

/-- A conversion of the trees after some topics gives one and the same value, and the
value meets a condition. -/
def Yields (convert : (Node → Node) → List Topic → Outcome α) (P : α → Prop) : Prop :=
  ∃ a, P a ∧ ∀ keep S, Fixes keep → (convert keep S).result = .ok a

section Yields

variable {convert : (Node → Node) → List Topic → Outcome α}
  {next : (Node → Node) → List Topic → α → Outcome β} {P : α → Prop} {Q : β → Prop}

theorem yields_pure {a : α} (holds : P a) : Yields (fun _ _ => pure a) P :=
  ⟨a, holds, fun _ _ _ => rfl⟩

theorem yields_bind (first : Yields convert P)
    (second : ∀ a, P a → Yields (fun keep S => next keep S a) Q) :
    Yields (fun keep S => convert keep S >>= next keep S) Q := by
  obtain ⟨a, holds, result⟩ := first
  obtain ⟨b, good, final⟩ := second a holds
  refine ⟨b, good, fun keep S fixes => ?_⟩
  dsimp only
  rw [Outcome.bind_of_ok (result keep S fixes)]
  exact final keep S fixes

theorem yields_map {f : α → β} (first : Yields convert P) (holds : ∀ a, P a → Q (f a)) :
    Yields (fun keep S => do return f (← convert keep S)) Q :=
  yields_bind first fun a good => yields_pure (holds a good)

theorem yields_of_eq {other : (Node → Node) → List Topic → Outcome α} (first : Yields convert P)
    (same : ∀ keep S, other keep S = convert keep S) : Yields other P := by
  obtain ⟨a, holds, result⟩ := first
  exact ⟨a, holds, fun keep S fixes => by rw [same, result keep S fixes]⟩

theorem yields_mono {R : α → Prop} (first : Yields convert P) (weaker : ∀ a, P a → R a) :
    Yields convert R := by
  obtain ⟨a, holds, result⟩ := first
  exact ⟨a, weaker a holds, result⟩

/-- Warnings change no value. -/
theorem yields_after_warning (report : List Topic → Outcome Unit)
    {rest : (Node → Node) → List Topic → Outcome α} (quiet : ∀ S, (report S).result = .ok ())
    (first : Yields rest P) : Yields (fun keep S => do report S; rest keep S) P := by
  obtain ⟨a, holds, result⟩ := first
  refine ⟨a, holds, fun keep S fixes => ?_⟩
  dsimp only
  rw [Outcome.bind_of_ok (quiet S)]
  exact result keep S fixes

end Yields

theorem warnIf_result (condition : Bool) (loss : Loss) (pos : Int) :
    (warnIf condition loss pos).result = .ok () := by
  cases condition <;> rfl

theorem forM_warn_result (ns : List Node) (loss : Loss) :
    (ns.forM fun n => warn loss n.pos : Outcome Unit).result = .ok () := by
  induction ns with
  | nil => rfl
  | cons n ns ih =>
    change (warn loss n.pos >>= fun _ => ns.forM fun n => warn loss n.pos).result = .ok ()
    rw [Outcome.bind_of_ok (show (warn loss n.pos).result = .ok () from rfl)]
    exact ih

theorem warnUnmapped_result (members : List Node) : (warnUnmapped members).result = .ok () := by
  rw [warnUnmapped, Outcome.bind_of_ok (forM_warn_result _ _)]
  exact forM_warn_result _ _

/-! ## Converted trees -/

theorem plays_ts_iff {pos : Int} {f : TsForm Node} {r : Role} :
    (Node.ts pos f).Plays Converted r
      ↔ r ∈ f.roles ∧ f.Sound ∧ ∀ s ∈ f.slots, s.2.Plays Converted s.1 := by
  rw [Node.Plays, Node.formed_iff]
  exact and_congr_right fun _ => and_iff_right (.inl ⟨f, rfl⟩)

/-- What is known about the place of a converted node does not matter. -/
theorem plays_of_form {m n : Node} {r : Role} (plays : n.Plays Converted r)
    (same : m.form = n.form) : m.Plays Converted r := by
  rw [Node.Plays, Node.formed_iff, Converted, same]
  rw [Node.Plays, Node.formed_iff, Converted] at plays
  exact plays

theorem plays_ident {i : Info} {name : String} {r : Role}
    (role : r ∈ (ExprForm.ident name : ExprForm Node).roles) :
    (⟨i, .expr (.ident name)⟩ : Node).Plays Converted r := by
  refine ⟨role, Node.formed_iff.mpr ⟨.inr (.inl ⟨name, rfl⟩), trivial, ?_⟩⟩
  simp [Form.slots, ExprForm.slots]

/-- A TypeScript node that comes of a layer without comments takes its place. -/
theorem become_ts {n : Node} {f : TsForm Node} (plain : n.info = { pos := n.pos }) :
    n.become (.ts n.pos f) = .ts n.pos f := by
  rcases n with ⟨⟨pos, comments, trailing, blank⟩, form⟩
  cases plain
  rfl

/-! ## Names -/

/-- A name of the source is an identifier, or an identifier behind a name. -/
theorem name_cases {n : Node} (plays : n.Plays Parsed .name) :
    (∃ i name, n = ⟨i, .expr (.ident name)⟩)
      ∨ ∃ i left name, n = ⟨i, .flow (.qualified left name)⟩ ∧ left.Plays Parsed .name := by
  obtain ⟨role, formed⟩ := plays
  obtain ⟨parsed, -, slots⟩ := Node.formed_iff.mp formed
  rcases n with ⟨i, f⟩
  cases f with
  | flow f =>
    cases f with
    | qualified left name => exact .inr ⟨i, left, name, rfl, slots (.name, left) (by simp [Form.slots, FlowForm.slots])⟩
    | _ => simp [Form.roles, FlowForm.roles, Role.ofExpr] at role
  | ts f => exact absurd rfl (parsed.1 f)
  | expr f =>
    cases f with
    | ident name => exact .inl ⟨i, name, rfl⟩
    | _ => simp [Form.roles, ExprForm.roles, Role.ofExpr] at role
  | stmt f => cases f <;> simp [Form.roles, StmtForm.roles] at role
  | foreign kind ps => simp [Form.roles] at role

/-- No topic is about a name. -/
theorem after_name {S : List Topic} {n : Node} (plays : n.Plays Parsed .name) : n.after S = n := by
  induction n using Node.childInduction with
  | step n ih =>
    rcases name_cases plays with ⟨i, name, rfl⟩ | ⟨i, left, name, rfl, inner⟩
    · exact Node.after_of_topic_none rfl
    · have same := ih left (by simp [Node.children, Form.children, Form.parts, FlowForm.parts]) inner
      rw [Node.after_of_topic_none rfl]
      simp [Node.layer, Node.withForm, FlowForm.map, FlowForm.mapM, same]

/-- What a name becomes in type position, and in value position. -/
theorem entity_spec {n : Node} (plays : n.Plays Parsed .name) :
    ∃ u e : Node, u.Plays Converted .name ∧ e.Plays Converted .expr
      ∧ (∀ keep, entity keep n = .ok u) ∧ (∀ keep, Fixes keep → entity keep u = .ok u)
      ∧ memberExpr n = .ok e ∧ memberExpr u = .ok e := by
  induction n using Node.childInduction with
  | step n ih =>
    rcases name_cases plays with ⟨i, name, rfl⟩ | ⟨i, left, name, rfl, inner⟩
    · have named : ∀ r ∈ [Role.name, .expr], r ∈ (ExprForm.ident name : ExprForm Node).roles := by
        simp [ExprForm.roles, Role.ofExpr]
      refine ⟨⟨i, .expr (.ident name)⟩, ⟨i, .expr (.ident name)⟩, plays_ident (named _ (by simp)),
        plays_ident (named _ (by simp)), ?_, ?_, rfl, rfl⟩
      · exact fun _ => by rw [entity]
      · exact fun _ _ => by rw [entity]
    · obtain ⟨u, e, converted, isExpr, entityLeft, -, memberLeft, memberNew⟩ :=
        ih left (by simp [Node.children, Form.children, Form.parts, FlowForm.parts]) inner
      have new : (Node.ts i.pos (.qualified u name)).Plays Converted .name := by
        rw [plays_ts_iff]
        simp [TsForm.roles, TsForm.Sound, TsForm.slots, converted]
      refine ⟨.ts i.pos (.qualified u name), .expr i.pos (.member e name false), new, ?_, ?_, ?_,
        ?_, ?_⟩
      · refine ⟨by simp [Node.expr, Node.plain, Form.roles, ExprForm.roles, Role.ofExpr],
          Node.formed_iff.mpr ⟨.inr (.inr ⟨e, name, rfl⟩), trivial, ?_⟩⟩
        simp [Node.expr, Node.plain, Form.slots, ExprForm.slots, isExpr]
      · intro keep
        rw [entity, entityLeft]
        rfl
      · intro keep fixes
        rw [Node.ts, Node.plain, entity]
        exact congrArg Except.ok (fixes _ new.2)
      · rw [memberExpr, memberLeft]
        rfl
      · rw [Node.ts, Node.plain, memberExpr, memberNew]
        rfl

end Retype.Convert
