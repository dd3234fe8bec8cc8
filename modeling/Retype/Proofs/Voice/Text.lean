import Retype.Proofs.Printer.Prints
import Retype.Proofs.Voice.Basic

/-!
# Comments in texts

A text *holds* a comment if the comment occurs in it.  Every way to put texts together holds what one
of them holds.  `WritesAs` says of a node in a role that printing it meets its strays and nothing else, and
that its text holds every comment kept in it.  The lemmas here put the parts of a layer together.
-/

namespace Retype

open Printer

variable {α β : Type} {c : String}

/-! ## Texts -/

/-- A text holds a comment. -/
def Holds (c text : String) : Prop := c.toList <:+: text.toList

/-- One of some texts holds a comment. -/
def HoldsAny (c : String) (texts : List String) : Prop := ∃ t ∈ texts, Holds c t

section Texts

variable {a b sep : String} {texts others : List String}

/-- A comment runs across the seam of two texts. -/
def Straddles (c a b : String) : Prop := Holds c (a ++ b) ∧ ¬Holds c a ∧ ¬Holds c b

theorem holds_self : Holds c c := List.infix_refl _

/-- Two texts together hold what one of them holds.  As an equivalence it takes a text apart. -/
@[simp]
theorem holds_append : Holds c (a ++ b) ↔ Holds c a ∨ Holds c b ∨ Straddles c a b := by
  refine ⟨fun held => ?_, fun held => ?_⟩
  · by_cases left : Holds c a
    · exact .inl left
    · by_cases right : Holds c b
      · exact .inr (.inl right)
      · exact .inr (.inr ⟨held, left, right⟩)
  · rcases held with left | right | both
    · rw [Holds, String.toList_append]
      exact left.trans (List.prefix_append _ _).isInfix
    · rw [Holds, String.toList_append]
      exact right.trans (List.suffix_append _ _).isInfix
    · exact both.1

@[simp]
theorem holdsAny_append : HoldsAny c (texts ++ others) ↔ HoldsAny c texts ∨ HoldsAny c others := by
  simp [HoldsAny, or_and_right, exists_or]

@[simp]
theorem holdsAny_cons : HoldsAny c (a :: texts) ↔ Holds c a ∨ HoldsAny c texts := by
  simp [HoldsAny]

@[simp]
theorem not_holdsAny_nil : ¬HoldsAny c [] := by simp [HoldsAny]

theorem holds_join (held : HoldsAny c texts) : Holds c (String.join texts) := by
  induction texts with
  | nil => exact absurd held not_holdsAny_nil
  | cons t ts ih =>
    rw [String.join_cons]
    rcases holdsAny_cons.mp held with first | rest
    · simp [first]
    · simp [ih rest]

theorem holds_intercalate (held : HoldsAny c texts) : Holds c (sep.intercalate texts) := by
  induction texts with
  | nil => exact absurd held not_holdsAny_nil
  | cons t ts ih =>
    cases ts with
    | nil => simpa using held
    | cons u us =>
      rw [String.intercalate_cons_cons]
      rcases holdsAny_cons.mp held with first | rest
      · simp [first]
      · simp [ih rest]

/-! ## Layout -/

@[simp]
theorem holds_parenthesized (held : Holds c a) : Holds c (parenthesized a) := by
  simp [parenthesized, held]

@[simp]
theorem holds_guarded {level least : Nat} (held : Holds c a) : Holds c (guarded level least a) := by
  unfold guarded
  split <;> simp [held]

@[simp]
theorem holds_typeText {least : Nat} {t : Node} (held : Holds c a) : Holds c (typeText least t a) :=
  holds_guarded held

@[simp]
theorem holds_exprText {least : Nat} {e : Node} (held : Holds c a) : Holds c (exprText least e a) :=
  holds_guarded (by simp [held])

@[simp]
theorem holds_unaryText {op : UnaryOp} (held : Holds c a) : Holds c (unaryText op a) := by
  unfold unaryText
  split <;> simp [held]

@[simp]
theorem holds_commas (held : HoldsAny c texts) : Holds c (commas texts) := holds_intercalate held

@[simp]
theorem holds_ifSome {before : String} {text : Option String} (held : HoldsAny c text.toList) :
    Holds c (ifSome before text) := by
  cases text with
  | none => exact absurd held not_holdsAny_nil
  | some t =>
    have inner : Holds c t := by simpa using held
    simp [ifSome, inner]

@[simp]
theorem holds_nameList (held : HoldsAny c texts) : Holds c (nameList texts) := by
  cases texts with
  | nil => exact absurd held not_holdsAny_nil
  | cons t ts =>
    change Holds c ("\x7b " ++ commas (t :: ts) ++ " \x7d")
    simp [holds_commas held]

theorem holds_signatureText {tparams ret : String} {params : List String}
    (held : Holds c tparams ∨ HoldsAny c params ∨ Holds c ret) :
    Holds c (signatureText tparams params ret) := by
  unfold signatureText
  rcases held with held | held | held <;> simp [held]

theorem holds_braces {ind : String} {lines : List String} (held : HoldsAny c lines) :
    Holds c (braces ind lines) := by
  simp [braces, holds_intercalate held]

end Texts

/-! ## Lines -/

section Lines

variable {ind sep last : String} {n : Node} {ns : List Node} {texts : List String}

/-- A comment in front of a node or behind it. -/
def Node.Carries (c : String) (n : Node) : Prop := c ∈ n.comments ∨ c ∈ n.trailing

@[simp]
theorem holds_trailingText (own : c ∈ n.trailing) : Holds c (trailingText n) :=
  holds_join ⟨" " ++ c, List.mem_map_of_mem own, by simp [holds_self]⟩

theorem holdsAny_comments (own : c ∈ n.comments) : HoldsAny c (n.comments.map (ind ++ ·)) :=
  ⟨ind ++ c, List.mem_map_of_mem own, by simp [holds_self]⟩

/-- The lines of members hold their comments and what their texts hold. -/
theorem holdsAny_memberLines (length : texts.length = ns.length)
    (held : (∃ n ∈ ns, n.Carries c) ∨ HoldsAny c texts) :
    HoldsAny c (memberLines ind sep last (ns.zip texts)) := by
  induction ns generalizing texts with
  | nil => simp [List.length_eq_zero_iff.mp length] at held
  | cons n ns ih =>
    cases texts with
    | nil => cases length
    | cons t ts =>
      rw [List.zip_cons_cons, memberLines]
      have rest (held : (∃ n ∈ ns, n.Carries c) ∨ HoldsAny c ts) := ih (Nat.succ.inj length) held
      simp only [List.exists_mem_cons_iff, holdsAny_cons] at held
      rcases held with ((leading | trailing) | later) | (text | later)
      · simp [holdsAny_comments leading]
      · simp [trailing]
      · simp [rest (.inl later)]
      · simp [text]
      · simp [rest (.inr later)]

/-- The lines of statements hold their comments and what their texts hold. -/
theorem holdsAny_statementLines {first : Bool} (length : texts.length = ns.length)
    (held : (∃ n ∈ ns, n.Carries c) ∨ HoldsAny c texts) :
    HoldsAny c (statementLines ind first (ns.zip texts)) := by
  induction ns generalizing texts first with
  | nil => simp [List.length_eq_zero_iff.mp length] at held
  | cons n ns ih =>
    cases texts with
    | nil => cases length
    | cons t ts =>
      rw [List.zip_cons_cons, statementLines]
      have rest (held : (∃ n ∈ ns, n.Carries c) ∨ HoldsAny c ts) :
          HoldsAny c (statementLines ind false (ns.zip ts)) := ih (Nat.succ.inj length) held
      simp only [List.exists_mem_cons_iff, holdsAny_cons] at held
      rcases held with ((leading | trailing) | later) | (text | later)
      · simp [holdsAny_comments leading]
      · simp [trailing]
      · simp [rest (.inl later)]
      · simp [text]
      · simp [rest (.inr later)]

theorem ne_nil_of_held (length : texts.length = ns.length)
    (held : (∃ n ∈ ns, n.Carries c) ∨ HoldsAny c texts) : ns.isEmpty = false := by
  cases ns with
  | nil => simp [List.length_eq_zero_iff.mp length] at held
  | cons => rfl

theorem holds_blockText (length : texts.length = ns.length)
    (held : (∃ n ∈ ns, n.Carries c) ∨ HoldsAny c texts) : Holds c (blockText ind ns texts) := by
  rw [blockText, ne_nil_of_held length held]
  exact holds_braces (holdsAny_statementLines length held)

theorem holds_membersText (length : texts.length = ns.length)
    (held : (∃ n ∈ ns, n.Carries c) ∨ HoldsAny c texts) :
    Holds c (membersText ind sep last ns texts) := by
  rw [membersText, ne_nil_of_held length held]
  exact holds_braces (holdsAny_memberLines length held)

end Lines

/-! ## Steps of printing -/

/-- Whatever a step of printing gives has a property. -/
def Ensures (x : Except Failure α) (P : α → Prop) : Prop := ∀ a, x = .ok a → P a

namespace Ensures

variable {x : Except Failure α} {P : α → Prop} {Q : β → Prop}

theorem ok {a : α} (holds : P a) : Ensures (.ok a) P := by
  intro b same
  cases same
  exact holds

theorem bind {f : α → Except Failure β} (first : Ensures x P) (rest : ∀ a, P a → Ensures (f a) Q) :
    Ensures (x >>= f) Q := by
  intro b result
  cases x with
  | error e => cases result
  | ok a => exact rest a (first a rfl) b result

theorem map {f : α → β} (first : Ensures x P) (rest : ∀ a, P a → Q (f a)) :
    Ensures (x >>= fun a => pure (f a)) Q :=
  first.bind fun a holds => .ok (rest a holds)

theorem imp {R : α → Prop} (ensures : Ensures x P) (weaker : ∀ a, P a → R a) : Ensures x R :=
  fun a result => weaker a (ensures a result)

end Ensures

/-- A comment is kept in one of some trees. -/
def Heard (c : String) (ns : List Node) : Prop := ∃ n ∈ ns, Voiced c n

/-- A text holds the comment if it is kept in the trees. -/
def Tells (c : String) (ns : List Node) (text : String) : Prop := Heard c ns → Holds c text

/-- One of the texts holds the comment if it is kept in the trees. -/
def TellsAny (c : String) (ns : List Node) (texts : List String) : Prop := Heard c ns → HoldsAny c texts

section Rows

variable {ns ms : List Node} {a : Option Node} {n : Node}

@[simp]
theorem not_heard_nil : ¬Heard c [] := by simp [Heard]

@[simp]
theorem heard_cons : Heard c (n :: ns) ↔ Voiced c n ∨ Heard c ns := by simp [Heard]

@[simp]
theorem heard_append : Heard c (ns ++ ms) ↔ Heard c ns ∨ Heard c ms := by
  simp [Heard, or_and_right, exists_or]

theorem tells_nil {text : String} : Tells c [] text := fun heard => absurd heard not_heard_nil

theorem tells_append {text : String} : Tells c (ns ++ ms) text ↔ Tells c ns text ∧ Tells c ms text := by
  rw [Tells, heard_append, or_imp]
  rfl

theorem Tells.imp {text whole : String} (tells : Tells c ns text) (more : Holds c text → Holds c whole) :
    Tells c ns whole := fun heard => more (tells heard)

theorem TellsAny.imp {texts : List String} {whole : String} (tells : TellsAny c ns texts)
    (more : HoldsAny c texts → Holds c whole) : Tells c ns whole := fun heard => more (tells heard)

end Rows

/-! ## Steps that meet strays -/

/-- A step of printing meets some strays and nothing else, and whatever it gives has a property. -/
structure Writes (ss : List Node) (x : Except Failure α) (P : α → Prop) : Prop where
  prints : Prints ss x
  ensures : Ensures x P

namespace Writes

variable {ss ts : List Node} {x : Except Failure α} {P : α → Prop} {Q : β → Prop}

theorem ok {a : α} (holds : P a) : Writes [] (.ok a) P := ⟨.ok a, .ok holds⟩

theorem stops {s : Node} (stray : s ∈ ss) : Writes ss (unprintable s) P :=
  ⟨.stops stray, fun _ result => by cases result⟩

theorem bind {f : α → Except Failure β} (first : Writes ss x P) (rest : ∀ a, P a → Writes ts (f a) Q) :
    Writes (ss ++ ts) (x >>= f) Q := by
  obtain ⟨prints, ensures⟩ := first
  cases prints with
  | text none a =>
    subst none
    exact rest a (ensures a rfl)
  | stops stray => exact .stops (List.mem_append_left ts stray)

theorem map {f : α → β} (first : Writes ss x P) (rest : ∀ a, P a → Q (f a)) :
    Writes ss (x >>= fun a => pure (f a)) Q :=
  ⟨first.prints.map f, first.ensures.map rest⟩

theorem imp {R : α → Prop} (writes : Writes ss x P) (weaker : ∀ a, P a → R a) : Writes ss x R :=
  ⟨writes.prints, writes.ensures.imp weaker⟩

theorem of_eq (writes : Writes ss x P) (same : ss = ts) : Writes ts x P := same ▸ writes

/-- Only which nodes are strays counts. -/
theorem of_mem (writes : Writes ss x P) (same : ∀ s, s ∈ ss ↔ s ∈ ts) : Writes ts x P :=
  ⟨writes.prints.of_mem same, writes.ensures⟩

section Parts

variable {γ : Type} {y : Except Failure β} {z : Except Failure γ} {ns ms ls : List Node}
  {H : α → Prop} {K : β → Prop} {L : γ → Prop}

/-- A text made of no parts. -/
theorem none {text : String} : Writes (strayRow []) (.ok text) (Tells c []) := .ok tells_nil

/-- A text made of a part holds the comments of the part. -/
theorem one {k : α → String} (writes : Writes (strayRow ns) x fun a => Heard c ns → H a)
    (holds : ∀ a, H a → Holds c (k a)) : Writes (strayRow ns) (x >>= fun a => pure (k a)) (Tells c ns) :=
  writes.map fun a held heard => holds a (held heard)

theorem two {k : α → β → String} (first : Writes (strayRow ns) x fun a => Heard c ns → H a)
    (second : Writes (strayRow ms) y fun b => Heard c ms → K b)
    (holds : ∀ a b, H a ∨ K b → Holds c (k a b)) :
    Writes (strayRow (ns ++ ms)) (x >>= fun a => y >>= fun b => pure (k a b)) (Tells c (ns ++ ms)) := by
  refine (first.bind fun a here => second.map fun b there heard => ?_).of_eq (strayRow_append ns ms).symm
  exact holds a b ((heard_append.mp heard).imp here there)

theorem three {k : α → β → γ → String} (first : Writes (strayRow ns) x fun a => Heard c ns → H a)
    (second : Writes (strayRow ms) y fun b => Heard c ms → K b)
    (third : Writes (strayRow ls) z fun d => Heard c ls → L d)
    (holds : ∀ a b d, H a ∨ K b ∨ L d → Holds c (k a b d)) :
    Writes (strayRow (ns ++ (ms ++ ls))) (x >>= fun a => y >>= fun b => z >>= fun d => pure (k a b d))
      (Tells c (ns ++ (ms ++ ls))) := by
  refine (first.bind fun a here => second.bind fun b there => third.map fun d last heard => ?_).of_eq
    (by rw [strayRow_append, strayRow_append])
  rw [heard_append, heard_append] at heard
  exact holds a b d (heard.imp here (.imp there last))

end Parts

end Writes

section Rows

variable {ns : List Node} {a : Option Node}

/-- A row is printed one by one. -/
theorem writes_row {f : Node → Except Failure String} {row : List Node → Except Failure (List String)}
    (put : Node → String → String) (puts : ∀ n t, Holds c t → Holds c (put n t))
    (nil : row [] = .ok []) (cons : ∀ n ns, row (n :: ns) = (do return put n (← f n) :: (← row ns)))
    (each : ∀ n ∈ ns, Writes (strayRow [n]) (f n) (Tells c [n])) :
    Writes (strayRow ns) (row ns) fun texts => texts.length = ns.length ∧ TellsAny c ns texts := by
  induction ns with
  | nil =>
    rw [nil]
    exact .ok ⟨rfl, fun heard => absurd heard not_heard_nil⟩
  | cons n ns ih =>
    obtain ⟨first, rest⟩ := List.forall_mem_cons.mp each
    rw [cons]
    refine Writes.of_eq (first.bind fun t text => (ih rest).map fun ts later =>
      ⟨congrArg (· + 1) later.1, ?_⟩) (strayRow_append [n] ns).symm
    intro heard
    rcases heard_cons.mp heard with here | there
    · exact holdsAny_cons.mpr (.inl (puts n t (text (by simp [here]))))
    · exact holdsAny_cons.mpr (.inr (later.2 there))

/-- A row to which each node can be added in front. -/
theorem writes_front {row : List Node → Except Failure (List String)} (nil : row [] = .ok [])
    (each : ∀ n ∈ ns, ∀ ns, Writes (strayRow ns) (row ns) (TellsAny c ns) →
      Writes (strayRow (n :: ns)) (row (n :: ns)) (TellsAny c (n :: ns))) :
    Writes (strayRow ns) (row ns) (TellsAny c ns) := by
  induction ns with
  | nil =>
    rw [nil]
    exact .ok fun heard => absurd heard not_heard_nil
  | cons n ns ih =>
    obtain ⟨first, rest⟩ := List.forall_mem_cons.mp each
    exact first ns (ih rest)

/-- A node that may be missing. -/
theorem writes_option {f : Option Node → Except Failure α} {x : α} {holds : α → Prop}
    (none : f none = .ok x)
    (some : ∀ n, a = some n → Writes (strayRow [n]) (f (some n)) fun t => Heard c [n] → holds t) :
    Writes (strayRow a.toList) (f a) fun t => Heard c a.toList → holds t := by
  cases a with
  | none =>
    rw [none]
    exact .ok fun heard => absurd heard not_heard_nil
  | some n => exact some n rfl

end Rows

/-! ## Roles -/

section Roles

/-- The head of a function type is printed with its comments. -/
structure WritesType (c : String) (tps : Option Node) (ps : List Node) (rest : Option Node) (ret : Node) :
    Prop where
  tparams : ∀ ind, Writes (strayRow tps.toList) (tparams ind tps) (Tells c tps.toList)
  params : ∀ ind, Writes (strayRow ps) (sigParams ind ps) (TellsAny c ps)
  rest : ∀ ind, Writes (strayRow rest.toList) (sigRest ind rest) (TellsAny c rest.toList)
  ret : ∀ ind, Writes (strayRow [ret]) (ty ind ret) (Tells c [ret])

/-- The head of a function is printed with its comments. -/
structure WritesHead (c : String) (tps : Option Node) (ps : List Node) (ret : Option Node) : Prop where
  tparams : ∀ ind, Writes (strayRow tps.toList) (tparams ind tps) (Tells c tps.toList)
  params : ∀ ind, Writes (strayRow ps) (params ind ps) (TellsAny c ps)
  ret : ∀ ind, Writes (strayRow ret.toList) (annot ind ret) (Tells c ret.toList)

/-- Printing a node in a role meets its strays, and the text holds the comment if it is kept in the node. -/
def WritesAs (c : String) (n : Node) : Role → Prop
  | .type | .name => ∀ ind, Writes (strayRow [n]) (ty ind n) (Tells c [n])
  | .typeMember => ∀ ind, Writes (strayRow [n]) (typeMember ind n) (Tells c [n])
  | .fnType => ∃ i tps ps rest ret, n = ⟨i, .ts (.function tps ps rest ret)⟩ ∧ WritesType c tps ps rest ret
  | .fnParam => (∀ ind ns, Writes (strayRow ns) (sigParams ind ns) (TellsAny c ns) →
      Writes (strayRow (n :: ns)) (sigParams ind (n :: ns)) (TellsAny c (n :: ns)))
    ∧ ∀ ind, Writes (strayRow [n]) (sigRest ind (some n)) (TellsAny c [n])
  | .tparams => ∀ ind, Writes (strayRow [n]) (tparams ind (some n)) (Tells c [n])
  | .tparam => ∀ ind ns, Writes (strayRow ns) (tparamList ind ns) (TellsAny c ns) →
      Writes (strayRow (n :: ns)) (tparamList ind (n :: ns)) (TellsAny c (n :: ns))
  | .targs => ∀ ind, Writes (strayRow [n]) (targs ind (some n)) (Tells c [n])
  | .annot => ∀ ind, Writes (strayRow [n]) (annot ind (some n)) (Tells c [n])
  | .heritage => ∀ ind, Writes (strayRow [n]) (heritage ind n) (Tells c [n])
  | .binding => ∀ ind, Writes (strayRow [n]) (binding ind n) (Tells c [n])
  | .patternProp => ∀ ind ns, Writes (strayRow ns) (patternProps ind ns) (TellsAny c ns) →
      Writes (strayRow (n :: ns)) (patternProps ind (n :: ns)) (TellsAny c (n :: ns))
  | .param => ∀ ind ns, Writes (strayRow ns) (params ind ns) (TellsAny c ns) →
      Writes (strayRow (n :: ns)) (params ind (n :: ns)) (TellsAny c (n :: ns))
  | .expr | .arg => ∀ ind, Writes (strayRow [n]) (bare ind n) (Tells c [n])
  | .body => ∀ ind, Writes (strayRow [n]) (body ind n) (Tells c [n])
  | .arrowBody => (∃ i ss, n = ⟨i, .stmt (.block ss)⟩ ∧ ∀ ind,
      Writes (strayRow ss) (stmts ind ss) fun texts => texts.length = ss.length ∧ TellsAny c ss texts)
    ∨ (∀ ss, n.form ≠ .stmt (.block ss)) ∧ ∀ ind, Writes (strayRow [n]) (bare ind n) (Tells c [n])
  | .method => ∃ i name tps ps ret content isAsync isExpr,
    n = ⟨i, .expr (.function name tps ps ret content isAsync isExpr)⟩
      ∧ WritesHead c tps ps ret ∧ ∀ ind, Writes (strayRow [content]) (body ind content) (Tells c [content])
  | .objectProp => ∀ ind, Writes (strayRow [n]) (objectProp ind n) (Tells c [n])
  | .declarator => ∀ ind ns, Writes (strayRow ns) (declarators ind ns) (TellsAny c ns) →
      Writes (strayRow (n :: ns)) (declarators ind (n :: ns)) (TellsAny c (n :: ns))
  | .classMember => ∀ ind, Writes (strayRow [n]) (classMember ind n) (Tells c [n])
  | .stmt | .exported => ∀ ind, Writes (strayRow [n]) (stmt ind n) (Tells c [n])
  | .value => ∀ ind i, Writes (strayRow [n]) (stmt ind ⟨i, .stmt (.exportDefault n)⟩) (Tells c [n])
  | .shorthand | .importSpec | .exportSpec => n.allStrays = []
  | .program => Writes (strayRow [n]) (program n) fun text => c ∈ n.comments ∨ Voiced c n → Holds c text
  | .objectType | .declared | .declaredDefault => True

end Roles

end Retype
