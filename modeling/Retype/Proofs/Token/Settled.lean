import Mathlib.Data.List.Forall2
import Retype.Proofs.Token.Bracket
import Retype.Token.Context

/-!
# What settling tokens changes

Settling the tokens that depend on their context changes their kinds and nothing else.  A kind changes
in four ways only (`Settles`): a parenthesis, a brace, a `function` and an arrow each have one other
kind.  None of these eight kinds is a closing bracket, and the two opening brackets among them keep
their closing ones.  So the same brackets match before and behind (`pairs_classify`).
-/

namespace Retype.Context

open TokenKind

/-! ## Kinds -/

/-- How the kind of a token can be settled. -/
inductive Settles : TokenKind → TokenKind → Prop where
  | same (k : TokenKind) : Settles k k
  | arrowLparen : Settles lparen arrowLparen
  | blockLbrace : Settles lbrace blockLbrace
  | functionExpr : Settles kwFunction functionExpr
  | returnArrow : Settles arrow returnArrow

theorem Settles.trans {k l m : TokenKind} (first : Settles k l) (second : Settles l m) :
    Settles k m := by
  cases first with
  | same => exact second
  | arrowLparen => cases second; exact .arrowLparen
  | blockLbrace => cases second; exact .blockLbrace
  | functionExpr => cases second; exact .functionExpr
  | returnArrow => cases second; exact .returnArrow

/-! ## Parentheses of arrow functions -/

/-- Where a walk over a type finds an arrow, there is one. -/
theorem typeEnd_arrow {arrows : Bool} {i depth k : Nat} {prev : Option TokenKind}
    {ks : List TokenKind} (ends : typeEnd arrows i depth prev ks = .arrow k) :
    i ≤ k ∧ ks[k - i]? = some arrow := by
  have further {i k : Nat} {x : TokenKind} {ks : List TokenKind}
      (later : i + 1 ≤ k ∧ ks[k - (i + 1)]? = some arrow) :
      i ≤ k ∧ (x :: ks)[k - i]? = some arrow := by
    refine ⟨by omega, ?_⟩
    rw [show k - i = k - (i + 1) + 1 by omega, List.getElem?_cons_succ]
    exact later.2
  fun_induction typeEnd arrows i depth prev ks with
  | case1 | case2 | case4 | case7 => cases ends
  | case3 | case5 | case8 =>
    rename_i ih
    exact further (ih ends)
  | case6 i depth prev k ks _ _ found =>
    obtain rfl := TypeEnd.arrow.inj ends
    exact ⟨Nat.le_refl i, by simp [found.2.1]⟩

theorem forall₂_set {α β : Type} {R : α → β → Prop} {xs : List α} {ys : List β} {i : Nat} {y : β}
    (all : List.Forall₂ R xs ys) (here : ∀ x, xs[i]? = some x → R x y) :
    List.Forall₂ R xs (ys.set i y) := by
  induction all generalizing i with
  | nil => exact .nil
  | cons first rest ih =>
    cases i with
    | zero => exact .cons (here _ rfl) rest
    | succ i => exact .cons first (ih here)

theorem settles_of_getElem? {ks ms : List TokenKind} (all : List.Forall₂ Settles ks ms) {i : Nat}
    {k l : TokenKind} (old : ks[i]? = some k) (new : ms[i]? = some l) : Settles k l := by
  induction all generalizing i with
  | nil => cases old
  | cons first rest ih =>
    cases i with
    | zero =>
      cases old
      cases new
      exact first
    | succ i => exact ih old new

theorem settles_markParen (ps : List Bracket.Pair) {ks : List TokenKind} {m : Marked} (i : Nat)
    (all : List.Forall₂ Settles ks m.kinds) :
    List.Forall₂ Settles ks (markParen ps m i).kinds := by
  unfold markParen
  split
  next paren closed =>
    have opens : List.Forall₂ Settles ks (m.kinds.set i arrowLparen) := by
      refine forall₂_set all fun k old => ?_
      exact (settles_of_getElem? all old paren).trans .arrowLparen
    dsimp only
    split
    · split
      · exact all
      · exact opens
    · split
      next k ends =>
        obtain ⟨low, found⟩ := typeEnd_arrow ends
        rw [List.getElem?_drop, Nat.add_sub_cancel' low] at found
        refine forall₂_set opens fun l old => ?_
        exact (settles_of_getElem? all old found).trans .returnArrow
      · exact all
      · exact all
    · exact all
  · exact all

theorem settles_markParens (ks : List TokenKind) : List.Forall₂ Settles ks (markParens ks).kinds := by
  unfold markParens
  generalize List.range ks.length = places
  generalize start : Marked.mk ks [] = m
  have all : List.Forall₂ Settles ks m.kinds := by
    subst start
    exact List.forall₂_same.mpr fun k _ => .same k
  clear start
  induction places generalizing m with
  | nil => exact all
  | cons i places ih => exact ih _ (settles_markParen _ i all)

/-! ## Braces and functions -/

theorem settles_settle (bodies : List Nat) (i : Nat) (prev prev2 : Option Token) (t : Token) :
    Settles t.kind (settle bodies i prev prev2 t) := by
  unfold settle
  split
  next brace =>
    rw [brace]
    split
    · exact .blockLbrace
    · exact .same _
  next function =>
    rw [function]
    dsimp only
    generalize declares _ t = declares
    cases declares with
    | true => exact .same _
    | false => exact .functionExpr
  next => exact .same _

/-- A token that is settled: the same but for its kind. -/
def Retags (t u : Token) : Prop := u = t.retag u.kind ∧ Settles t.kind u.kind

theorem Retags.trans {t u v : Token} (first : Retags t u) (second : Retags u v) : Retags t v := by
  refine ⟨?_, first.2.trans second.2⟩
  rw [second.1, first.1]
  rfl

theorem forall₂_trans {ts us vs : List Token} (first : List.Forall₂ Retags ts us)
    (second : List.Forall₂ Retags us vs) : List.Forall₂ Retags ts vs := by
  induction first generalizing vs with
  | nil => exact second
  | cons step _ ih =>
    cases second with
    | cons step' rest => exact .cons (step.trans step') (ih rest)

theorem retags_markRest (bodies : List Nat) (i : Nat) (prev prev2 : Option Token) (ts : List Token) :
    List.Forall₂ Retags ts (markRest bodies i prev prev2 ts) := by
  induction ts generalizing i prev prev2 with
  | nil => exact .nil
  | cons t ts ih => exact .cons ⟨rfl, settles_settle bodies i prev prev2 t⟩ (ih _ _ _)

theorem retags_zipWith {ts : List Token} {ks : List TokenKind}
    (all : List.Forall₂ Settles (ts.map (·.kind)) ks) :
    List.Forall₂ Retags ts (List.zipWith Token.retag ts ks) := by
  induction ts generalizing ks with
  | nil => exact .nil
  | cons t ts ih =>
    cases all with
    | cons first rest => exact .cons ⟨rfl, first⟩ (ih rest)

/-- Settling tokens changes nothing but their kinds. -/
theorem retags_classify (ts : List Token) : List.Forall₂ Retags ts (classify ts) := by
  have parens := retags_zipWith (settles_markParens (ts.map (·.kind)))
  have rest := retags_markRest (markParens (ts.map (·.kind))).bodies 0 none none
    (List.zipWith Token.retag ts (markParens (ts.map (·.kind))).kinds)
  exact forall₂_trans parens rest

/-! ## Brackets -/

theorem settles_closer {k l : TokenKind} (settles : Settles k l) : k.closer? = l.closer? := by
  cases settles <;> rfl

theorem settles_eq_closer {k l c : TokenKind} (settles : Settles k l) (closer : c.isCloser) :
    c = k ↔ c = l := by
  cases settles with
  | same => rfl
  | _ => constructor <;> (rintro rfl; cases closer)

theorem isCloser_closer? {k c : TokenKind} (opens : k.closer? = some c) : c.isCloser := by
  cases k <;> cases opens <;> rfl

theorem isCloser_advance {i : Nat} {stack : List (Nat × TokenKind)} {k : TokenKind}
    (closers : ∀ e ∈ stack, e.2.isCloser) : ∀ e ∈ Bracket.advance i stack k, e.2.isCloser := by
  unfold Bracket.advance
  split
  next c opens => exact List.forall_mem_cons.mpr ⟨isCloser_closer? opens, closers⟩
  next j c outer _ =>
    split
    · exact (List.forall_mem_cons.mp closers).2
    · exact closers
  · exact closers

theorem pairsFrom_settled {i : Nat} {stack : List (Nat × TokenKind)} {ks ls : List TokenKind}
    (closers : ∀ e ∈ stack, e.2.isCloser) (all : List.Forall₂ Settles ks ls) :
    Bracket.pairsFrom i stack ks = Bracket.pairsFrom i stack ls := by
  induction all generalizing i stack with
  | nil => rfl
  | @cons k l ks ls first _ ih =>
    have closes : Bracket.closes stack k = Bracket.closes stack l := by
      unfold Bracket.closes
      rw [settles_closer first]
      rcases l.closer? with _ | c <;> rcases stack with _ | ⟨⟨j, c⟩, outer⟩ <;> try rfl
      dsimp only
      simp only [settles_eq_closer first (closers (j, c) List.mem_cons_self)]
    have advance : Bracket.advance i stack k = Bracket.advance i stack l := by
      unfold Bracket.advance
      rw [settles_closer first]
      rcases l.closer? with _ | c <;> rcases stack with _ | ⟨⟨j, c⟩, outer⟩ <;> try rfl
      dsimp only
      simp only [settles_eq_closer first (closers (j, c) List.mem_cons_self)]
    rw [Bracket.pairsFrom_cons, Bracket.pairsFrom_cons, closes, advance, ih (isCloser_advance closers)]

/-- The same brackets match before and behind. -/
theorem pairs_classify (ts : List Token) :
    Bracket.pairs ((classify ts).map (·.kind)) = Bracket.pairs (ts.map (·.kind)) := by
  refine (pairsFrom_settled (by simp) ?_).symm
  rw [List.forall₂_map_left_iff, List.forall₂_map_right_iff]
  exact (retags_classify ts).imp fun _ _ => And.right

end Retype.Context
