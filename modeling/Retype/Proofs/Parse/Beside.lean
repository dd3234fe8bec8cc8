import Retype.Proofs.Parse.Machine
import Retype.Proofs.Token.Apart

/-!
# Pieces of template literals stand behind expressions

In the grammar a piece of a template literal other than the head comes right behind an expression.  An
expression has a last token, which is no barred mark: the symbols at the ends of its productions are
*solid*, and so are those at the ends of their productions.  So no barred mark stands in front of a piece
in a derivation (`Derivation.apart`), and the substitutions of a text that can be parsed are whole
(`sound_of_parse`).
-/

namespace Retype.Grammar

open Expand (goesOn)

/-! ## Solid symbols -/

/-- The nonterminals whose derivations have a last token that is no barred mark. -/
def Nonterminal.solid : Nonterminal → Bool
  | .expr | .arrow | .arrowBody | .postfixExpr | .member | .call | .args | .primary | .templateSpans
  | .functionExpr | .fnRest | .fnBody | .block | .ident | .propName => true
  | _ => false

/-- The symbols whose derivations have a last token that is no barred mark. -/
def Symbol.solid : Symbol → Bool
  | .t k => !barred k
  | .n x => x.solid

/-- The symbols that are pieces of template literals other than heads. -/
def Symbol.goesOn : Symbol → Bool
  | .t k => Expand.goesOn k
  | .n _ => false

/-- Whether pieces stand behind solid symbols only.  `behind` tells whether one stands in front. -/
def guarded : (behind : Bool) → List Symbol → Bool
  | _, [] => true
  | behind, s :: ss => (!s.goesOn || behind) && guarded s.solid ss

/-- The last symbol of a production of a solid nonterminal is solid, and all pieces are guarded. -/
theorem solid_rules : ∀ rule ∈ rules.toList,
    (!rule.lhs.solid || rule.rhs.getLast?.any Symbol.solid) && guarded false rule.rhs := by
  decide +kernel

/-! ## Tokens of derivations -/

mutual

theorem Derivation.exists_last {s : Symbol} (solid : s.solid) : (d : Derivation rules s) →
    ∃ t, d.tokens.getLast? = some t ∧ barred t.kind = false
  | .leaf t => ⟨t, rfl, by simpa [Symbol.solid] using solid⟩
  | .node p parts => by
    have rule := solid_rules rules[p] (Array.getElem_mem_toList p.isLt)
    have lhs : rules[p].lhs.solid := solid
    rw [Bool.and_eq_true, lhs] at rule
    exact parts.exists_last rule.1

theorem Derivations.exists_last {ss : List Symbol} (solid : ss.getLast?.any Symbol.solid) :
    (ds : Derivations rules ss) → ∃ t, ds.tokens.getLast? = some t ∧ barred t.kind = false
  | .nil => by cases solid
  | .cons first .nil => by
    rw [Derivations.tokens, Derivations.tokens, List.append_nil]
    exact first.exists_last solid
  | .cons first (.cons second rest) => by
    rw [List.getLast?_cons_cons] at solid
    obtain ⟨t, last, other⟩ := (Derivations.cons second rest).exists_last solid
    exact ⟨t, by rw [Derivations.tokens, List.getLast?_append, last]; rfl, other⟩

end

mutual

/-- In a derivation no barred mark stands in front of a piece, and no piece comes first. -/
theorem Derivation.apart {s : Symbol} : (d : Derivation rules s) →
    Apart d.tokens ∧ ∀ t ∈ d.tokens.head?, goesOn t.kind → s.goesOn
  | .leaf t => by
    refine ⟨List.isChain_singleton _, ?_⟩
    rintro _ ⟨⟩
    exact id
  | .node p parts => by
    have rule := solid_rules rules[p] (Array.getElem_mem_toList p.isLt)
    rw [Bool.and_eq_true] at rule
    exact parts.apart rule.2

theorem Derivations.apart {ss : List Symbol} {behind : Bool} (guards : guarded behind ss) :
    (ds : Derivations rules ss) → Apart ds.tokens ∧ ∀ t ∈ ds.tokens.head?, goesOn t.kind → behind
  | .nil => ⟨.nil, fun t none => by cases none⟩
  | .cons first rest => by
    rename_i s ss
    rw [guarded, Bool.and_eq_true, Bool.or_eq_true] at guards
    obtain ⟨alone, starts⟩ := first.apart
    obtain ⟨later, follows⟩ := rest.apart guards.2
    rw [Derivations.tokens]
    refine ⟨List.isChain_append.mpr ⟨alone, later, fun t last u head bars => ?_⟩, fun t head piece => ?_⟩
    · by_contra piece
      obtain ⟨t', last', other⟩ := first.exists_last (follows u head (Bool.eq_true_of_not_eq_false piece))
      obtain rfl : t = t' := Option.some.inj (last.symm.trans last')
      rw [bars] at other
      cases other
    · cases tokens : first.tokens with
      | nil =>
        -- nothing stands in front, so no solid symbol does
        rw [tokens, List.nil_append] at head
        obtain ⟨t', last', -⟩ := first.exists_last (follows t head piece)
        rw [tokens] at last'
        cases last'
      | cons t' ts =>
        rw [tokens] at head starts
        cases head
        exact guards.1.resolve_left (by simp [starts t rfl piece])

end

end Retype.Grammar

namespace Retype.Parser

open Grammar Expand

theorem apart_of_parse {ts : List Token} {tree : Node} (parsed : parse ts = .ok tree) : Apart ts := by
  obtain ⟨d, derives, -⟩ := parse_eq_ok_iff.mp parsed
  have tokens : d.tokens = ts := (run_eq_ok derives).1
  exact tokens ▸ d.apart.1

/-- The substitutions of a text that can be parsed are whole. -/
theorem sound_of_parse {text : List Char} {found : Lexer.Lexed} (read : Stream.read text = .ok found) {tree : Node}
    (parsed : parse found.tokens = .ok tree) : Sound text := by
  obtain ⟨raw, expanded, same⟩ := exists_of_bind_eq_ok read
  cases same
  obtain ⟨plain, expands, same⟩ := exists_of_bind_eq_ok expanded
  cases same
  exact sound_of_apart (Nat.lt_succ_self _) expands (Stream.apart_of_insertAll (apart_of_parse parsed))

end Retype.Parser
