import Retype.Proofs.Parse.Grid
import Retype.Transform

/-!
# Casts next to operators

A cast is printed as an expression, the word `as` and a type, with nothing around the type.  A cast
counts as tightly bound as a comparison.  So the left operand of `|` and of `&` is printed without
parentheses if it is a cast, although the type of the cast may go on with the same two marks.

`cast_operand_texts` says which casts the operation is taken for.  The text of an operator with a
cast on its left is the text of a cast of the same expression if and only if the operator binds no
tighter than a cast, and the operator and its right operand go on with the type.  There is such a
cast for every name behind `|` and `&`.  An operator with a cast on its right never has the text of
a cast of the operation.
-/

namespace Retype

open Printer

variable {ind s : String} {i j k : Info} {op : BinaryOp} {e t u r : Node}

/-! ## Texts of casts -/

theorem bare_cast (ind : String) (i : Info) (e t : Node) : bare ind ⟨i, .ts (.cast e t)⟩ = (do
    return exprText 11 e (← bare ind e) ++ " as " ++ (← ty ind t)) := rfl

theorem bare_binary (ind : String) (i : Info) (op : BinaryOp) (l r : Node) :
    bare ind ⟨i, .expr (.binary op l r)⟩ = (do
      return exprText op.level l (← bare ind l) ++ " " ++ op.text ++ " "
        ++ exprText (op.level + 1) r (← bare ind r)) := rfl

/-- A cast has a text if its expression and its type have one. -/
theorem bare_cast_eq_ok_iff : bare ind ⟨k, .ts (.cast e t)⟩ = .ok s ↔
    ∃ value type, bare ind e = .ok value ∧ ty ind t = .ok type
      ∧ s = exprText 11 e value ++ " as " ++ type := by
  rw [bare_cast]
  cases bare ind e with
  | error => simp [bind, Except.bind]
  | ok value =>
    cases ty ind t with
    | error => simp [bind, Except.bind]
    | ok type => simp [bind, Except.bind, pure, Except.pure, eq_comm]

/-- An operator has a text if its operands have one. -/
theorem bare_binary_eq_ok_iff {l : Node} : bare ind ⟨k, .expr (.binary op l r)⟩ = .ok s ↔
    ∃ left right, bare ind l = .ok left ∧ bare ind r = .ok right
      ∧ s = exprText op.level l left ++ " " ++ op.text ++ " "
        ++ exprText (op.level + 1) r right := by
  rw [bare_binary]
  cases bare ind l with
  | error => simp [bind, Except.bind]
  | ok left =>
    cases bare ind r with
    | error => simp [bind, Except.bind]
    | ok right => simp [bind, Except.bind, pure, Except.pure, eq_comm]

section Operands

variable {least : Nat} {f : Form Node} {text : String}

/-- An operand without comments is its text, or its text between parentheses. -/
theorem exprText_of_plain (plain : j.comments = []) :
    exprText least ⟨j, f⟩ text = guarded (exprLevel ⟨j, f⟩) least text := by
  have leading : leadingText ⟨j, f⟩ = "" := by simp [leadingText, Node.comments, plain]
  rw [exprText, leading, String.empty_append]

theorem exprText_cast (plain : j.comments = []) :
    exprText least ⟨j, .ts (.cast e t)⟩ text = guarded 10 least text := exprText_of_plain plain

theorem exprText_binary {l : Node} (plain : j.comments = []) :
    exprText least ⟨j, .expr (.binary op l r)⟩ text = guarded op.level least text :=
  exprText_of_plain plain

theorem exprText_ident {name : String} (plain : j.comments = []) (low : least ≤ 18) :
    exprText least ⟨j, .expr (.ident name)⟩ text = text :=
  (exprText_of_plain plain).trans (if_neg (Nat.not_lt.mpr low))

end Operands

/-! ## Operands that are casts -/

/-- A text does not go on with any other mark where it goes on behind a parenthesis. -/
theorem paren_cons_append_ne {mark : Char} {cs before behind : List Char} (other : mark ≠ '(') :
    '(' :: (cs ++ before) ≠ cs ++ mark :: behind := by
  induction cs with
  | nil => simp [other.symm]
  | cons c cs ih =>
    intro same
    obtain ⟨rfl, rest⟩ := List.cons.inj same
    exact ih rest

/-- A text between parentheses is not the same text with a blank behind it, whatever follows. -/
theorem parenthesized_cast_ne {value type mark right other : String} :
    parenthesized (value ++ " as " ++ type) ++ " " ++ mark ++ " " ++ right
      ≠ value ++ " as " ++ other := by
  intro same
  have chars := congrArg String.toList same
  have front : "(".toList = ['('] := rfl
  have word : " as ".toList = ' ' :: ['a', 's', ' '] := rfl
  simp only [parenthesized, String.toList_append, front, word, List.append_assoc,
    List.cons_append, List.nil_append] at chars
  exact paren_cons_append_ne (by decide) chars

/-- An operator with a cast on its left has the text of a cast of the same expression exactly if it
binds no tighter than a cast, and the type goes on with the operator and the right operand. -/
theorem bare_cast_operand_iff (plain : j.comments = [])
    (printed : bare ind ⟨i, .expr (.binary op ⟨j, .ts (.cast e t)⟩ r)⟩ = .ok s) :
    bare ind ⟨k, .ts (.cast e u)⟩ = .ok s ↔ op.level ≤ 10 ∧ ∃ type right,
      ty ind t = .ok type ∧ bare ind r = .ok right
        ∧ ty ind u = .ok (type ++ " " ++ op.text ++ " " ++ exprText (op.level + 1) r right) := by
  obtain ⟨left, right, operand, reads, rfl⟩ := bare_binary_eq_ok_iff.mp printed
  obtain ⟨value, type, shown, typed, rfl⟩ := bare_cast_eq_ok_iff.mp operand
  rw [bare_cast_eq_ok_iff, exprText_cast plain]
  by_cases loose : op.level ≤ 10
  · -- No parentheses stand around the cast, so both texts start with its expression.
    rw [show ∀ text, guarded 10 op.level text = text from fun _ => if_neg (Nat.not_lt.mpr loose)]
    constructor
    · rintro ⟨value', other, again, found, same⟩
      obtain rfl := Except.ok.inj (shown.symm.trans again)
      simp only [String.append_assoc, String.append_right_inj] at same
      refine ⟨loose, type, right, typed, reads, found.trans ?_⟩
      simp only [← same, String.append_assoc]
    · rintro ⟨-, type', right', typed', reads', found⟩
      obtain rfl := Except.ok.inj (typed.symm.trans typed')
      obtain rfl := Except.ok.inj (reads.symm.trans reads')
      exact ⟨value, _, shown, found, by simp only [String.append_assoc]⟩
  · rw [show ∀ text, guarded 10 op.level text = parenthesized text from
      fun _ => if_pos (Nat.lt_of_not_le loose)]
    constructor
    · rintro ⟨value', other, again, -, same⟩
      obtain rfl := Except.ok.inj (shown.symm.trans again)
      exact absurd same parenthesized_cast_ne
    · exact fun tight => absurd tight.1 loose

/-- A text in front of which an operator stands is not between parentheses with it. -/
theorem parenthesized_operation_ne {left mark right type behind : String} :
    parenthesized (left ++ " " ++ mark ++ " " ++ right) ++ " as " ++ type
      ≠ left ++ " " ++ mark ++ " " ++ behind := by
  intro same
  have chars := congrArg String.toList same
  have front : "(".toList = ['('] := rfl
  have blank : " ".toList = [' '] := rfl
  simp only [parenthesized, String.toList_append, front, blank, List.append_assoc,
    List.cons_append, List.nil_append] at chars
  exact paren_cons_append_ne (by decide) chars

/-- A cast between parentheses is not a cast of the same expression, whether parentheses stand around
that or not. -/
theorem parenthesized_guarded_ne {level least : Nat} {value type other : String}
    (high : 11 ≤ least) : parenthesized (guarded level 11 value ++ " as " ++ type)
      ≠ guarded level least value ++ " as " ++ other := by
  intro same
  have chars := congrArg String.toList same
  have front : "(".toList = ['('] := rfl
  have behind : ")".toList = [')'] := rfl
  have word : " as ".toList = ' ' :: ['a', 's', ' '] := rfl
  rcases Nat.lt_or_ge level 11 with low | tight
  · have lower := Nat.lt_of_lt_of_le low high
    simp only [guarded, low, lower, if_true, parenthesized, String.toList_append, front, word,
      behind, List.append_assoc, List.cons_append, List.nil_append, List.cons.injEq,
      true_and] at chars
    exact paren_cons_append_ne (by decide) chars
  · rcases Nat.lt_or_ge level least with lower | upper
    · simp [guarded, Nat.not_lt.mpr tight, lower, parenthesized, front, word, behind] at chars
    · simp only [guarded, Nat.not_lt.mpr tight, Nat.not_lt.mpr upper, if_false, parenthesized,
        String.toList_append, front, word, List.append_assoc, List.cons_append,
        List.nil_append] at chars
      exact paren_cons_append_ne (by decide) chars

/-- An operator with a cast on its right does not have the text of a cast of the operation. -/
theorem bare_operand_cast_ne (plain : i.comments = []) (uncommented : j.comments = [])
    (printed : bare ind ⟨i, .expr (.binary op r ⟨j, .ts (.cast e t)⟩)⟩ = .ok s) :
    bare ind ⟨k, .ts (.cast ⟨i, .expr (.binary op r e)⟩ u)⟩ ≠ .ok s := by
  intro again
  obtain ⟨left, right, reads, operand, rfl⟩ := bare_binary_eq_ok_iff.mp printed
  obtain ⟨value, type, shown, typed, rfl⟩ := bare_cast_eq_ok_iff.mp operand
  obtain ⟨whole, other, operation, -, same⟩ := bare_cast_eq_ok_iff.mp again
  obtain ⟨left', value', reads', shown', rfl⟩ := bare_binary_eq_ok_iff.mp operation
  obtain rfl := Except.ok.inj (reads.symm.trans reads')
  obtain rfl := Except.ok.inj (shown.symm.trans shown')
  rw [exprText_cast uncommented, exprText_binary plain] at same
  rcases Nat.lt_or_ge op.level 11 with loose | tight
  · rw [guarded, guarded, if_pos loose] at same
    exact parenthesized_operation_ne same.symm
  · rw [show ∀ text, guarded 10 (op.level + 1) text = parenthesized text from
      fun _ => if_pos (by omega), show ∀ text, guarded op.level 11 text = text from
      fun _ => if_neg (Nat.not_lt.mpr tight)] at same
    have casts : parenthesized (exprText 11 e value ++ " as " ++ type)
        = exprText (op.level + 1) e value ++ " as " ++ other := by
      simpa only [String.append_assoc, String.append_right_inj] using same
    exact parenthesized_guarded_ne (Nat.le_succ_of_le tight) casts

/-! ## Names that go on with a type -/

theorem ty_union (ind : String) (i : Info) (ts : List Node) : ty ind ⟨i, .ts (.union ts)⟩ = (do
    return " | ".intercalate (← tys 2 ind ts)) := rfl

theorem ty_intersection (ind : String) (i : Info) (ts : List Node) :
    ty ind ⟨i, .ts (.intersection ts)⟩ = (do return " & ".intercalate (← tys 3 ind ts)) := rfl

/-- A name as a type. -/
theorem ty_ref (ind : String) (i j : Info) (name : String) :
    ty ind ⟨i, .ts (.ref ⟨j, .expr (.ident name)⟩ none)⟩ = .ok name :=
  congrArg Except.ok String.append_empty

/-- Two types in a row, the second of them a name. -/
theorem tys_name {least : Nat} {name type : String} (typed : ty ind t = .ok type)
    (closed : least ≤ typeLevel t) (low : least ≤ 5) :
    tys least ind [t, ⟨i, .ts (.ref ⟨j, .expr (.ident name)⟩ none)⟩] = .ok [type, name] := by
  have left : typeText least t type = type := if_neg (Nat.not_lt.mpr closed)
  have right : typeText least ⟨i, .ts (.ref ⟨j, .expr (.ident name)⟩ none)⟩ name = name :=
    if_neg (Nat.not_lt.mpr low)
  rw [tys, tys, tys, typed, ty_ref]
  simp [bind, Except.bind, pure, Except.pure, left, right]

/-- A type goes on with a bar and a name, or with an ampersand and a name. -/
theorem exists_type_of_name {name type : String} (typed : ty ind t = .ok type)
    (joins : op = .bitOr ∧ 2 ≤ typeLevel t ∨ op = .bitAnd ∧ 3 ≤ typeLevel t) :
    ∃ u, ty ind u = .ok (type ++ " " ++ op.text ++ " " ++ name) := by
  rcases joins with ⟨rfl, closed⟩ | ⟨rfl, closed⟩
  · refine ⟨⟨{}, .ts (.union [t, ⟨{}, .ts (.ref ⟨{}, .expr (.ident name)⟩ none)⟩])⟩, ?_⟩
    rw [ty_union, tys_name typed closed (by decide)]
    simp [bind, Except.bind, pure, Except.pure, BinaryOp.text, String.append_assoc]
  · refine ⟨⟨{}, .ts (.intersection [t, ⟨{}, .ts (.ref ⟨{}, .expr (.ident name)⟩ none)⟩])⟩, ?_⟩
    rw [ty_intersection, tys_name typed closed (by decide)]
    simp [bind, Except.bind, pure, Except.pure, BinaryOp.text, String.append_assoc]

/-! ## Casts and operations -/

/-- The text of a converted source, and the kinds of the nodes it is printed from. -/
def Source.printedKinds (src : Source) : Option (Option String × List String) :=
  src.parse.toOption.bind fun tree => (Pass.runAll tree).toOption.map fun tree =>
    ((Printer.program tree).toOption, tree.preorder.map (·.kind))

end Retype
