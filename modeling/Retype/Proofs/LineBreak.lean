import Retype.Proofs.Parse.Beside
import Retype.Proofs.Parse.Lines
import Retype.Proofs.Voice.Attached

/-!
# Line breaks behind operators

A line break in the place of the blank behind an operator does not change what is read: the parser gets
the same tokens, up to their lines, and builds the same tree, up to comments and blank lines.  Two
operators are exceptions.  `*` is also a type and `>` also closes type arguments, so both may end a
statement, and a line break behind them is harmless only if the next token cannot start one.
-/

namespace Retype

/-- The kinds of the operators between two expressions. -/
def Grammar.operators : List TokenKind := rules.toList.filterMap fun rule =>
  match rule.lhs, rule.rhs with
  | .expr, [.n .expr, .t k, .n .expr] => some k
  | _, _ => none

/-- Of the operators, only `*` and `>` may end a statement. -/
theorem Grammar.endsStatement_operators : ∀ k ∈ operators,
    Expand.isTemplate k = false ∧ k ≠ .exactRbrace ∧ k ≠ .kwAsync
      ∧ (Context.endsStatement k = false ∨ k = .times ∨ k = .gt) := by
  decide +kernel

/-- A line break in the place of the blank behind an operator is harmless, unless the operator may end a
statement and the next token may start one. -/
theorem Source.parse_line_break {src : Source} {tree : Node} (parsed : src.parse = .ok tree)
    {raw : Lexer.Lexed} (read : Expand.read src.text.toList = .ok raw) (front : List Token)
    {op next : Token} {back : List Token} (tokens : raw.tokens = front ++ op :: next :: back)
    (operator : op.kind ∈ Grammar.operators)
    (smooth : op.kind = .times ∨ op.kind = .gt → Semicolon.startsStatement next.kind = false)
    (blank : src.text.toList[op.endPos]? = some ' ') :
    ∃ found found' tree',
      Stream.read src.text.toList = .ok found
      ∧ Stream.read (src.text.toList.set op.endPos '\n') = .ok found'
      ∧ found'.tokens.map Token.unlined = found.tokens.map Token.unlined
      ∧ Source.parse { src with text := String.ofList (src.text.toList.set op.endPos '\n') } = .ok tree'
      ∧ tree'.shape = tree.shape := by
  obtain ⟨found, bare, reading, building, rfl⟩ := src.parse_cases parsed
  obtain ⟨plain, whole, other, ends⟩ := Grammar.endsStatement_operators op.kind operator
  have harmless : Stream.Smooth op.kind (next :: back) := by
    rcases ends with runs | exception
    · exact .inl ⟨other, runs⟩
    · exact .inr ⟨next, rfl, smooth exception⟩
  have sound := Parser.sound_of_parse reading building
  obtain ⟨found', found'', reading', reading'', same, comments⟩ :=
    Stream.read_set sound read tokens plain whole harmless blank
  obtain rfl : found' = found := Except.ok.inj (reading'.symm.trans reading)
  have building' : Parser.parse found''.tokens = .ok bare := by
    rw [← Parser.parse_unlined, same, Parser.parse_unlined, building]
  let broken : Source := { src with text := String.ofList (src.text.toList.set op.endPos '\n') }
  refine ⟨found', found'', Comments.attach broken found''.comments bare, reading, reading'', same, ?_, ?_⟩
  · rw [Source.parse, String.toList_ofList, reading'']
    simp only [bind, Except.bind, building']
    rfl
  · have plays := Grammar.parse_plays building
    rw [Comments.shape_attach plays, Comments.shape_attach plays]

/-- Line breaks behind an operator in a substitution, and behind `>` before a parenthesis. -/
theorem Source.parse_line_break_substitution : ∃ tree tree' tree'' found found' found'',
    Source.parse { text := "\x60$\x7ba + b\x7d\x60 > (c);" } = .ok tree
      ∧ Source.parse { text := "\x60$\x7ba +\nb\x7d\x60 > (c);" } = .ok tree'
      ∧ Source.parse { text := "\x60$\x7ba + b\x7d\x60 >\n(c);" } = .ok tree''
      ∧ tree'.shape = tree.shape ∧ tree''.shape = tree.shape
      ∧ Stream.read "\x60$\x7ba + b\x7d\x60 > (c);".toList = .ok found
      ∧ Stream.read "\x60$\x7ba +\nb\x7d\x60 > (c);".toList = .ok found'
      ∧ Stream.read "\x60$\x7ba + b\x7d\x60 >\n(c);".toList = .ok found''
      ∧ found'.tokens.map Token.unlined = found.tokens.map Token.unlined
      ∧ found''.tokens.map Token.unlined = found.tokens.map Token.unlined := by
  have accepted : (Source.parse { text := "\x60$\x7ba + b\x7d\x60 > (c);" }).toOption.isSome := by
    rw [Source.parse_eq_parseByGrids]
    decide +kernel
  have tokens : (Expand.read "\x60$\x7ba + b\x7d\x60 > (c);".toList).toOption.map (·.tokens)
      = some [⟨.templateHead, "", 1, 0⟩, ⟨.name, "a", 1, 3⟩, ⟨.plus, "+", 1, 5⟩, ⟨.name, "b", 1, 7⟩,
        ⟨.templateTail, "", 1, 8⟩, ⟨.gt, ">", 1, 11⟩, ⟨.lparen, "(", 1, 13⟩, ⟨.name, "c", 1, 14⟩,
        ⟨.rparen, ")", 1, 15⟩, ⟨.semi, ";", 1, 16⟩] := by decide +kernel
  obtain ⟨tree, parsed⟩ := Option.isSome_iff_exists.mp accepted
  obtain ⟨raw, read, same⟩ := Option.map_eq_some_iff.mp tokens
  have parsed := ok_of_toOption parsed
  have read := ok_of_toOption read
  have isPlus : TokenKind.plus ∈ Grammar.operators := by decide +kernel
  have isGt : TokenKind.gt ∈ Grammar.operators := by decide +kernel
  obtain ⟨found, found', tree', reading, reading', unlined, parsed', shape⟩ :=
    Source.parse_line_break parsed read [_, _] same isPlus (by decide) (by decide)
  obtain ⟨found₂, found'', tree'', reading₂, reading'', unlined'', parsed'', shape''⟩ :=
    Source.parse_line_break parsed read [_, _, _, _, _] same isGt (by decide) (by decide)
  obtain rfl : found₂ = found := Except.ok.inj (reading₂.symm.trans reading)
  exact ⟨tree, tree', tree'', found₂, found', found'', parsed, parsed', parsed'', shape, shape'', reading,
    reading', reading'', unlined, unlined''⟩

/-- A product can be read, and the same with a line break behind the operator cannot. -/
theorem Source.parse_fails_behind_times :
    (∃ tree, Source.parse { text := "a * b;" } = .ok tree
      ∧ tree.preorder.map (·.kind) = ["program", "expr_stmt", "binary", "ident", "ident"])
      ∧ ∃ e, Source.parse { text := "a *\nb;" } = .error e := by
  have product : (Source.parse { text := "a * b;" }).toOption.any fun tree =>
      tree.preorder.map (·.kind) = ["program", "expr_stmt", "binary", "ident", "ident"] := by
    rw [Source.parse_eq_parseByGrids]
    decide +kernel
  have broken : (Source.parse { text := "a *\nb;" }).toOption.isNone := by
    rw [Source.parse_eq_parseByGrids]
    decide +kernel
  obtain ⟨tree, parsed, kinds⟩ := (Option.any_eq_true _ _).mp product
  refine ⟨⟨tree, ok_of_toOption parsed, of_decide_eq_true kinds⟩, ?_⟩
  cases fails : Source.parse { text := "a *\nb;" } with
  | error e => exact ⟨e, rfl⟩
  | ok tree =>
    rw [fails] at broken
    cases broken

end Retype
