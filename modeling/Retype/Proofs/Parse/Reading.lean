import Retype.Program

/-!
# Failures of reading

Whatever the text is, reading it gives a tree or one of the failures of reading: a character that
starts no token, a template without an end, or a token that cannot follow those before it.
-/

namespace Retype

variable {α β : Type}

/-- A step that fails only with failures of reading. -/
def Reads (x : Except Failure α) : Prop := ∀ e, x = .error e → e.isReading

namespace Reads

variable {x : Except Failure α}

theorem ok (a : α) : Reads (.ok a) := fun _ fails => nomatch fails

theorem error {e : Failure} (reading : e.isReading) : Reads (.error e : Except Failure α) :=
  fun _ fails => Except.error.inj fails ▸ reading

theorem bind {f : α → Except Failure β} (first : Reads x) (rest : ∀ a, Reads (f a)) :
    Reads (x >>= f) := by
  cases x with
  | ok a => exact rest a
  | error e => exact .error (first e rfl)

theorem map (reads : Reads x) (f : α → β) : Reads (x.map f) := by
  cases x with
  | ok a => exact .ok (f a)
  | error e => exact .error (reads e rfl)

end Reads

/-! ## Templates -/

theorem Template.isReading_unterminated (frames : List Frame) : (unterminated frames).isReading := by
  cases frames with
  | nil => rfl
  | cons f fs => cases f <;> rfl

theorem Template.reads_run (pos skip : Nat) (s : State) (cs : List Char) : Reads (run pos skip s cs) := by
  fun_induction run pos skip s cs with
  | case1 pos skip s => exact .error (isReading_unterminated s.frames)
  | case2 pos s skip c cs ih => exact ih
  | case3 pos s c cs skip s' found ih => exact ih
  | case4 => exact .ok _

theorem Template.reads_split (cs : List Char) : Reads (split cs) :=
  (reads_run _ _ _ _).bind fun _ => .ok _

/-! ## Tokens -/

theorem Lexer.reads_measure (pos : Nat) (c : Char) (cs : List Char) : Reads (measure pos c cs) := by
  unfold measure
  repeat' split
  · exact .ok _
  · exact .ok _
  · exact (Template.reads_run _ _ _ _).map _
  all_goals first | exact .ok _ | exact .error rfl

/-- What ends a list of lexemes is a failure of reading. -/
theorem Lexer.isReading_lexemes (pos line skip : Nat) (cs : List Char) :
    ∀ e, (lexemes pos line skip cs).2 = some e → e.isReading := by
  fun_induction lexemes pos line skip cs with
  | case1 => simp
  | case2 pos line skip c cs ih => exact ih
  | case3 pos line c cs e found =>
    intro e' same
    exact Option.some.inj same ▸ reads_measure pos c cs e found
  | case4 pos line c cs shape n found more ih => exact ih

namespace Expand

theorem reads_substitutions {read : Reader} (reads : ∀ start line stop, Reads (read start line stop))
    (t : Token) (spans : List Template.Span) (quasis : List (List Char)) :
    Reads (substitutions read t spans quasis) := by
  induction spans generalizing quasis with
  | nil => exact .ok _
  | cons s spans ih =>
    cases quasis with
    | nil => exact .ok _
    | cons q quasis => exact (reads _ _ _).bind fun _ => (ih quasis).bind fun _ => .ok _

theorem reads_template {read : Reader} (reads : ∀ start line stop, Reads (read start line stop))
    (t : Token) : Reads (template read t) := by
  refine (Template.reads_split _).bind fun r => ?_
  dsimp only
  split
  · exact (reads_substitutions reads _ _ _).bind fun _ => .ok _
  · exact .ok _

theorem reads_collect {read : Reader} (reads : ∀ start line stop, Reads (read start line stop))
    (stop : Option Nat) {failure : Option Failure} (reading : ∀ e, failure = some e → e.isReading)
    (ls : List Lexer.Lexeme) : Reads (collect read stop failure ls) := by
  induction ls with
  | nil =>
    unfold collect
    split
    · exact .error (reading _ rfl)
    · exact .ok _
  | cons l ls ih =>
    unfold collect
    split
    · exact ih.bind fun _ => .ok _
    · exact ih
    · split
      · exact .ok _
      · split
        · exact (reads_template reads _).bind fun _ => ih.bind fun _ => .ok _
        · exact ih.bind fun _ => .ok _

/-- The tokens of a text are read, or a failure of reading is met. -/
theorem reads_expand (text : List Char) (depth start line : Nat) (stop : Option Nat) :
    Reads (expand text depth start line stop) := by
  induction depth generalizing start line stop with
  | zero => exact .ok _
  | succ depth ih =>
    exact reads_collect (fun start line stop => ih start line (some stop)) stop
      (Lexer.isReading_lexemes _ _ _ _) _

theorem reads_read (text : List Char) : Reads (read text) :=
  (reads_expand _ _ _ _ _).bind fun _ => .ok _

end Expand

theorem Stream.reads_read (text : List Char) : Reads (read text) :=
  (Expand.reads_read text).bind fun _ => .ok _

/-! ## Sentences -/

namespace Parser

theorem isReading_failure (ts : List Token) : (failure ts).isReading := by
  cases ts <;> rfl

theorem reads_run (table : Grammar.Table) (fuel : Nat) (c : Config Grammar.rules) :
    Reads (run table fuel c) := by
  induction fuel generalizing c with
  | zero => exact .error (isReading_failure _)
  | succ fuel ih =>
    rw [run]
    split
    · exact ih _
    · exact .ok _
    · exact .error (isReading_failure _)

theorem reads_parse (ts : List Token) : Reads (parse ts) := (reads_run _ _ _).map _

end Parser

/-- A text is read, or a failure of reading is met. -/
theorem Source.reads_parse (src : Source) : Reads src.parse :=
  (Stream.reads_read _).bind fun found => (Parser.reads_parse found.tokens).bind fun _ => .ok _

end Retype
