import Retype.Failure

/-!
# Template literals

A template literal runs from a backquote to the next one, and may hold
substitutions `${...}`.  A substitution is code, so it may hold strings,
comments, braces and template literals of its own.  Its end is the first brace
that closes none of its own.

The scan reads one character at a time.  It keeps a stack of what is open, the
innermost first: a template, or a substitution with the number of its open
braces.  Inside a substitution it also knows whether it is in a string or a
comment.  The text ends while something is open exactly if the literal has no
end, and then the innermost open thing is the one to blame.

`scan` finds the end of a literal and the spans of its own substitutions.
`split` cuts a literal into the texts around them.
-/

namespace Retype.Template

/-- Something that is open at a point of a scan. -/
inductive Frame where
  /-- A template literal that starts at an offset. -/
  | template (start : Nat)
  /-- A substitution whose body starts at an offset, and its open braces. -/
  | substitution (start : Nat) (depth : Nat)
  deriving DecidableEq, Repr

/-- What a character of a substitution belongs to. -/
inductive Mode where
  | code
  | quoted (quote : Char)
  | lineComment
  | blockComment
  deriving DecidableEq, Repr

/-- The start and the end of the body of a substitution. -/
structure Span where
  /-- The offset of the first character of the body. -/
  start : Nat
  /-- The offset of the closing brace. -/
  stop : Nat
  deriving DecidableEq, Repr

/-- The state of a scan: what is open, and the spans found so far. -/
structure State where
  /-- What is open, the innermost first. -/
  frames : List Frame
  /-- What the next character belongs to, inside a substitution. -/
  mode : Mode := .code
  /-- The spans of the outermost literal, the last first. -/
  spans : List Span := []
  deriving DecidableEq, Repr

/-- What one character of a scan leads to. -/
inductive Step where
  /-- Go on behind this character and `skip` more. -/
  | next (skip : Nat) (state : State)
  /-- The scan ends, `width` characters from here. -/
  | done (width : Nat) (state : State)
  deriving Repr

/-- One character inside a template literal. -/
def stepTemplate (pos : Nat) (c : Char) (rest : List Char) (outer : List Frame) (s : State) :
    Step :=
  if c = '\\' then .next 1 s
  else if c = '\x60' then
    match outer with
    | [] => .done 1 { s with frames := [] }
    | _ => .next 0 { s with frames := outer }
  else if c = '$' ∧ rest.head? = some '\x7b' then
    .next 1 { s with frames := .substitution (pos + 2) 0 :: s.frames }
  else .next 0 s

/-- One character of the code of a substitution. -/
def stepCode (pos : Nat) (c : Char) (rest : List Char) (start depth : Nat) (outer : List Frame)
    (s : State) : Step :=
  if c = '\x27' ∨ c = '"' then .next 0 { s with mode := .quoted c }
  else if c = '\x60' then .next 0 { s with frames := .template pos :: s.frames }
  else if c = '/' ∧ rest.head? = some '/' then .next 1 { s with mode := .lineComment }
  else if c = '/' ∧ rest.head? = some '*' then .next 1 { s with mode := .blockComment }
  else if c = '\x7b' then .next 0 { s with frames := .substitution start (depth + 1) :: outer }
  else if c = '\x7d' then
    match depth, outer with
    | depth + 1, _ => .next 0 { s with frames := .substitution start depth :: outer }
    | 0, [] => .done 0 { s with frames := [] }
    | 0, [f] => .next 0 { s with frames := [f], spans := ⟨start, pos⟩ :: s.spans }
    | 0, fs => .next 0 { s with frames := fs }
  else .next 0 s

/-- One character of a scan. -/
def step (pos : Nat) (c : Char) (rest : List Char) (s : State) : Step :=
  match s.frames with
  | [] => .done 0 s
  | .template _ :: outer => stepTemplate pos c rest outer s
  | .substitution start depth :: outer =>
    match s.mode with
    | .code => stepCode pos c rest start depth outer s
    | .quoted q =>
      if c = q then .next 0 { s with mode := .code }
      else if c = '\\' then .next 1 s
      else .next 0 s
    | .lineComment => if c = '\n' then .next 0 { s with mode := .code } else .next 0 s
    | .blockComment =>
      if c = '*' ∧ rest.head? = some '/' then .next 1 { s with mode := .code } else .next 0 s

/-- The failure of a text that ends while something is open. -/
def unterminated : List Frame → Failure
  | .substitution start _ :: _ => .unterminatedSubstitution ((start : Int) - 2)
  | .template start :: _ => .unterminatedTemplate start
  | [] => .unterminatedTemplate 0

/-- Runs a scan over the text from an offset on.  The characters counted by
`skip` are passed over. -/
def run : (pos skip : Nat) → State → List Char → Except Failure (Nat × List Span)
  | _, _, s, [] => .error (unterminated s.frames)
  | pos, skip + 1, s, _ :: cs => run (pos + 1) skip s cs
  | pos, 0, s, c :: cs =>
    match step pos c cs s with
    | .next skip s => run (pos + 1) skip s cs
    | .done width s => .ok (pos + width, s.spans.reverse)

/-- The offset behind the template literal that starts a text, and the spans of
its substitutions.  The text stands at the offset `pos`. -/
def scan (pos : Nat) (cs : List Char) : Except Failure (Nat × List Span) :=
  run (pos + 1) 0 { frames := [.template pos] } (cs.drop 1)

/-- The offset of the brace that closes the substitution whose body starts a
text.  The text stands at the offset `pos`. -/
def scanSubstitution (pos : Nat) (cs : List Char) : Except Failure Nat :=
  (run pos 0 { frames := [.substitution pos 0] } cs).map (·.1)

/-- The piece of a text between two offsets. -/
def slice (cs : List Char) (start stop : Nat) : List Char := (cs.take stop).drop start

/-- The texts between the spans of a literal, from the offset `start` on. -/
def quasis (cs : List Char) (start : Nat) : List Span → List (List Char)
  | [] => [(cs.dropLast).drop start]
  | s :: spans => slice cs start (s.start - 2) :: quasis cs (s.stop + 1) spans

/-- The texts around the substitutions of a literal, and the spans of those. -/
def split (cs : List Char) : Except Failure (List (List Char) × List Span) := do
  let (_, spans) ← scan 0 cs
  return (quasis cs 1 spans, spans)

end Retype.Template
