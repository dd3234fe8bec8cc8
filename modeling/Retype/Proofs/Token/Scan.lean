import Retype.Token.Template

/-!
# Scans of template literals

A step of a scan looks at the innermost open thing, at what the character belongs to, and at one more
character.  What it does to the stack is an *act*: it stays, opens something, changes the count of
braces, or closes the innermost thing (`step_eq`).  So nothing below the innermost thing matters until
that is closed, and a scan over a higher stack first does what it does over the upper part alone, and
then goes on with the lower part (`run_append`).
-/

namespace Retype

namespace Template

/-! ## Acts -/

/-- What a character does to the innermost open thing. -/
inductive Act where
  /-- Nothing but that the next character may belong to something else. -/
  | stay (skip : Nat) (mode : Mode)
  /-- Something opens. -/
  | push (skip : Nat) (f : Frame)
  /-- The innermost thing is another. -/
  | change (f : Frame)
  /-- The innermost thing is closed. -/
  | close
  deriving DecidableEq, Repr

/-- The act of a character before another one. -/
def act (pos : Nat) (c : Char) (next : Option Char) : Frame → Mode → Act
  | .template _, mode =>
    if c = '\\' then .stay 1 mode
    else if c = '\x60' then .close
    else if c = '$' ∧ next = some '\x7b' then .push 1 (.substitution (pos + 2) 0)
    else .stay 0 mode
  | .substitution start depth, .code =>
    if c = '\x27' ∨ c = '"' then .stay 0 (.quoted c)
    else if c = '\x60' then .push 0 (.template pos)
    else if c = '/' ∧ next = some '/' then .stay 1 .lineComment
    else if c = '/' ∧ next = some '*' then .stay 1 .blockComment
    else if c = '\x7b' then .change (.substitution start (depth + 1))
    else if c = '\x7d' then
      match depth with
      | depth + 1 => .change (.substitution start depth)
      | 0 => .close
    else .stay 0 .code
  | .substitution .., .quoted q =>
    if c = q then .stay 0 .code else if c = '\\' then .stay 1 (.quoted q) else .stay 0 (.quoted q)
  | .substitution .., .lineComment => if c = '\n' then .stay 0 .code else .stay 0 .lineComment
  | .substitution .., .blockComment =>
    if c = '*' ∧ next = some '/' then .stay 1 .code else .stay 0 .blockComment

/-- What closing the innermost thing leads to. -/
def close (pos : Nat) (s : State) : Frame → List Frame → Step
  | .template _, [] => .done 1 { s with frames := [] }
  | .substitution .., [] => .done 0 { s with frames := [] }
  | .substitution start _, [f] => .next 0 { s with frames := [f], spans := ⟨start, pos⟩ :: s.spans }
  | _, outer => .next 0 { s with frames := outer }

/-- What an act leads to. -/
def perform (pos : Nat) (s : State) (top : Frame) (outer : List Frame) : Act → Step
  | .stay skip mode => .next skip { s with mode := mode }
  | .push skip f => .next skip { s with frames := f :: top :: outer }
  | .change f => .next 0 { s with frames := f :: outer }
  | .close => close pos s top outer

theorem step_eq (pos : Nat) (c : Char) (rest : List Char) {s : State} {top : Frame}
    {outer : List Frame} (opened : s.frames = top :: outer) :
    step pos c rest s = perform pos s top outer (act pos c rest.head? top s.mode) := by
  obtain ⟨frames, mode, spans⟩ := s
  subst opened
  cases top with
  | template start =>
    simp only [step, stepTemplate, act]
    split
    · rfl
    split
    · cases outer <;> rfl
    split <;> rfl
  | substitution start depth =>
    cases mode with
    | code =>
      simp only [step, stepCode, act]
      repeat' split
      all_goals try rfl
      all_goals simp_all [perform, close]
    | quoted q =>
      simp only [step, act]
      repeat' split
      all_goals rfl
    | lineComment =>
      simp only [step, act]
      split <;> rfl
    | blockComment =>
      simp only [step, act]
      split <;> rfl

/-- The spans behind the place where the innermost thing is closed. -/
def spansBehind (pos : Nat) (spans : List Span) : Frame → List Frame → List Span
  | .substitution start _, [_] => ⟨start, pos⟩ :: spans
  | _, _ => spans

theorem close_of_ne_nil (pos : Nat) (s : State) (top : Frame) {outer : List Frame} (more : outer ≠ []) :
    close pos s top outer = .next 0 ⟨outer, s.mode, spansBehind pos s.spans top outer⟩ := by
  cases top with
  | template start =>
    cases outer with
    | nil => exact absurd rfl more
    | cons f fs => rfl
  | substitution start depth =>
    cases outer with
    | nil => exact absurd rfl more
    | cons f fs => cases fs <;> rfl

theorem spansBehind_substitution (pos start depth depth' : Nat) (spans : List Span)
    (outer : List Frame) : spansBehind pos spans (.substitution start depth) outer
      = spansBehind pos spans (.substitution start depth') outer := by
  rcases outer with _ | ⟨f, _ | ⟨g, gs⟩⟩ <;> rfl

/-- Nothing but code is inside a template literal. -/
def Calm (frames : List Frame) (mode : Mode) : Prop :=
  ∀ start outer, frames = .template start :: outer → mode = .code

theorem calm_code (frames : List Frame) : Calm frames .code := fun _ _ _ => rfl

theorem calm_cons {f : Frame} {fs : List Frame} (fs' : List Frame) {mode : Mode}
    (calm : Calm (f :: fs) mode) : Calm (f :: fs') mode := by
  intro start outer same
  obtain ⟨rfl, -⟩ := List.cons.inj same
  exact calm start fs rfl

/-- The character that closes something. -/
def Frame.mark : Frame → Char
  | .template _ => '\x60'
  | .substitution .. => '\x7d'

/-- What an act can be.  Only in code does something open or close, and only the count of braces
changes. -/
inductive Act.Fits (c : Char) (top : Frame) (mode : Mode) : Act → Prop where
  | stay {skip : Nat} {mode' : Mode} (calm : Calm [top] mode') : Fits c top mode (.stay skip mode')
  | push {skip : Nat} {f : Frame} (code : mode = .code) : Fits c top mode (.push skip f)
  | change {start depth depth' : Nat} (code : mode = .code) (same : top = .substitution start depth) :
      Fits c top mode (.change (.substitution start depth'))
  | close (code : mode = .code) (marked : c = top.mark) : Fits c top mode .close

theorem act_fits (pos : Nat) (c : Char) (next : Option Char) {top : Frame} {mode : Mode}
    (calm : Calm [top] mode) : Act.Fits c top mode (act pos c next top mode) := by
  cases top with
  | template start =>
    simp only [act]
    split
    · exact .stay calm
    split
    next marked => exact .close (calm start [] rfl) marked
    split
    · exact .push (calm start [] rfl)
    · exact .stay calm
  | substitution start depth =>
    have stays {skip : Nat} {mode mode' : Mode} :
        Act.Fits c (.substitution start depth) mode (.stay skip mode') := .stay (by rintro _ _ ⟨⟩)
    cases mode with
    | code =>
      simp only [act]
      repeat' split
      · exact stays
      · exact .push rfl
      · exact stays
      · exact stays
      · exact .change rfl rfl
      · exact .change rfl rfl
      next marked _ => exact .close rfl marked
      · exact stays
    | quoted q =>
      simp only [act]
      repeat' split
      all_goals exact stays
    | lineComment =>
      simp only [act]
      split <;> exact stays
    | blockComment =>
      simp only [act]
      split <;> exact stays

/-! ## The upper part of a stack -/

/-- The offset behind the character that closes something, given where a scan of it ends. -/
def Frame.behind : Frame → Nat → Nat
  | .template _, stop => stop
  | .substitution .., stop => stop + 1

/-- How a scan over a stack goes on behind the upper part, given what a scan of that alone gives.  The
lowest frame of the upper part is `f`. -/
inductive Continues (outer : List Frame) (f : Frame) (spans : List Span) (pos : Nat)
    (cs : List Char) : (upper whole : Except Failure (Nat × List Span)) → Prop where
  | closes {stop : Nat} {found : List Span} {whole : Except Failure (Nat × List Span)}
      (low : pos < f.behind stop) (marked : cs[f.behind stop - pos - 1]? = some f.mark)
      (same : whole = run (f.behind stop) 0
        ⟨outer, .code, spansBehind (f.behind stop - 1) spans f outer⟩ (cs.drop (f.behind stop - pos))) :
      Continues outer f spans pos cs (.ok (stop, found)) whole
  | fails (e e' : Failure) : Continues outer f spans pos cs (.error e) (.error e')

section Continues

variable {outer : List Frame} {f : Frame} {spans : List Span} {pos : Nat} {c : Char} {cs : List Char}
  {upper whole : Except Failure (Nat × List Span)}

theorem Continues.cons (later : Continues outer f spans (pos + 1) cs upper whole) :
    Continues outer f spans pos (c :: cs) upper whole := by
  cases later with
  | @closes stop found _ low marked same =>
    have further : f.behind stop - pos - 1 = f.behind stop - (pos + 1) - 1 + 1 := by omega
    refine .closes (by omega) (by rw [further, List.getElem?_cons_succ, marked]) (same.trans ?_)
    rw [← List.drop_succ_cons (a := c), ← Nat.sub_sub, Nat.sub_add_cancel (by omega)]
  | fails e e' => exact .fails e e'

theorem Continues.of_substitution {start depth depth' : Nat}
    (later : Continues outer (.substitution start depth) spans pos cs upper whole) :
    Continues outer (.substitution start depth') spans pos cs upper whole := by
  cases later with
  | closes low marked same =>
    exact .closes low marked (same.trans (by rw [spansBehind_substitution]; rfl))
  | fails e e' => exact .fails e e'

end Continues

/-- A scan over a stack first closes the upper part, as a scan of that alone does, and goes on with
the lower part in code. -/
theorem run_append {outer : List Frame} (more : outer ≠ []) {cs : List Char} {pos skip : Nat}
    (above : List Frame) {f : Frame} {mode : Mode} {spans inner : List Span}
    (calm : Calm (above ++ [f]) mode) :
    Continues outer f spans pos cs (run pos skip ⟨above ++ [f], mode, inner⟩ cs)
      (run pos skip ⟨above ++ f :: outer, mode, spans⟩ cs) := by
  induction cs generalizing pos skip above f mode spans inner with
  | nil => exact .fails _ _
  | cons c cs ih =>
    cases skip with
    | succ skip => exact (ih above calm).cons
    | zero =>
      cases above with
      | nil =>
        rw [run, run, List.nil_append, List.nil_append, step_eq pos c cs rfl, step_eq pos c cs rfl]
        have fits := act_fits pos c cs.head? calm
        dsimp only at fits ⊢
        generalize act pos c cs.head? f mode = a at fits ⊢
        cases fits with
        | stay calm => exact (ih [] calm).cons
        | push code =>
          subst code
          exact (ih [_] (calm_code _)).cons
        | @change start depth depth' code same =>
          subst code same
          exact (ih [] (calm_code _)).of_substitution.cons
        | close code marked =>
          subst code
          rw [perform, perform, close_of_ne_nil pos _ f more]
          cases f with
          | template start =>
            exact .closes (Nat.lt_succ_self pos) (by simp [Frame.behind, marked]) (by simp [Frame.behind])
          | substitution start depth =>
            exact .closes (Nat.lt_succ_self pos) (by simp [Frame.behind, marked]) (by simp [Frame.behind])
      | cons top above =>
        rw [run, run, List.cons_append, List.cons_append, step_eq pos c cs rfl, step_eq pos c cs rfl]
        have fits := act_fits pos c cs.head? (calm_cons [] calm)
        dsimp only at fits ⊢
        generalize act pos c cs.head? top mode = a at fits ⊢
        cases fits with
        | stay calm => exact (ih (top :: above) (calm_cons _ calm)).cons
        | push code =>
          subst code
          exact (ih (_ :: top :: above) (calm_code _)).cons
        | change code same =>
          subst code
          exact (ih (_ :: above) (calm_code _)).cons
        | close code marked =>
          subst code
          rw [perform, perform, close_of_ne_nil pos _ top (by simp), close_of_ne_nil pos _ top (by simp)]
          -- two things at least are open below, so no span of the outermost literal ends here
          have inside : spansBehind pos spans top (above ++ f :: outer) = spans := by
            obtain ⟨g, gs, rfl⟩ := List.exists_cons_of_ne_nil more
            cases top <;> rcases above with _ | ⟨h, _ | ⟨i, is⟩⟩ <;> rfl
          rw [inside]
          exact (ih above (calm_code _)).cons

/-- A scan of one thing ends at the character that closes it. -/
theorem marked_of_run {f : Frame} {spans found : List Span} {pos stop : Nat} {cs : List Char}
    (closed : run pos 0 ⟨[f], .code, spans⟩ cs = .ok (stop, found)) :
    pos < f.behind stop ∧ cs[f.behind stop - pos - 1]? = some f.mark := by
  have goes : Continues [.template 0] f [] pos cs (run pos 0 ⟨[] ++ [f], .code, spans⟩ cs)
      (run pos 0 ⟨[] ++ f :: [.template 0], .code, []⟩ cs) :=
    run_append (List.cons_ne_nil _ _) [] (calm_code _)
  rw [List.nil_append, closed] at goes
  cases goes with
  | closes low marked => exact ⟨low, marked⟩

/-! ## Text behind a scan -/

/-- Whether a character closes the innermost thing does not depend on the next one. -/
theorem act_close {pos : Nat} {c : Char} {next : Option Char} {top : Frame} {mode : Mode}
    (closes : act pos c next top mode = .close) (next' : Option Char) :
    act pos c next' top mode = .close := by
  cases top with
  | template start =>
    simp only [act] at closes ⊢
    split at closes
    · cases closes
    next plain =>
      split at closes
      next marked => rw [if_neg plain, if_pos marked]
      next => split at closes <;> cases closes
  | substitution start depth =>
    cases mode with
    | code =>
      simp only [act] at closes
      repeat' split at closes
      all_goals cases closes
      subst_vars
      simp [act]
    | quoted q =>
      simp only [act] at closes
      repeat' split at closes
      all_goals cases closes
    | lineComment =>
      simp only [act] at closes
      split at closes <;> cases closes
    | blockComment =>
      simp only [act] at closes
      split at closes <;> cases closes

/-- The text behind the place where a scan ends does not matter. -/
theorem run_extend {pos skip : Nat} {s : State} {cs : List Char} {r : Nat × List Span}
    (closed : run pos skip s cs = .ok r) (after : List Char) :
    run pos skip s (cs ++ after) = .ok r := by
  induction cs generalizing pos skip s with
  | nil => cases closed
  | cons c cs ih =>
    cases skip with
    | succ skip => exact ih closed
    | zero =>
      rw [run] at closed
      rw [List.cons_append, run]
      rcases opened : s.frames with _ | ⟨top, outer⟩
      · simp only [step, opened] at closed ⊢
        exact closed
      · rw [step_eq pos c _ opened] at closed ⊢
        cases cs with
        | cons d cs =>
          have same : (d :: cs ++ after).head? = (d :: cs).head? := rfl
          rw [same]
          generalize perform pos s top outer _ = leads at closed ⊢
          cases leads with
          | next skip s => exact ih closed
          | done width s => exact closed
        | nil =>
          -- nothing is left, so the innermost thing is the last one, and it is closed here
          generalize acts : act pos c [].head? top s.mode = a at closed
          cases a with
          | close =>
            rw [act_close acts]
            rw [perform] at closed ⊢
            generalize close pos s top outer = leads at closed ⊢
            cases leads with
            | next skip s => cases closed
            | done width s => exact closed
          | stay | push | change => cases closed

/-- What an act leads to over a stack: the outermost thing is closed, or the scan goes on over a stack
with the same outermost thing but for the count of its braces. -/
theorem perform_cases (pos : Nat) (c : Char) (next : Option Char) {above : List Frame} {f : Frame}
    {mode : Mode} (spans : List Span) (calm : Calm (above ++ [f]) mode) {top : Frame}
    {outer : List Frame} (opened : above ++ [f] = top :: outer) :
    (act pos c next top mode = .close ∧ outer = [] ∧ top = f) ∨
      ∃ skip above' f' mode' spans', Calm (above' ++ [f']) mode' ∧ f'.behind = f.behind ∧
        perform pos ⟨above ++ [f], mode, spans⟩ top outer (act pos c next top mode) =
          .next skip ⟨above' ++ [f'], mode', spans'⟩ := by
  have fits := act_fits pos c next (calm_cons [] (opened ▸ calm))
  generalize act pos c next top mode = a at fits
  cases fits with
  | @stay skip mode' calm' =>
    exact .inr ⟨skip, above, f, mode', spans, by rw [opened]; exact calm_cons _ calm', rfl, rfl⟩
  | @push skip g code =>
    exact .inr ⟨skip, g :: above, f, mode, spans, code ▸ calm_code _, rfl, by simp [perform, opened]⟩
  | @change start depth depth' code same =>
    subst code same
    refine .inr ⟨0, ?_⟩
    cases above with
    | nil =>
      obtain ⟨rfl, rfl⟩ := List.cons.inj opened
      exact ⟨[], .substitution start depth', _, spans, calm_code _, rfl, rfl⟩
    | cons g above =>
      obtain ⟨rfl, rfl⟩ := List.cons.inj opened
      exact ⟨.substitution start depth' :: above, f, _, spans, calm_code _, rfl, rfl⟩
  | close code marked =>
    cases above with
    | nil =>
      obtain ⟨rfl, rfl⟩ := List.cons.inj opened
      exact .inl ⟨rfl, rfl, rfl⟩
    | cons g above =>
      obtain ⟨rfl, rfl⟩ := List.cons.inj opened
      refine .inr ⟨0, above, f, mode, spansBehind pos spans g (above ++ [f]), code ▸ calm_code _, rfl, ?_⟩
      rw [perform, close_of_ne_nil pos _ _ (by simp)]
      rfl

/-- A scan of the text up to the character that closes the outermost thing. -/
theorem run_take {cs : List Char} {pos skip : Nat} {above : List Frame} {f : Frame} {mode : Mode}
    {spans found : List Span} {stop : Nat} (calm : Calm (above ++ [f]) mode)
    (closed : run pos skip ⟨above ++ [f], mode, spans⟩ cs = .ok (stop, found)) :
    run pos skip ⟨above ++ [f], mode, spans⟩ (cs.take (f.behind stop - pos)) = .ok (stop, found) := by
  induction cs generalizing pos skip above f mode spans with
  | nil => cases closed
  | cons c cs ih =>
    -- the scan goes on behind this character, so the piece is not empty
    have further {skip : Nat} {above : List Frame} {f : Frame} {mode : Mode} {spans : List Span}
        (calm : Calm (above ++ [f]) mode)
        (closed : run (pos + 1) skip ⟨above ++ [f], mode, spans⟩ cs = .ok (stop, found)) :
        (c :: cs).take (f.behind stop - pos) = c :: cs.take (f.behind stop - (pos + 1))
          ∧ (cs.take (f.behind stop - (pos + 1))).head? = cs.head?
          ∧ run (pos + 1) skip ⟨above ++ [f], mode, spans⟩ (cs.take (f.behind stop - (pos + 1))) =
            .ok (stop, found) := by
      have alone := ih calm closed
      have long : 0 < f.behind stop - (pos + 1) := by
        refine Nat.pos_of_ne_zero fun none => ?_
        rw [none] at alone
        cases alone
      refine ⟨?_, ?_, alone⟩
      · rw [show f.behind stop - pos = f.behind stop - (pos + 1) + 1 by omega, List.take_succ_cons]
      · rw [List.head?_take, if_neg (by omega)]
    cases skip with
    | succ skip =>
      obtain ⟨same, -, alone⟩ := further calm closed
      rw [same]
      exact alone
    | zero =>
      obtain ⟨top, outer, opened⟩ := List.exists_cons_of_ne_nil (List.append_ne_nil_of_right_ne_nil above (List.cons_ne_nil f []))
      rw [run, step_eq pos c cs (show State.frames ⟨above ++ [f], mode, spans⟩ = _ from opened)] at closed
      rcases perform_cases pos c cs.head? spans calm opened with ⟨acts, rfl, rfl⟩ | ⟨skip, above', f', mode', spans', calm', behind, leads⟩
      · dsimp only at closed
        rw [acts] at closed
        cases top with
        | template start =>
          cases closed
          simp only [Frame.behind, Nat.add_sub_cancel_left, List.take_succ_cons, List.take_zero]
          rw [run, step_eq pos c _ (show State.frames ⟨above ++ [_], mode, spans⟩ = _ from opened)]
          rw [act_close acts]
          rfl
        | substitution start depth =>
          cases closed
          simp only [Frame.behind, Nat.add_zero, Nat.add_sub_cancel_left, List.take_succ_cons, List.take_zero]
          rw [run, step_eq pos c _ (show State.frames ⟨above ++ [_], mode, spans⟩ = _ from opened)]
          rw [act_close acts]
          rfl
      · rw [leads] at closed
        obtain ⟨same, head, alone⟩ := further calm' closed
        rw [behind] at same head alone
        rw [same, run, step_eq pos c _ (show State.frames ⟨above ++ [f], mode, spans⟩ = _ from opened), head]
        rw [leads]
        exact alone

/-! ## Offsets -/

end Template

/-- A failure to cut a text, moved by an offset. -/
def Failure.move (q : Nat) : Failure → Failure
  | .unexpectedCharacter c pos => .unexpectedCharacter c (pos + q)
  | .unterminatedTemplate pos => .unterminatedTemplate (pos + q)
  | .unterminatedSubstitution pos => .unterminatedSubstitution (pos + q)
  | e => e

namespace Template

/-- Something that is open, moved by an offset. -/
def Frame.move (q : Nat) : Frame → Frame
  | .template start => .template (start + q)
  | .substitution start depth => .substitution (start + q) depth

/-- A span moved by an offset. -/
def Span.move (q : Nat) (s : Span) : Span := ⟨s.start + q, s.stop + q⟩

/-- A state of a scan moved by an offset. -/
def State.move (q : Nat) (s : State) : State :=
  ⟨s.frames.map (Frame.move q), s.mode, s.spans.map (Span.move q)⟩

/-- An act moved by an offset. -/
def Act.move (q : Nat) : Act → Act
  | .push skip f => .push skip (f.move q)
  | .change f => .change (f.move q)
  | a => a

/-- A step moved by an offset. -/
def Step.move (q : Nat) : Step → Step
  | .next skip s => .next skip (s.move q)
  | .done width s => .done width (s.move q)

theorem act_move (q pos : Nat) (c : Char) (next : Option Char) (top : Frame) (mode : Mode) :
    act (pos + q) c next (top.move q) mode = (act pos c next top mode).move q := by
  cases top with
  | template start =>
    simp only [act, Frame.move]
    repeat' split
    all_goals simp only [Act.move, Frame.move, Nat.add_right_comm]
  | substitution start depth =>
    cases mode with
    | code =>
      simp only [act, Frame.move]
      repeat' split
      all_goals simp_all only [Act.move, Frame.move]
    | quoted =>
      simp only [act, Frame.move]
      repeat' split
      all_goals rfl
    | lineComment | blockComment =>
      simp only [act, Frame.move]
      split <;> rfl

theorem close_move (q pos : Nat) (s : State) (top : Frame) (outer : List Frame) :
    close (pos + q) (s.move q) (top.move q) (outer.map (Frame.move q)) = (close pos s top outer).move q := by
  cases top <;> rcases outer with _ | ⟨f, _ | ⟨g, gs⟩⟩ <;> rfl

theorem step_move (q pos : Nat) (c : Char) (rest : List Char) (s : State) :
    step (pos + q) c rest (s.move q) = (step pos c rest s).move q := by
  rcases opened : s.frames with _ | ⟨top, outer⟩
  · simp only [step, State.move, opened]
    simp [Step.move, State.move, opened]
  · have moved : (s.move q).frames = top.move q :: outer.map (Frame.move q) := by simp [State.move, opened]
    rw [step_eq pos c rest opened, step_eq (pos + q) c rest moved]
    have mode : (s.move q).mode = s.mode := rfl
    rw [mode, act_move]
    cases act pos c rest.head? top s.mode with
    | stay | push | change => simp [perform, Act.move, Step.move, State.move, opened]
    | close => exact close_move q pos s top outer

/-- A step closes the last open thing, or leaves something open. -/
theorem frames_of_step {pos : Nat} {c : Char} {rest : List Char} {s s' : State} {skip : Nat}
    (opened : s.frames ≠ []) (goes : step pos c rest s = .next skip s') : s'.frames ≠ [] := by
  obtain ⟨top, outer, same⟩ := List.exists_cons_of_ne_nil opened
  rw [step_eq pos c rest same] at goes
  generalize act pos c rest.head? top s.mode = a at goes
  cases a with
  | stay skip mode =>
    cases goes
    exact opened
  | push skip f =>
    cases goes
    exact List.cons_ne_nil _ _
  | change f =>
    cases goes
    exact List.cons_ne_nil _ _
  | close =>
    rw [perform] at goes
    cases outer with
    | nil => cases top <;> cases goes
    | cons f outer =>
      rw [close_of_ne_nil pos s top (List.cons_ne_nil f outer)] at goes
      cases goes
      exact List.cons_ne_nil f outer

theorem unterminated_move (q : Nat) {frames : List Frame} (opened : frames ≠ []) :
    unterminated (frames.map (Frame.move q)) = (unterminated frames).move q := by
  cases frames with
  | nil => exact absurd rfl opened
  | cons f frames =>
    cases f with
    | template start => exact congrArg Failure.unterminatedTemplate (by push_cast; rfl)
    | substitution start depth => exact congrArg Failure.unterminatedSubstitution (by push_cast; omega)

/-- A scan does not depend on where the text stands. -/
theorem run_move (q pos skip : Nat) {s : State} (opened : s.frames ≠ []) (cs : List Char) :
    run (pos + q) skip (s.move q) cs = ((run pos skip s cs).mapError (Failure.move q)).map
      fun r => (r.1 + q, r.2.map (Span.move q)) := by
  induction cs generalizing pos skip s with
  | nil => exact congrArg Except.error (unterminated_move q opened)
  | cons c cs ih =>
    cases skip with
    | succ skip =>
      have := ih (pos + 1) skip opened
      rwa [Nat.add_right_comm] at this
    | zero =>
      rw [run, run, step_move]
      cases goes : step pos c cs s with
      | next skip s =>
        have := ih (pos + 1) skip (frames_of_step opened goes)
        rwa [Nat.add_right_comm] at this
      | done width s =>
        refine congrArg Except.ok (Prod.ext (Nat.add_right_comm ..) ?_)
        exact List.map_reverse.symm

theorem run_move_ok (q : Nat) {pos skip : Nat} {s : State} (opened : s.frames ≠ []) {cs : List Char}
    {stop : Nat} {spans : List Span} (closed : run pos skip s cs = .ok (stop, spans)) :
    run (pos + q) skip (s.move q) cs = .ok (stop + q, spans.map (Span.move q)) := by
  rw [run_move q pos skip opened, closed]
  rfl

end Template

end Retype
