import Retype.Proofs.Token.Scan

/-!
# The characters of a template literal

A scan of a literal reads it character by character (`Literal`), and its substitutions as if each stood
alone (`run_hole`).  So the text of a literal says everything about it: a scan of that text alone finds
the same substitutions (`scan_take`).
-/

namespace Retype.Template

/-! ## Substitutions -/

theorem scanSubstitution_eq_ok_iff {pos : Nat} {cs : List Char} {stop : Nat} :
    scanSubstitution pos cs = .ok stop ↔
      ∃ spans, run pos 0 ⟨[.substitution pos 0], .code, []⟩ cs = .ok (stop, spans) := by
  unfold scanSubstitution
  cases run pos 0 ⟨[.substitution pos 0], .code, []⟩ cs with
  | error e => simp [Except.map]
  | ok r => simp [Except.map, Prod.ext_iff]

theorem le_of_scanSubstitution {pos : Nat} {cs : List Char} {stop : Nat}
    (closed : scanSubstitution pos cs = .ok stop) : pos ≤ stop := by
  obtain ⟨spans, closed⟩ := scanSubstitution_eq_ok_iff.mp closed
  exact Nat.le_of_lt_succ (marked_of_run closed).1

/-! ## Literals -/

/-- The characters of a literal from an offset inside it on, the spans of its substitutions and the
offset behind it. -/
inductive Literal : (pos : Nat) → List Char → List Span → (stop : Nat) → Prop where
  /-- The closing backquote. -/
  | close {pos : Nat} {cs : List Char} : Literal pos ('\x60' :: cs) [] (pos + 1)
  /-- A backslash and the character behind it. -/
  | escape {pos : Nat} {c : Char} {cs : List Char} {spans : List Span} {stop : Nat}
      (further : Literal (pos + 2) cs spans stop) : Literal pos ('\\' :: c :: cs) spans stop
  /-- A character of the text. -/
  | char {pos : Nat} {c : Char} {cs : List Char} {spans : List Span} {stop : Nat} (bare : c ≠ '\\')
      (inside : c ≠ '\x60') (plain : ¬(c = '$' ∧ cs.head? = some '\x7b'))
      (further : Literal (pos + 1) cs spans stop) : Literal pos (c :: cs) spans stop
  /-- A substitution. -/
  | hole {pos last : Nat} {cs : List Char} {spans : List Span} {stop : Nat}
      (closed : scanSubstitution (pos + 2) cs = .ok last)
      (further : Literal (last + 1) (cs.drop (last - (pos + 1))) spans stop) :
      Literal pos ('$' :: '\x7b' :: cs) (⟨pos + 2, last⟩ :: spans) stop

/-- A substitution of a literal is scanned as if it stood alone. -/
theorem run_hole {start pos : Nat} {cs : List Char} {before : List Span} :
    (∀ last, scanSubstitution (pos + 2) cs = .ok last →
      run pos 0 ⟨[.template start], .code, before⟩ ('$' :: '\x7b' :: cs) =
        run (last + 1) 0 ⟨[.template start], .code, ⟨pos + 2, last⟩ :: before⟩
          (cs.drop (last - (pos + 1))))
    ∧ ((∀ last, scanSubstitution (pos + 2) cs ≠ .ok last) →
      ∀ r, run pos 0 ⟨[.template start], .code, before⟩ ('$' :: '\x7b' :: cs) ≠ .ok r) := by
  have goes : Continues [.template start] (.substitution (pos + 2) 0) before (pos + 2) cs
      (run (pos + 2) 0 ⟨[] ++ [.substitution (pos + 2) 0], .code, []⟩ cs)
      (run (pos + 2) 0 ⟨[] ++ .substitution (pos + 2) 0 :: [.template start], .code, before⟩ cs) :=
    run_append (List.cons_ne_nil _ _) [] (calm_code _)
  have opens : run pos 0 ⟨[.template start], .code, before⟩ ('$' :: '\x7b' :: cs) =
      run (pos + 2) 0 ⟨.substitution (pos + 2) 0 :: [.template start], .code, before⟩ cs := by
    simp [run, step, stepTemplate]
  rw [opens]
  simp only [List.nil_append] at goes
  generalize whole : run (pos + 2) 0 ⟨.substitution (pos + 2) 0 :: [.template start], .code, before⟩ cs
    = all at goes ⊢
  generalize alone : run (pos + 2) 0 ⟨[.substitution (pos + 2) 0], .code, []⟩ cs = upper at goes
  cases goes with
  | @closes stop found _ low marked same =>
    have closed : scanSubstitution (pos + 2) cs = .ok stop := scanSubstitution_eq_ok_iff.mpr ⟨_, alone⟩
    refine ⟨fun last closes => ?_, fun none => absurd closed (none stop)⟩
    obtain rfl : stop = last := Except.ok.inj (closed.symm.trans closes)
    rw [same, spansBehind]
    simp only [Frame.behind, Nat.add_sub_cancel]
    congr 2
    omega
  | fails e e' =>
    refine ⟨fun last closes => ?_, fun _ r found => by cases found⟩
    obtain ⟨spans, closes⟩ := scanSubstitution_eq_ok_iff.mp closes
    rw [alone] at closes
    cases closes

/-- A scan of a literal finds its substitutions. -/
theorem run_template_eq_ok_iff {start pos : Nat} {cs : List Char} {before spans : List Span} {stop : Nat} :
    run pos 0 ⟨[.template start], .code, before⟩ cs = .ok (stop, spans) ↔
      ∃ own, spans = before.reverse ++ own ∧ Literal pos cs own stop := by
  constructor
  · intro closed
    induction n : cs.length using Nat.strongRecOn generalizing pos cs before with
    | _ n ih =>
      subst n
      cases cs with
      | nil => cases closed
      | cons c cs =>
        by_cases bare : c = '\\'
        · subst bare
          cases cs with
          | nil => cases closed
          | cons d cs =>
            obtain ⟨own, same, literal⟩ := ih cs.length (by simp only [List.length_cons]; omega)
              (by simpa [run, step, stepTemplate] using closed) rfl
            exact ⟨own, same, .escape literal⟩
        by_cases ended : c = '\x60'
        · subst ended
          simp only [run, step, stepTemplate, bare, ↓reduceIte] at closed
          cases closed
          exact ⟨[], by simp, .close⟩
        by_cases opens : c = '$' ∧ cs.head? = some '\x7b'
        · obtain ⟨rfl, opens⟩ := opens
          obtain ⟨rest, rfl⟩ := List.head?_eq_some_iff.mp opens
          cases substitution : scanSubstitution (pos + 2) rest with
          | error e => exact absurd closed (run_hole.2 (by simp [substitution]) _)
          | ok last =>
            rw [run_hole.1 last substitution] at closed
            obtain ⟨own, rfl, literal⟩ := ih (rest.drop (last - (pos + 1))).length (by simp; omega) closed rfl
            exact ⟨⟨pos + 2, last⟩ :: own, by simp, .hole substitution literal⟩
        · obtain ⟨own, same, literal⟩ := ih cs.length (Nat.lt_succ_self _)
            (by simpa [run, step, stepTemplate, bare, ended, opens] using closed) rfl
          exact ⟨own, same, .char bare ended opens literal⟩
  · rintro ⟨own, rfl, literal⟩
    induction literal generalizing before with
    | close => simp [run, step, stepTemplate]
    | escape further ih => simpa [run, step, stepTemplate] using ih
    | char bare inside plain further ih =>
      simpa [run, step, stepTemplate, bare, inside, plain] using ih
    | hole closed further ih =>
      rw [run_hole.1 _ closed, ih]
      simp

/-! ## The places of the substitutions -/

/-- The spans of the substitutions of a literal, from an offset inside it on.  A substitution stands
behind two characters, and the next one stands behind its brace. -/
inductive Spread : (pos : Nat) → List Char → List Span → (stop : Nat) → Prop where
  | nil {pos : Nat} {cs : List Char} {stop : Nat} (low : pos < stop) : Spread pos cs [] stop
  | cons {pos : Nat} {cs : List Char} {s : Span} {spans : List Span} {stop : Nat}
      (low : pos + 2 ≤ s.start)
      (closed : scanSubstitution s.start (cs.drop (s.start - pos)) = .ok s.stop)
      (further : Spread (s.stop + 1) (cs.drop (s.stop + 1 - pos)) spans stop) :
      Spread pos cs (s :: spans) stop

theorem Spread.later {pos : Nat} {c : Char} {cs : List Char} {spans : List Span} {stop : Nat}
    (spread : Spread (pos + 1) cs spans stop) : Spread pos (c :: cs) spans stop := by
  have drops {i : Nat} (low : pos + 1 ≤ i) : cs.drop (i - (pos + 1)) = (c :: cs).drop (i - pos) := by
    rw [← List.drop_succ_cons (a := c), ← Nat.sub_sub, Nat.sub_add_cancel (by omega)]
  cases spread with
  | nil low => exact .nil (by omega)
  | cons low closed further =>
    have := le_of_scanSubstitution closed
    rw [drops (by omega)] at closed further
    exact .cons (by omega) closed further

theorem spread_of_literal {pos : Nat} {cs : List Char} {spans : List Span} {stop : Nat}
    (literal : Literal pos cs spans stop) : Spread pos cs spans stop := by
  induction literal with
  | close => exact .nil (Nat.lt_succ_self _)
  | escape _ ih => exact ih.later.later
  | char _ _ _ _ ih => exact ih.later
  | @hole pos last cs spans stop closed further ih =>
    have := le_of_scanSubstitution closed
    have start : pos + 2 - pos = 2 := by omega
    have behind : last + 1 - pos = last - (pos + 1) + 2 := by omega
    refine .cons (Nat.le_refl _) ?_ ?_
    · rwa [start]
    · rwa [behind]

/-! ## The text of a literal alone -/

/-- A scan of a literal alone finds the same substitutions. -/
theorem scan_take {pos : Nat} {c : Char} {cs : List Char} {stop : Nat} {spans : List Span}
    (closed : scan pos (c :: cs) = .ok (stop, spans)) :
    ∃ own, scan 0 ((c :: cs).take (stop - pos)) = .ok (stop - pos, own)
      ∧ spans = own.map (Span.move pos) := by
  have low : pos + 1 < stop := (marked_of_run closed).1
  have alone : run (pos + 1) 0 ⟨[] ++ [.template pos], .code, []⟩ (cs.take (stop - (pos + 1))) =
      .ok (stop, spans) := run_take (calm_code _) closed
  have frames : State.move pos ⟨[.template 0], .code, []⟩ = ⟨[] ++ [.template pos], .code, []⟩ := by
    simp [State.move, Frame.move]
  have moved : run (1 + pos) 0 (State.move pos ⟨[.template 0], .code, []⟩) (cs.take (stop - (pos + 1))) = _ :=
    run_move pos 1 0 (List.cons_ne_nil _ _) _
  rw [frames, Nat.add_comm, alone] at moved
  cases inner : run 1 0 ⟨[.template 0], .code, []⟩ (cs.take (stop - (pos + 1))) with
  | error e =>
    rw [inner] at moved
    cases moved
  | ok r =>
    obtain ⟨last, own⟩ := r
    rw [inner] at moved
    obtain ⟨same, rfl⟩ := Prod.mk.inj (Except.ok.inj moved)
    obtain rfl : last = stop - pos := by omega
    refine ⟨own, ?_, rfl⟩
    have piece : (c :: cs).take (stop - pos) = c :: cs.take (stop - (pos + 1)) := by
      rw [show stop - pos = stop - (pos + 1) + 1 by omega, List.take_succ_cons]
    rw [piece, scan, List.drop_succ_cons, List.drop_zero, Nat.zero_add, inner]

end Retype.Template
