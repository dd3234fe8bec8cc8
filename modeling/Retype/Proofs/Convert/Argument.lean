import Retype.Convert.Type

/-!
# Type arguments contain failures

The conversion of a type fails if something in it is no type, and the failure goes up through the
types around it, but not out of a list of type arguments.  There, each argument is attempted on its
own.  One that fails leaves what it has warned of so far, and one more warning with the cause.  The
others are kept in their order, and if there are none, the list is left out.

So a reference to a name is always converted, whatever its arguments are.  The operations that have
the form of a reference convert their arguments without an attempt.
-/

namespace Retype

namespace Outcome

variable {α : Type}

/-- What an attempt warns of: what was warned of before, and a failure as one more loss. -/
def attemptWarnings (x : Outcome α) (loss : Failure → Loss) (pos : Int) : List Warning :=
  x.warnings ++
    match x.result with
    | .ok _ => []
    | .error e => [⟨loss e, pos⟩]

/-- An attempt does not fail. -/
theorem attempt_eq (x : Outcome α) (loss : Failure → Loss) (pos : Int) :
    x.attempt loss pos = ⟨x.attemptWarnings loss pos, .ok x.toOption⟩ := by
  cases found : x.result with
  | ok a => simp [attempt, attemptWarnings, toOption, found, Except.toOption]
  | error e => simp [attempt, attemptWarnings, toOption, found, Except.toOption]

theorem attemptWarnings_of_ok {x : Outcome α} {a : α} (found : x.result = .ok a)
    (loss : Failure → Loss) (pos : Int) : x.attemptWarnings loss pos = x.warnings := by
  rw [attemptWarnings, found, List.append_nil]

theorem toOption_eq_none_iff {x : Outcome α} : x.toOption = none ↔ ∃ e, x.result = .error e := by
  cases found : x.result with
  | ok a => simp [toOption, found, Except.toOption]
  | error e => simp [toOption, found, Except.toOption]

end Outcome

namespace Convert

open Outcome (ofExcept attempt_eq)

/-- The types of a row that can be converted, converted. -/
def convertible (keep : Node → Node) (types : List Node) : List Node :=
  types.filterMap fun t => (convertType keep t).toOption

/-- Each type of a row is attempted on its own. -/
theorem convertEach_eq_convertible (keep : Node → Node) (types : List Node) :
    convertEach keep types =
      ⟨types.flatMap fun t => (convertType keep t).attemptWarnings .typeArgument t.pos,
        .ok (convertible keep types)⟩ := by
  induction types with
  | nil =>
    rw [convertEach]
    rfl
  | cons t ts ih =>
    rw [convertEach, attempt_eq, Outcome.bind_of_ok rfl, ih, Outcome.bind_of_ok rfl]
    cases kept : (convertType keep t).toOption with
    | none => simp [convertible, kept]
    | some u => simp [convertible, kept]

theorem convertTargs_eq_convertible (keep : Node → Node) (i : Info) (types : List Node) :
    convertTargs keep (some ⟨i, .flow (.targs types)⟩) =
      ⟨types.flatMap fun t => (convertType keep t).attemptWarnings .typeArgument t.pos,
        .ok (if (convertible keep types).isEmpty then none
          else some (.ts i.pos (.targs (convertible keep types))))⟩ := by
  rw [convertTargs, convertEach_eq_convertible, Outcome.bind_of_ok rfl, Outcome.pure_warnings,
    List.append_nil, Outcome.pure_result]

/-- Nothing is kept of types none of which can be converted. -/
theorem convertible_eq_nil_iff {keep : Node → Node} {types : List Node} :
    convertible keep types = [] ↔ ∀ t ∈ types, ∃ e, (convertType keep t).result = .error e := by
  rw [convertible, List.filterMap_eq_nil_iff]
  exact forall₂_congr fun t _ => Outcome.toOption_eq_none_iff

/-! ## References -/

/-- Names: identifiers, and what is qualified with one. -/
inductive IsName : Node → Prop
  | ident {i : Info} {name : String} : IsName ⟨i, .expr (.ident name)⟩
  | qualified {i : Info} {left : Node} {name : String} (isName : IsName left) :
      IsName ⟨i, .flow (.qualified left name)⟩
  | converted {i : Info} {left : Node} {name : String} : IsName ⟨i, .ts (.qualified left name)⟩

theorem IsName.entity {n : Node} (isName : IsName n) (keep : Node → Node) :
    ∃ e, entity keep n = .ok e := by
  induction isName with
  | ident => exact ⟨_, rfl⟩
  | qualified _ ih =>
    obtain ⟨e, found⟩ := ih
    exact ⟨_, by rw [Convert.entity, found]; rfl⟩
  | converted => exact ⟨_, rfl⟩

theorem IsName.referenceEntity {n : Node} (isName : IsName n) (keep : Node → Node)
    (targs : Option Node) : ∃ e, referenceEntity keep n targs = .ok e := by
  unfold Convert.referenceEntity
  split
  · split
    · split
      · exact ⟨_, rfl⟩
      · exact isName.entity keep
    · exact isName.entity keep
  · exact isName.entity keep

/-- A reference to a name is converted if its type arguments are. -/
theorem convertType_reference {keep : Node → Node} {i : Info} {name : Node} {targs args : Option Node}
    (isName : IsName name) (ordinary : utilityOf? name targs = none)
    (converted : (convertTargs keep targs).result = .ok args) :
    ∃ e, (convertType keep ⟨i, .flow (.generic name targs)⟩).result = .ok (.ts i.pos (.ref e args)) := by
  obtain ⟨e, found⟩ := isName.referenceEntity keep targs
  refine ⟨e, ?_⟩
  rw [convertType, ordinary]
  dsimp only
  rw [found, Outcome.bind_of_ok rfl, Outcome.bind_of_ok converted]
  rfl

/-- What is reported of a type argument: what its conversion warns of and, behind that, a failure
with its cause. -/
def argumentReport (keep : Node → Node) (t : Node) : List Diagnostic :=
  (convertType keep t).warnings.map Warning.diagnostic ++
    match (convertType keep t).result with
    | .ok _ => []
    | .error e =>
      [{ severity := .warning, message := "type argument dropped: " ++ e.message, pos := t.pos }]

theorem diagnostic_attemptWarnings (keep : Node → Node) (t : Node) :
    ((convertType keep t).attemptWarnings .typeArgument t.pos).map Warning.diagnostic
      = argumentReport keep t := by
  rw [Outcome.attemptWarnings, List.map_append, argumentReport]
  cases (convertType keep t).result <;> rfl

/-- The conversion of type arguments succeeds.  It keeps those that can be converted, and nothing if
there are none, and it reports each of the others as dropped.  So a reference to a name is converted,
whatever stands in its type arguments. -/
theorem convertTargs_contains_failures (keep : Node → Node) (i : Info) (types : List Node) :
    ∃ args, (convertTargs keep (some ⟨i, .flow (.targs types)⟩)).result = .ok args
      ∧ (args = none ↔ ∀ t ∈ types, ∃ e, (convertType keep t).result = .error e)
      ∧ (∀ r, args = some r →
        r = .ts i.pos (.targs (types.filterMap fun t => (convertType keep t).toOption)))
      ∧ (convertTargs keep (some ⟨i, .flow (.targs types)⟩)).warnings.map Warning.diagnostic
        = types.flatMap (argumentReport keep)
      ∧ ∀ j name, IsName name → utilityOf? name (some ⟨i, .flow (.targs types)⟩) = none →
        ∃ e, (convertType keep ⟨j, .flow (.generic name (some ⟨i, .flow (.targs types)⟩))⟩).result
          = .ok (.ts j.pos (.ref e args)) := by
  have converted := convertTargs_eq_convertible keep i types
  refine ⟨_, congrArg Outcome.result converted, ?_, ?_, ?_, fun j name isName ordinary =>
    convertType_reference isName ordinary (congrArg Outcome.result converted)⟩
  · rw [← convertible_eq_nil_iff]
    simp
  · intro r found
    split at found
    · cases found
    · exact (Option.some.inj found).symm
  · rw [converted]
    simp only [List.map_flatMap, diagnostic_attemptWarnings]

/-- The type arguments of `A<B<bad>, [typeof string, bad], string>`, where `bad` is no type. -/
def mixedArguments : List Node :=
  let bad (pos : Int) : Node := .plain pos (.foreign "type_bad" [])
  [.flow 2 (.generic (.ident 2 "B") (some (.flow 3 (.targs [bad 4])))),
    .flow 10 (.tuple [.flow 11 (.typeOf (.flow 18 (.primitive .string))), bad 26]),
    .flow 32 (.primitive .string)]

/-- The failure in `B<bad>` is contained there.  The one in the tuple is contained in the outer list,
behind a warning that the tuple gave before. -/
theorem convertTargs_contains_failures_mixed :
    IsName (.ident 0 "A") ∧ utilityOf? (.ident 0 "A") (some (.flow 1 (.targs mixedArguments))) = none
      ∧ ∃ args e, (convertType id (.flow 0 (.generic (.ident 0 "A")
          (some (.flow 1 (.targs mixedArguments)))))).result = .ok (.ts 0 (.ref e args))
        ∧ args ≠ none
        ∧ (convertTargs id (some (.flow 1 (.targs mixedArguments)))).warnings.map Warning.diagnostic
          = [⟨.warning, "type argument dropped: unsupported type node 'type_bad'", 4, none⟩,
            Warning.diagnostic ⟨.typeOfType, 11⟩,
            ⟨.warning, "type argument dropped: unsupported type node 'type_bad'", 10, none⟩] := by
  obtain ⟨args, -, empty, -, report, reference⟩ :=
    convertTargs_contains_failures id { pos := 1 } mixedArguments
  have ordinary : utilityOf? (.ident 0 "A") (some (.flow 1 (.targs mixedArguments))) = none := by
    decide +kernel
  obtain ⟨e, converted⟩ := reference { pos := 0 } (.ident 0 "A") .ident ordinary
  refine ⟨.ident, ordinary, args, e, converted, fun none => ?_, report.trans (by decide +kernel)⟩
  obtain ⟨failure, fails⟩ := empty.mp none (.flow 32 (.primitive .string)) (by simp [mixedArguments])
  cases fails

end Convert

end Retype
