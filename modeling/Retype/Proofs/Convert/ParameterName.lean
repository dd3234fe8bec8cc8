import Mathlib.Data.List.Nodup
import Retype.Proofs.Convert.Step
import Retype.Proofs.Parse.Grid

/-!
# The names of parameters

A parameter of a function type keeps the name that it declares.  One that declares none gets the
name of its type in lower case, if that is not in use, and else the name of its place.

Nothing checks whether the name of a place is in use, and the name that the rest declares does not
count as used.  So a function type can get a name twice, and in these two ways only.
-/

namespace Retype.Convert

open Node (Parsed)

/-! ## Derived names -/

/-- The name of a place, for a parameter that gets no other. -/
def placeName (i : Nat) : String := "arg" ++ toString i

/-- The name that a parameter declares. -/
def declaredName? (p : Node) : Option String := (paramParts? p).bind (·.1)

/-- The name that the type of a parameter gives it. -/
def typeName? (p : Node) : Option String :=
  ((paramParts? p).bind fun parts => identifierOf? parts.2.1).map Text.lowerCase

/-- The name that a parameter would have if it stood alone, other than that of its place. -/
def wantedName? (p : Node) : Option String := (declaredName? p).or (typeName? p)

theorem placeName_inj {i j : Nat} (same : placeName i = placeName j) : i = j := by
  have digits := congrArg String.toList ((String.append_right_inj "arg").mp same)
  rw [Nat.toString_eq_repr, Nat.toString_eq_repr, Nat.toList_repr, Nat.toList_repr] at digits
  rw [← Nat.ofDigitChars_ten_toDigits (n := i), digits, Nat.ofDigitChars_ten_toDigits]

theorem take_toList_placeName (i : Nat) : (placeName i).toList.take 3 = ['a', 'r', 'g'] := by
  rw [placeName, String.toList_append]
  rfl

theorem placeName_not_reserved (i : Nat) : placeName i ∉ reserved := by
  have words : ∀ word ∈ reserved, word.toList.take 3 ≠ ['a', 'r', 'g'] := by decide
  exact fun member => words _ member (take_toList_placeName i)

theorem placeName_ne_rest (i : Nat) : placeName i ≠ "rest" := by
  intro same
  have start := take_toList_placeName i
  rw [same] at start
  exact absurd start (by decide)

/-- The names that a parameter at a place can be given, if others are in use. -/
inductive Derived (p : Node) (i : Nat) (used : List String) : String → Prop
  | place : Derived p i used (placeName i)
  | type {name : String} (given : typeName? p = some name) (free : name ∉ reserved)
      (unused : name ∉ used) : Derived p i used name

theorem derived_paramName {p type : Node} {name : Option String} {optional : Bool} (i : Nat)
    (used : List String) (parts : paramParts? p = some (name, type, optional)) :
    Derived p i used (paramName type i used) := by
  unfold paramName
  split
  next identifier found =>
    dsimp only
    split
    next free =>
      simp only [Bool.and_eq_true, decide_eq_true_eq] at free
      exact .type (by simp [typeName?, parts, found]) free.1.1 free.1.2
    next => exact .place
  next => exact .place

/-! ## Names one by one -/

section Places

variable {params : List Node} {i : Nat} {p : Node}

theorem paramNamesFrom_of_declared {name : String} (here : params[i]? = some p)
    (states : declaredName? p = some name) (used : List String) (place : Nat) :
    (paramNamesFrom used place params)[i]? = some name := by
  induction params generalizing i used place with
  | nil => cases here
  | cons q qs ih =>
    cases i with
    | zero =>
      cases Option.some.inj here
      obtain ⟨⟨_, type, optional⟩, parts, rfl⟩ := Option.bind_eq_some_iff.mp states
      rw [paramNamesFrom, parts]
      rfl
    | succ i =>
      rw [paramNamesFrom]
      split <;> exact ih here ..

/-- A parameter that declares no name is given one.  All names in use at the start are in use there,
and so are those given before. -/
theorem paramNamesFrom_of_none (fits : ∀ p ∈ params, (paramParts? p).isSome)
    (here : params[i]? = some p) (nameless : declaredName? p = none) (used : List String) (place : Nat) :
    ∃ name seen, (paramNamesFrom used place params)[i]? = some name ∧ Derived p (place + i) seen name
      ∧ used ⊆ seen
      ∧ ∀ j < i, ∀ q, params[j]? = some q → declaredName? q = none →
        ∀ other, (paramNamesFrom used place params)[j]? = some other → other ∈ seen := by
  induction params generalizing i used place with
  | nil => cases here
  | cons q qs ih =>
    obtain ⟨isParam, others⟩ := List.forall_mem_cons.mp fits
    obtain ⟨⟨said, type, optional⟩, parts⟩ := Option.isSome_iff_exists.mp isParam
    have states : declaredName? q = said := by rw [declaredName?, parts]; rfl
    rw [paramNamesFrom, parts]
    cases i with
    | zero =>
      cases Option.some.inj here
      cases states.symm.trans nameless
      exact ⟨_, used, rfl, derived_paramName place used parts, List.Subset.refl used,
        fun j earlier => absurd earlier (Nat.not_lt_zero j)⟩
    | succ i =>
      have shift : place + (i + 1) = place + 1 + i := by omega
      rw [shift]
      cases said with
      | some name =>
        obtain ⟨new, seen, found, derived, before, given⟩ := ih others here used (place + 1)
        refine ⟨new, seen, found, derived, before, fun j earlier r there unnamed => ?_⟩
        cases j with
        | zero =>
          cases Option.some.inj there
          cases states.symm.trans unnamed
        | succ j => exact given j (Nat.lt_of_succ_lt_succ earlier) r there unnamed
      | none =>
        obtain ⟨new, seen, found, derived, before, given⟩ :=
          ih others here (paramName type place used :: used) (place + 1)
        refine ⟨new, seen, found, derived, fun other among => before (List.mem_cons_of_mem _ among),
          fun j earlier r there unnamed other gets => ?_⟩
        cases j with
        | zero => exact Option.some.inj gets ▸ before List.mem_cons_self
        | succ j => exact given j (Nat.lt_of_succ_lt_succ earlier) r there unnamed other gets

end Places

/-! ## All names of a function type -/

/-- The names that the parameters of a function type get, with that of the rest behind the others. -/
def givenNames (params : List Node) (rest : Option Node) : List String :=
  paramNames params ++ (rest.map fun r => restName (declaredName? r) (paramNames params)).toList

/-- No parameter has the name of a place that another gets. -/
def PlaceNamesFree (all : List Node) (names : List String) : Prop :=
  ∀ (i : Nat) p, all[i]? = some p → declaredName? p = none → names[i]? = some (placeName i) →
    ∀ j, j ≠ i → names[j]? ≠ some (placeName i)

/-- No parameter gets the name that the rest declares. -/
def RestNameFree (params : List Node) (rest : Option Node) (names : List String) : Prop :=
  ∀ r name, rest = some r → declaredName? r = some name →
    ∀ (i : Nat) p, params[i]? = some p → declaredName? p = none → names[i]? ≠ some name

/-- No parameter wants the name of a place, and none wants the name that the rest declares. -/
def WantsApart (params : List Node) (rest : Option Node) : Prop :=
  (∀ p ∈ params, ∀ name ∈ wantedName? p, ∀ i ≤ params.length, name ≠ placeName i)
    ∧ ∀ r ∈ rest, ∀ name ∈ declaredName? r,
      (∀ i < params.length, name ≠ placeName i) ∧ ∀ p ∈ params, wantedName? p ≠ some name

instance (params : List Node) (rest : Option Node) : Decidable (WantsApart params rest) :=
  inferInstanceAs (Decidable (_ ∧ _))

section All

variable {params : List Node} {rest : Option Node} {i : Nat} {p : Node}

theorem length_givenNames : (givenNames params rest).length = (params ++ rest.toList).length := by
  cases rest <;> simp [givenNames, length_paramNames]

/-- A parameter is one of a row, or takes the rest. -/
theorem param_or_rest (here : (params ++ rest.toList)[i]? = some p) :
    params[i]? = some p ∨ rest = some p ∧ i = params.length := by
  rw [List.getElem?_append] at here
  split at here
  next => exact .inl here
  next behind =>
    cases rest with
    | none => cases here
    | some r =>
      rw [Option.toList_some, List.getElem?_singleton] at here
      split at here
      next first => exact .inr ⟨here, by omega⟩
      next => cases here

theorem givenNames_of_param (here : params[i]? = some p) :
    (givenNames params rest)[i]? = (paramNames params)[i]? := by
  obtain ⟨inside, -⟩ := List.getElem?_eq_some_iff.mp here
  exact List.getElem?_append_left (by rwa [length_paramNames])

theorem givenNames_of_rest {r : Node} : (givenNames params (some r))[params.length]?
    = some (restName (declaredName? r) (paramNames params)) := by
  rw [givenNames, List.getElem?_append_right (Nat.le_of_eq (length_paramNames params)),
    length_paramNames]
  simp

/-- A declared name is kept. -/
theorem givenNames_of_declared {name : String} (here : (params ++ rest.toList)[i]? = some p)
    (states : declaredName? p = some name) : (givenNames params rest)[i]? = some name := by
  rcases param_or_rest here with here | ⟨rfl, rfl⟩
  · rw [givenNames_of_param here]
    exact paramNamesFrom_of_declared here states _ _
  · have filled : declared (some name) = some name := by
      obtain ⟨parts, found, states⟩ := Option.bind_eq_some_iff.mp states
      unfold paramParts? at found
      split at found <;> cases found <;> simp_all [declared]
    rw [givenNames_of_rest, states, restName, filled]

/-- A name that is not declared is the name of its place, or is in use by none before. -/
theorem givenNames_of_none (fits : ∀ p ∈ params, (paramParts? p).isSome)
    (here : (params ++ rest.toList)[i]? = some p) (nameless : declaredName? p = none) :
    ∃ name, (givenNames params rest)[i]? = some name ∧ name ∉ reserved
      ∧ (name = placeName i
        ∨ (p ∈ params ∧ typeName? p = some name ∨ name = "rest" ∧ params.length ≤ i)
          ∧ name ∉ declaredNames params
          ∧ ∀ j < i, ∀ q, (params ++ rest.toList)[j]? = some q → declaredName? q = none →
            (givenNames params rest)[j]? ≠ some name) := by
  have declares : ∀ name ∈ declaredNames params, name ∈ paramNames params := by
    intro name among
    obtain ⟨q, member, states⟩ := List.mem_filterMap.mp among
    obtain ⟨j, there⟩ := List.mem_iff_getElem?.mp member
    exact List.mem_iff_getElem?.mpr ⟨j, paramNamesFrom_of_declared there states _ _⟩
  rcases param_or_rest here with here | ⟨rfl, rfl⟩
  · obtain ⟨name, seen, found, derived, before, given⟩ :=
      paramNamesFrom_of_none fits here nameless (declaredNames params) 0
    refine ⟨name, (givenNames_of_param here).trans found, ?_⟩
    rw [Nat.zero_add] at derived
    cases derived with
    | place => exact ⟨placeName_not_reserved i, .inl rfl⟩
    | type typed free unused =>
      refine ⟨free, .inr ⟨.inl ⟨List.mem_of_getElem? here, typed⟩, fun among => unused (before among),
        fun j earlier q there unnamed gets => ?_⟩⟩
      obtain ⟨inside, -⟩ := List.getElem?_eq_some_iff.mp here
      rw [List.getElem?_append_left (by omega)] at there
      rw [givenNames_of_param there] at gets
      exact unused (given j earlier q there unnamed name gets)
  · have rested : restName none (paramNames params)
        = if "rest" ∈ paramNames params then placeName params.length else "rest" := by
      rw [← length_paramNames params]
      rfl
    rw [givenNames_of_rest, nameless, rested]
    split
    next taken => exact ⟨_, rfl, placeName_not_reserved _, .inl rfl⟩
    next free =>
      refine ⟨_, rfl, by decide, .inr ⟨.inr ⟨rfl, Nat.le_refl _⟩,
        fun among => free (declares _ among), fun j earlier q there _ gets => ?_⟩⟩
      rw [List.getElem?_append_left earlier] at there
      rw [givenNames_of_param there] at gets
      exact free (List.mem_of_getElem? gets)

/-- Parameters that declare the same name are the same. -/
theorem index_unique {j : Nat} {q : Node} {name : String}
    (distinct : (declaredNames (params ++ rest.toList)).Nodup) (earlier : i < j)
    (here : (params ++ rest.toList)[i]? = some p) (there : (params ++ rest.toList)[j]? = some q)
    (states : declaredName? p = some name) : declaredName? q ≠ some name := by
  intro also
  have apart := List.pairwise_iff_getElem.mp (List.pairwise_filterMap.mp distinct)
  obtain ⟨inside, rfl⟩ := List.getElem?_eq_some_iff.mp here
  obtain ⟨within, rfl⟩ := List.getElem?_eq_some_iff.mp there
  exact apart i j inside within earlier name states name also rfl

/-- Names repeat in two ways only: with the name of a place, and with the name that the rest
declares. -/
theorem nodup_givenNames_iff (fits : ∀ p ∈ params, (paramParts? p).isSome)
    (distinct : (declaredNames (params ++ rest.toList)).Nodup) :
    (givenNames params rest).Nodup ↔ PlaceNamesFree (params ++ rest.toList) (givenNames params rest)
      ∧ RestNameFree params rest (givenNames params rest) := by
  have only (nodup : (givenNames params rest).Nodup) {i j : Nat} {name : String}
      (first : (givenNames params rest)[i]? = some name)
      (second : (givenNames params rest)[j]? = some name) : i = j := by
    obtain ⟨inside, -⟩ := List.getElem?_eq_some_iff.mp first
    exact (List.getElem?_inj inside nodup).mp (first.trans second.symm)
  refine ⟨fun nodup => ⟨fun i p _ _ gets j other again => other (only nodup again gets), ?_⟩, ?_⟩
  · rintro r name rfl states i p here - again
    have last : (params ++ (some r).toList)[params.length]? = some r := by simp
    obtain ⟨inside, -⟩ := List.getElem?_eq_some_iff.mp here
    have := only nodup again (givenNames_of_declared last states)
    omega
  · rintro ⟨placesFree, restFree⟩
    refine List.nodup_iff_getElem?_ne_getElem?.mpr fun i j earlier within same => ?_
    rw [length_givenNames] at within
    obtain ⟨q, there⟩ : ∃ q, (params ++ rest.toList)[j]? = some q := ⟨_, List.getElem?_eq_getElem within⟩
    obtain ⟨p, here⟩ : ∃ p, (params ++ rest.toList)[i]? = some p :=
      ⟨_, List.getElem?_eq_getElem (Nat.lt_trans earlier within)⟩
    -- a place that declares a name is one of the row, if it is the first of the two
    have inRow : params[i]? = some p := by
      rcases param_or_rest here with here | ⟨-, rfl⟩
      · exact here
      · rcases param_or_rest there with there | ⟨-, rfl⟩
        · exact absurd (List.getElem?_eq_some_iff.mp there).1 (by omega)
        · omega
    cases declaresSecond : declaredName? q with
    | some name =>
      have second := givenNames_of_declared there declaresSecond
      cases declaresFirst : declaredName? p with
      | some other =>
        cases Option.some.inj ((givenNames_of_declared here declaresFirst).symm.trans (same.trans second))
        exact index_unique distinct earlier here there declaresFirst declaresSecond
      | none =>
        obtain ⟨other, first, -, place | ⟨-, unused, -⟩⟩ := givenNames_of_none fits here declaresFirst
        · subst place
          exact placesFree i p here declaresFirst first j (by omega) (same.symm.trans first)
        · cases Option.some.inj (first.symm.trans (same.trans second))
          rcases param_or_rest there with there | ⟨isRest, -⟩
          · exact unused (List.mem_filterMap.mpr ⟨q, List.mem_of_getElem? there, declaresSecond⟩)
          · exact restFree q _ isRest declaresSecond i p inRow declaresFirst first
    | none =>
      obtain ⟨name, second, -, place | ⟨-, unused, before⟩⟩ := givenNames_of_none fits there declaresSecond
      · subst place
        exact placesFree j q there declaresSecond second i (by omega) (same.trans second)
      · cases declaresFirst : declaredName? p with
        | some other =>
          cases Option.some.inj ((givenNames_of_declared here declaresFirst).symm.trans (same.trans second))
          exact unused (List.mem_filterMap.mpr ⟨p, List.mem_of_getElem? inRow, declaresFirst⟩)
        | none => exact before i earlier p here declaresFirst (same.trans second)

theorem wantedName?_of_declared {name : String} (states : declaredName? p = some name) :
    wantedName? p = some name := by
  rw [wantedName?, states]
  rfl

theorem wantedName?_of_type {name : String} (nameless : declaredName? p = none)
    (typed : typeName? p = some name) : wantedName? p = some name := by
  rw [wantedName?, nameless, typed]
  rfl

/-- Names that are wanted apart are given apart. -/
theorem nodup_of_wantsApart (fits : ∀ p ∈ params, (paramParts? p).isSome)
    (distinct : (declaredNames (params ++ rest.toList)).Nodup) (apart : WantsApart params rest) :
    (givenNames params rest).Nodup := by
  obtain ⟨noPlace, noRest⟩ := apart
  refine (nodup_givenNames_iff fits distinct).mpr ⟨fun i p here nameless gets j other again => ?_, ?_⟩
  · have bound : i ≤ params.length := by
      rcases param_or_rest here with here | ⟨-, rfl⟩
      · exact Nat.le_of_lt (List.getElem?_eq_some_iff.mp here).1
      · exact Nat.le_refl _
    obtain ⟨within, -⟩ := List.getElem?_eq_some_iff.mp again
    rw [length_givenNames] at within
    obtain ⟨q, there⟩ : ∃ q, (params ++ rest.toList)[j]? = some q := ⟨_, List.getElem?_eq_getElem within⟩
    cases declares : declaredName? q with
    | some name =>
      cases Option.some.inj ((givenNames_of_declared there declares).symm.trans again)
      rcases param_or_rest there with there | ⟨isRest, rfl⟩
      · exact noPlace q (List.mem_of_getElem? there) _ (wantedName?_of_declared declares) i bound rfl
      · exact (noRest q isRest _ declares).1 i (by omega) rfl
    | none =>
      obtain ⟨name, found, -, how⟩ := givenNames_of_none fits there declares
      cases Option.some.inj (found.symm.trans again)
      rcases how with place | ⟨⟨member, typed⟩ | ⟨rested, -⟩, -⟩
      · exact other (placeName_inj place).symm
      · exact noPlace q member _ (wantedName?_of_type declares typed) i bound rfl
      · exact placeName_ne_rest i rested
  · intro r name isRest states i p here nameless gets
    obtain ⟨inside, -⟩ := List.getElem?_eq_some_iff.mp here
    have among : (params ++ rest.toList)[i]? = some p := by
      rw [List.getElem?_append_left inside, here]
    obtain ⟨other, found, -, how⟩ := givenNames_of_none fits among nameless
    cases Option.some.inj (found.symm.trans gets)
    rcases how with place | ⟨⟨member, typed⟩ | ⟨-, behind⟩, -⟩
    · exact (noRest r isRest _ states).1 i inside place
    · exact (noRest r isRest _ states).2 p member (wantedName?_of_type nameless typed)
    · omega

end All

/-! ## Converted function types -/

/-- The name of a TypeScript parameter. -/
def tsParamName? (p : Node) : Option String :=
  match p.form with
  | .ts (.param name _ _) => some name
  | _ => none

/-- The names in a TypeScript function type, with that of the rest behind the others. -/
def signatureNames (u : Node) : List String :=
  match u.form with
  | .ts (.function _ params rest _) => (params ++ rest.toList).filterMap tsParamName?
  | _ => []

section Function

variable {params : List Node} {rest : Option Node}

theorem tsParamName?_tsParams {names : List String} {types : List Node}
    (typed : types.length = params.length) (named : names.length = params.length) :
    (tsParams params names types).filterMap tsParamName? = names := by
  induction params generalizing names types with
  | nil =>
    cases List.length_eq_zero_iff.mp named
    rfl
  | cons p ps ih =>
    cases types with
    | nil => cases typed
    | cons type types =>
      cases names with
      | nil => cases named
      | cons name names =>
        rw [tsParams, List.filterMap_cons, ih (Nat.succ.inj typed) (Nat.succ.inj named)]
        rfl

theorem length_convertParams {types : List Node} (fits : ∀ p ∈ params, p.Plays Parsed .fnParam)
    (result : (convertParams id params).result = .ok types) : types.length = params.length := by
  induction params generalizing types with
  | nil =>
    cases result
    rfl
  | cons p ps ih =>
    obtain ⟨isParam, others⟩ := List.forall_mem_cons.mp fits
    obtain ⟨i, name, type, optional, rfl, -⟩ := param_cases isParam
    rw [convertParams] at result
    obtain ⟨u, -, result⟩ := Outcome.ok_of_bind result
    obtain ⟨us, found, rfl⟩ := Outcome.ok_of_map result
    rw [List.length_cons, List.length_cons, ih others found]

theorem tsParamName?_tsRest {type : Option Node} (fits : ∀ r ∈ rest, r.Plays Parsed .fnParam)
    (result : (convertRest id rest).result = .ok type) (others : List String) :
    (tsRest rest type others).toList.filterMap tsParamName?
      = (rest.map fun r => restName (declaredName? r) others).toList := by
  cases rest with
  | none => rfl
  | some r =>
    obtain ⟨i, name, inner, optional, rfl, -⟩ := param_cases (fits r rfl)
    rw [convertRest] at result
    obtain ⟨u, -, rfl⟩ := Outcome.ok_of_map result
    rfl

/-- The names in a converted function type are the given ones. -/
theorem signatureNames_of_convertFunction {i : Info} {tparams : Option Node} {ret u : Node}
    (areParams : ∀ p ∈ params, p.Plays Parsed .fnParam)
    (isRest : ∀ r ∈ rest, r.Plays Parsed .fnParam)
    (result : (convertFunction id ⟨i, .flow (.function tparams params rest ret)⟩).result = .ok u) :
    signatureNames u = givenNames params rest := by
  rw [convertFunction] at result
  obtain ⟨types, paramTypes, result⟩ := Outcome.ok_of_bind result
  obtain ⟨restType, foundRest, result⟩ := Outcome.ok_of_bind result
  obtain ⟨tps, -, result⟩ := Outcome.ok_of_bind result
  obtain ⟨v, -, rfl⟩ := Outcome.ok_of_map result
  change (tsParams params (paramNames params) types
    ++ (tsRest rest restType (paramNames params)).toList).filterMap tsParamName? = _
  rw [List.filterMap_append, tsParamName?_tsParams (length_convertParams areParams paramTypes)
    (length_paramNames params), tsParamName?_tsRest isRest foundRest, givenNames]

end Function

/-- The names of a converted function type.  Declared names are kept, and the others are no reserved
words.  If the declared names are distinct, then all names are distinct unless a parameter that gets
the name of its place shares it with another, or a parameter without a name gets the one that the
rest declares.  Neither happens if no name like that of a place is declared or comes from a type, and
none from a type is that of the rest. -/
theorem convertFunction_names_nodup_iff {n ret : Node} {tparams rest : Option Node}
    {params : List Node} (built : n.GrammarBuilt)
    (form : n.form = .flow (.function tparams params rest ret))
    (distinct : (declaredNames (params ++ rest.toList)).Nodup) :
    ∃ u, (convertFunction id n).result = .ok u
      ∧ (signatureNames u).length = (params ++ rest.toList).length
      ∧ (∀ (i : Nat) p, (params ++ rest.toList)[i]? = some p →
          ∀ name, declaredName? p = some name → (signatureNames u)[i]? = some name)
      ∧ (∀ (i : Nat) p, (params ++ rest.toList)[i]? = some p → declaredName? p = none →
          ∃ name, (signatureNames u)[i]? = some name ∧ name ∉ reserved)
      ∧ ((signatureNames u).Nodup ↔ PlaceNamesFree (params ++ rest.toList) (signatureNames u)
          ∧ RestNameFree params rest (signatureNames u))
      ∧ (WantsApart params rest → (signatureNames u).Nodup) := by
  have slots := (Node.formed_iff.mp built.formed).2.2
  have isType : n.Plays Parsed .type := ⟨by simp [form, Form.roles, FlowForm.roles], built.formed⟩
  have isFunction : n.Plays Parsed .fnType := ⟨by simp [form, Form.roles, FlowForm.roles], built.formed⟩
  obtain ⟨u, converts, -⟩ := convertsTo_of_plays isType
  have result : (convertFunction id n).result = .ok u := by
    rw [convertFunction_eq isFunction, converts.result]
  rcases n with ⟨i, f⟩
  cases form
  simp only [Form.slots, FlowForm.slots, List.forall_mem_append, Role.forall_mem_for?,
    Role.forall_mem_forAll] at slots
  obtain ⟨⟨⟨-, areParams⟩, isRest⟩, -⟩ := slots
  have fits : ∀ p ∈ params, (paramParts? p).isSome := by
    intro p member
    obtain ⟨j, name, type, optional, rfl, -⟩ := param_cases (areParams p member)
    rfl
  refine ⟨u, result, ?_⟩
  rw [signatureNames_of_convertFunction areParams isRest result]
  refine ⟨length_givenNames, fun i p here name states => givenNames_of_declared here states,
    fun i p here nameless => ?_, nodup_givenNames_iff fits distinct, nodup_of_wantsApart fits distinct⟩
  obtain ⟨name, found, free, -⟩ := givenNames_of_none fits here nameless
  exact ⟨name, found, free⟩

/-- Whether a node is a function type with distinct declared names that are wanted apart. -/
def isApart (n : Node) : Bool :=
  match n.form with
  | .flow (.function _ params rest _) =>
    decide ((declaredNames (params ++ rest.toList)).Nodup) && decide (WantsApart params rest)
  | _ => false

theorem convertFunction_names_nodup_rest : ∃ tree n u,
    Source.parse { text := "type F = (A, ...B) => C" } = .ok tree ∧ n ∈ tree.preorder
      ∧ (convertFunction id n).result = .ok u ∧ (signatureNames u).Nodup := by
  have found : ((Source.parse { text := "type F = (A, ...B) => C" }).toOption.bind fun tree =>
      tree.preorder.find? isApart).isSome := by
    rw [Source.parse_eq_parseByGrids]
    decide +kernel
  obtain ⟨n, found⟩ := Option.isSome_iff_exists.mp found
  obtain ⟨tree, parsed, found⟩ := Option.bind_eq_some_iff.mp found
  have parsed := ok_of_toOption parsed
  have member := List.mem_of_find?_eq_some found
  have apart := List.find?_some found
  unfold isApart at apart
  split at apart
  next tparams params rest ret form =>
    simp only [Bool.and_eq_true, decide_eq_true_eq] at apart
    obtain ⟨u, result, -, -, -, -, nodup⟩ :=
      convertFunction_names_nodup_iff (.inr ⟨_, tree, parsed, member⟩) form apart.1
    exact ⟨tree, n, u, parsed, member, result, nodup apart.2⟩
  next => cases apart

/-- A function type with a parameter that gets the name which the rest declares, and with one that
declares the name of a place. -/
def repeatingFunction : Node :=
  let typed (name : Option String) (type : String) : Node :=
    .flow 0 (.param name (.flow 0 (.generic (.ident 0 type) none)) false)
  .flow 0 (.function none [typed none "A", typed (some "arg2") "B", typed none "Class"]
    (some (typed (some "a") "C")) (.flow 0 (.primitive .number)))

/-- Both ways to get a name twice are real. -/
theorem convertFunction_names_repeat :
    (∃ tparams params rest ret, repeatingFunction.form = .flow (.function tparams params rest ret)
        ∧ (declaredNames (params ++ rest.toList)).Nodup)
      ∧ (convertFunction id repeatingFunction).toOption.map signatureNames
        = some ["a", "arg2", "arg2", "a"] :=
  ⟨⟨_, _, _, _, rfl, by decide⟩, by decide⟩

end Retype.Convert
