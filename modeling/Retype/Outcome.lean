import Retype.Failure

/-!
# Outcomes

An *outcome* is what a conversion gives back: the warnings it reported, in
order, and a value or the failure that ended it.  The warnings before a failure
are kept.  Outcomes are put one after the other by `bind`: the second adds its
warnings behind those of the first, and does not run if the first failed.
-/

namespace Retype

/-- Warnings, and a value or a failure. -/
structure Outcome (α : Type) where
  /-- The warnings in the order they were reported. -/
  warnings : List Warning
  /-- The value, or what ended the conversion. -/
  result : Except Failure α

namespace Outcome

variable {α β : Type}

/-- A value without warnings. -/
def value (a : α) : Outcome α := ⟨[], .ok a⟩

/-- The first outcome, then the one made from its value. -/
def andThen (x : Outcome α) (f : α → Outcome β) : Outcome β :=
  match x.result with
  | .error e => ⟨x.warnings, .error e⟩
  | .ok a =>
    let y := f a
    ⟨x.warnings ++ y.warnings, y.result⟩

instance : Monad Outcome where
  pure := value
  bind := andThen

/-- A failure without warnings. -/
def fail (e : Failure) : Outcome α := ⟨[], .error e⟩

/-- One warning. -/
def warn (loss : Loss) (pos : Int) : Outcome Unit := ⟨[⟨loss, pos⟩], .ok ()⟩

/-- A step that reports no warnings. -/
def ofExcept (x : Except Failure α) : Outcome α := ⟨[], x⟩

/-- Turns a failure into a warning and goes on without a value. -/
def attempt (x : Outcome α) (loss : Failure → Loss) (pos : Int) : Outcome (Option α) :=
  match x.result with
  | .ok a => ⟨x.warnings, .ok (some a)⟩
  | .error e => ⟨x.warnings ++ [⟨loss e, pos⟩], .ok none⟩

/-- A warning if a condition holds. -/
def warnIf (condition : Bool) (loss : Loss) (pos : Int) : Outcome Unit :=
  if condition then warn loss pos else value ()

/-- The value of a conversion that succeeded. -/
def toOption (x : Outcome α) : Option α := x.result.toOption

@[simp]
theorem pure_warnings (a : α) : (pure a : Outcome α).warnings = [] := rfl

@[simp]
theorem pure_result (a : α) : (pure a : Outcome α).result = .ok a := rfl

theorem bind_of_ok {x : Outcome α} {a : α} (h : x.result = .ok a) (f : α → Outcome β) :
    x >>= f = ⟨x.warnings ++ (f a).warnings, (f a).result⟩ := by
  show x.andThen f = _
  simp [andThen, h]

theorem bind_of_error {x : Outcome α} {e : Failure} (h : x.result = .error e)
    (f : α → Outcome β) : x >>= f = ⟨x.warnings, .error e⟩ := by
  show x.andThen f = _
  simp [andThen, h]

end Outcome

end Retype
