import Retype.Convert.Name

/-!
# Utility types

Some Flow names stand for a type operation and not for a declared type.  Such a
name counts only with the right number of arguments.  `Utility.of?` recognises
the operation and `Utility.build` makes the TypeScript type from the converted
arguments.

An operation may need its argument twice.  The second one is a copy, and a copy is
not a kept node: what a pass under way changes in kept nodes is not changed in it.
-/

namespace Retype.Convert

/-- A type operation that Flow spells as a name. -/
inductive Utility where
  /-- The argument itself. -/
  | exact
  /-- The keys of an object type. -/
  | keys
  /-- The values of an object type. -/
  | values
  /-- The type of a property. -/
  | element
  /-- An object type that cannot be written to. -/
  | readOnly
  /-- The result of a function type. -/
  | call
  /-- The same operation under another name. -/
  | renamed (name : String)
  /-- A handle of a timer. -/
  | timer
  /-- An event of the user interface library. -/
  | event (name : String)
  deriving DecidableEq, Repr

/-- The namespace of the user interface library. -/
def uiNamespace : String := "React"

/-- Names of that library that are spelled differently in TypeScript. -/
def uiAlias? : String → Option String
  | "Node" => some "ReactNode"
  | "Element" => some "ReactElement"
  | _ => none

namespace Utility

/-- The operation of a name with a number of arguments. -/
def of? (name : String) (count : Nat) : Option Utility :=
  match name, count with
  | "$Exact", 1 => some exact
  | "$Keys", 1 => some keys
  | "$Values", 1 => some values
  | "$ElementType", 2 => some element
  | "$PropertyType", 2 => some element
  | "$ReadOnly", 1 => some readOnly
  | "$Call", _ + 1 => some call
  | "$Diff", 2 => some (renamed "Exclude")
  | "$Rest", 2 => some (renamed "Exclude")
  | "$ReadOnlyArray", 1 => some (renamed "ReadonlyArray")
  | "$Shape", 1 => some (renamed "Partial")
  | "$NonMaybeType", 1 => some (renamed "NonNullable")
  | "TimeoutID", 0 => some timer
  | "IntervalID", 0 => some timer
  | "SyntheticEvent", _ => some (event "SyntheticEvent")
  | "SyntheticMouseEvent", _ => some (event "MouseEvent")
  | "SyntheticKeyboardEvent", _ => some (event "KeyboardEvent")
  | _, _ => none

/-- Whether only the first argument counts. -/
def usesFirst : Utility → Bool
  | call => true
  | _ => false

/-- Whether the argument stands twice in the type. -/
def usesCopy : Utility → Bool
  | values => true
  | _ => false

/-- A member that cannot be written to. -/
def readOnlyMember (m : Node) : Node :=
  match m.form with
  | .ts (.propSig key type optional _) =>
    m.keepComments (.ts m.pos (.propSig key type optional true))
  | .ts (.indexSig name key value _) =>
    m.keepComments (.ts m.pos (.indexSig name key value true))
  | _ => m

/-- A type whose own members cannot be written to.  Types inside it stay as they
are. -/
def readOnlyType (t : Node) : Node :=
  match t.form with
  | .ts (.typeLiteral members) => .ts t.pos (.typeLiteral (members.map readOnlyMember))
  | .ts (.mapped name constraint value _) => .ts t.pos (.mapped name constraint value true)
  | _ => t

/-- A reference to a name with type arguments. -/
def reference (pos : Int) (entity : Node) (args : List Node) : Node :=
  .ts pos (.ref entity (some (.ts pos (.targs args))))

/-- A name of the user interface library. -/
def uiEntity (pos : Int) (name : String) : Node :=
  .ts pos (.qualified (.ident pos uiNamespace) name)

/-- The TypeScript type of an operation on converted arguments and their copies. -/
def build (pos : Int) : Utility → (args copies : List Node) → Node
  | exact, a :: _, _ => a
  | keys, a :: _, _ => .ts pos (.keyOf a)
  | values, a :: _, copy :: _ => .ts pos (.indexed a (.ts pos (.keyOf copy)))
  | element, a :: b :: _, _ => .ts pos (.indexed a b)
  | readOnly, a :: _, _ => readOnlyType a
  | call, args, _ => reference pos (.ident pos "ReturnType") args
  | renamed name, args, _ => reference pos (.ident pos name) args
  | timer, _, _ => .ts pos (.keyword .number)
  | event name, [], _ => .ts pos (.ref (uiEntity pos name) none)
  | event name, args, _ => reference pos (uiEntity pos name) args
  | _, _, _ => .ts pos (.keyword .any)

end Utility

/-- The type arguments of a reference. -/
def argumentsOf (targs : Option Node) : List Node :=
  match targs with
  | some ⟨_, .flow (.targs types)⟩ => types
  | some ⟨_, .ts (.targs types)⟩ => types
  | _ => []

/-- The operation that a reference stands for. -/
def utilityOf? (id : Node) (targs : Option Node) : Option Utility :=
  match id.form with
  | .expr (.ident name) => Utility.of? name (argumentsOf targs).length
  | _ => none

/-- The entity of a reference that stands for no operation. -/
def referenceEntity (keep : Node → Node) (id : Node) (targs : Option Node) :
    Except Failure Node :=
  match id.form with
  | .flow (.qualified ⟨_, .expr (.ident space)⟩ name) =>
    match uiAlias? name with
    | some other =>
      if space = uiNamespace ∧ (argumentsOf targs).length ≤ 1 then .ok (Utility.uiEntity id.pos other)
      else entity keep id
    | none => entity keep id
  | _ => entity keep id

end Retype.Convert
