import Retype.Convert.Name
import Retype.Proofs.Tree.Role

/-!
# What the references in a type denote

A name in a type is bound by the type parameters of function types and by the variables of mapped
types.  A reference denotes the innermost binder of its name, or what the name means outside.  The
name behind `typeof` is that of a value and no reference to a type.

`Node.mentions` lists the references in a type of either dialect, each with its place, its name and
its binder.  A scope around the type binds those that are free in it, and no other.
-/

namespace Retype

open Retype.Convert (qualifiedName)

/-- What binds a name in a type. -/
inductive Binder where
  /-- The type parameter at a place. -/
  | parameter (pos : Int)
  /-- The variable of the mapped type at a place. -/
  | mapped (pos : Int)
  deriving DecidableEq, Repr

/-- The binders around a type, with the innermost first. -/
abbrev Scope := List (String × Binder)

/-- A reference in a type. -/
structure Mention where
  pos : Int
  name : String
  /-- The binder of the name, if it is in scope. -/
  binder : Option Binder
  deriving DecidableEq, Repr

/-- The same reference in a scope that is larger on the outside. -/
def Mention.bindIn (scope : Scope) (m : Mention) : Mention :=
  { m with binder := m.binder.or (scope.lookup m.name) }

namespace Node

/-- The name that a type refers to. -/
def refers? (n : Node) : Option String :=
  match n.form with
  | .flow (.generic name _) => some (qualifiedName name)
  | .ts (.ref name _) => some (qualifiedName name)
  | _ => none

/-- Whether a type is that of a value with a name. -/
def isValueQuery (n : Node) : Bool :=
  match n.form with
  | .flow (.typeOf ⟨_, .flow (.generic ..)⟩) => true
  | .ts (.typeOf _) => true
  | _ => false

/-- The name that a type parameter binds. -/
def tparamBinder? (p : Node) : Option (String × Binder) :=
  match p.form with
  | .flow (.tparam name ..) => some (name, .parameter p.pos)
  | .ts (.tparam name ..) => some (name, .parameter p.pos)
  | _ => none

/-- The names that a list of type parameters binds. -/
def tparamBinders (tparams : Option Node) : Scope :=
  tparams.toList.flatMap fun t => t.children.filterMap tparamBinder?

/-- The names that a type binds in its parts. -/
def binds (n : Node) : Scope :=
  match n.form with
  | .flow (.function tparams ..) => tparamBinders tparams
  | .ts (.function tparams ..) => tparamBinders tparams
  | .ts (.mapped name ..) => [(name, .mapped n.pos)]
  | _ => []

/-- The references in a type that stands in a scope. -/
def mentions (n : Node) : Scope → List Mention :=
  n.fold fun n results scope =>
    (n.refers?.map fun name => ⟨n.pos, name, scope.lookup name⟩).toList
      ++ (if n.isValueQuery then [] else results.children.flatMap (· (n.binds ++ scope)))

/-- A name that a type refers to and does not bind. -/
def Free (n : Node) (x : String) : Prop := ∃ m ∈ n.mentions [], m.name = x ∧ m.binder = none

instance (n : Node) (x : String) : Decidable (n.Free x) :=
  inferInstanceAs (Decidable (∃ _ ∈ _, _))

section Mentions

variable {n c : Node} {scope : Scope} {m : Mention}

/-- The references of a type are its own and those in its parts. -/
theorem mentions_eq (n : Node) (scope : Scope) :
    n.mentions scope = (n.refers?.map fun name => ⟨n.pos, name, scope.lookup name⟩).toList
      ++ (if n.isValueQuery then [] else n.children.flatMap (·.mentions (n.binds ++ scope))) := by
  rw [mentions, fold_eq, Form.children_map, List.flatMap_map]
  rfl

theorem mentions_self {name : String} (refers : n.refers? = some name) :
    ⟨n.pos, name, scope.lookup name⟩ ∈ n.mentions scope := by
  rw [mentions_eq, refers]
  exact List.mem_append_left _ List.mem_cons_self

theorem mentions_child (child : c ∈ n.children) (type : n.isValueQuery = false)
    (member : m ∈ c.mentions (n.binds ++ scope)) : m ∈ n.mentions scope := by
  rw [mentions_eq, type]
  exact List.mem_append_right _ (List.mem_flatMap.mpr ⟨c, child, member⟩)

/-- Where a reference stands: at the root or in a part. -/
theorem mentions_cases (member : m ∈ n.mentions scope) :
    (∃ name, n.refers? = some name ∧ m = ⟨n.pos, name, scope.lookup name⟩)
      ∨ n.isValueQuery = false ∧ ∃ c ∈ n.children, m ∈ c.mentions (n.binds ++ scope) := by
  rw [mentions_eq] at member
  rcases List.mem_append.mp member with own | inner
  · obtain ⟨name, refers, rfl⟩ := Option.map_eq_some_iff.mp (Option.mem_toList.mp own)
    exact .inl ⟨name, refers, rfl⟩
  · split at inner
    · cases inner
    next type => exact .inr ⟨by simpa using type, List.mem_flatMap.mp inner⟩

/-- Types with the same layer, apart from what is no part of scoping, have the same references. -/
theorem mentions_congr {u : Node} (pos : u.pos = n.pos) (refers : u.refers? = n.refers?)
    (query : u.isValueQuery = n.isValueQuery) (binds : u.binds = n.binds)
    (children : u.children = n.children) : u.mentions = n.mentions := by
  funext scope
  rw [mentions_eq, mentions_eq n, pos, refers, query, binds, children]

theorem mentions_keepComments (old : Node) : (old.keepComments n).mentions = n.mentions :=
  mentions_congr rfl rfl rfl rfl rfl

/-! ## Larger scopes -/

/-- A scope binds what is free in a type. -/
theorem mentions_append (n : Node) (inner outer : Scope) :
    n.mentions (inner ++ outer) = (n.mentions inner).map (·.bindIn outer) := by
  induction n using childInduction generalizing inner with
  | step n ih =>
    rw [mentions_eq, mentions_eq n inner, List.map_append]
    congr 1
    · cases n.refers? with
      | none => rfl
      | some name => simp [Mention.bindIn, List.lookup_append]
    · split
      · rfl
      · rw [List.map_flatMap]
        refine List.flatMap_congr fun c child => ?_
        rw [← List.append_assoc, ih c child]

/-- A binder that is put around a type binds the free references to its name, and no other. -/
theorem mentions_cons {x : String} {b : Binder} (member : m ∈ n.mentions ((x, b) :: scope)) :
    m ∈ n.mentions scope ∨ m.name = x ∧ m.binder = some b ∧ n.Free x := by
  rw [← List.nil_append ((x, b) :: scope), mentions_append] at member
  obtain ⟨m, bare, rfl⟩ := List.mem_map.mp member
  have under : m.bindIn scope ∈ n.mentions scope := by
    rw [← List.nil_append scope, mentions_append]
    exact List.mem_map_of_mem bare
  cases free : m.binder with
  | some inner =>
    have same : m.bindIn ((x, b) :: scope) = m.bindIn scope := by simp [Mention.bindIn, free]
    exact .inl (same ▸ under)
  | none =>
    by_cases name : m.name = x
    · exact .inr ⟨name, by simp [Mention.bindIn, free, name], m, bare, name, free⟩
    · have other : (m.name == x) = false := by simpa using name
      have same : m.bindIn ((x, b) :: scope) = m.bindIn scope := by
        simp [Mention.bindIn, List.lookup_cons, other]
      exact .inl (same ▸ under)

end Mentions

end Node

end Retype
