/-!
# Plain data

A layer that is given from outside may hold values in which nothing is looked for.
A *datum* is such a value.  It may hold whole trees, and these are carried along
as they are: they are no part of the tree around them.
-/

namespace Retype

/-- What is known about a node besides its layer. -/
structure Info where
  /-- The offset of its first token. -/
  pos : Int := 0
  /-- The comments in front of it. -/
  comments : List String := []
  /-- The comments behind it on its line. -/
  trailing : List String := []
  /-- Whether a blank line stands in front of it. -/
  blankBefore : Bool := false
  deriving DecidableEq, Repr

/-- A value without children. -/
inductive Datum where
  | text (s : String)
  | flag (b : Bool)
  | absent
  | list (values : List Datum)
  /-- A tree that is carried along. -/
  | record (info : Info) (kind : String) (values : List Datum)

end Retype
