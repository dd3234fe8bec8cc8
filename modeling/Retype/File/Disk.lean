import Retype.File.Tree
import Retype.Text.Quoted

/-!
# Files by their paths

A *disk* gives access to files by path.  Reading and writing may fail, and the
failure has a cause.

`Disk.ofTree` is the disk whose state is a file tree.  A path is followed from the
top of the tree, name by name.  An empty name and a single dot stay in a folder,
two dots leave it.  Above the top, nothing can be found.
-/

namespace Retype.File

/-! ## Failures -/

/-- Why a file cannot be read or written. -/
inductive Failure where
  /-- There is no such entry, or no such folder on the way to it. -/
  | missing
  /-- Something on the way is a file. -/
  | notFolder
  /-- A folder stands where a file is needed. -/
  | isFolder
  /-- A name or the path is longer than a disk can hold. -/
  | nameTooLong
  /-- Any other cause, in words. -/
  | other (text : String)
  deriving DecidableEq, Repr

/-- The wording of a failure at a path. -/
def Failure.message (path : String) : Failure → String
  | missing => "[Errno 2] No such file or directory: " ++ Text.quoted path
  | notFolder => "[Errno 20] Not a directory: " ++ Text.quoted path
  | isFolder => "[Errno 21] Is a directory: " ++ Text.quoted path
  | nameTooLong => "[Errno 36] File name too long: " ++ Text.quoted path
  | other text => text

/-! ## Access -/

/-- Access to files in a monad.  A listing says `α` about each file. -/
structure Disk (α : Type) (m : Type → Type) where
  /-- The folder at a path, if there is one. -/
  folder? : String → m (Option (Entry α))
  /-- The bytes of the file at a path. -/
  read : String → m (Except Failure ByteArray)
  /-- Stores a file at a path. -/
  write : String → ByteArray → m (Except Failure Unit)

/-! ## Paths into a tree -/

/-- The longest name, in bytes. -/
def longestName : Nat := 255

/-- The pieces of a path between its slashes. -/
def pieces : List Char → List (List Char)
  | [] => [[]]
  | c :: cs =>
    if c = '/' then [] :: pieces cs
    else
      match pieces cs with
      | [] => [[c]]
      | piece :: rest => (c :: piece) :: rest

/-- The names that a path leads through, as they stand in it. -/
def names (path : String) : List String :=
  (pieces path.toList).map String.ofList

namespace Entry

variable {α : Type}

/-- Follows names from the place that is reached by `here`, the innermost name of
it first.  The names of the place at the end, the outermost first.  Each step
starts from a folder; the last name need not exist. -/
def follow (top : Entry α) : List String → List String → Except Failure (List String)
  | here, [] => .ok here.reverse
  | here, name :: rest =>
    match top.at? here.reverse with
    | none => .error .missing
    | some (file _) => .error .notFolder
    | some (folder _) =>
      if name = "" ∨ name = "." then follow top here rest
      else if name = ".." then
        match here with
        | [] => .error .missing
        | _ :: up => follow top up rest
      else if longestName < name.utf8ByteSize then .error .nameTooLong
      else follow top (name :: here) rest

/-- The place that a path leads to. -/
def resolve (top : Entry α) (path : String) : Except Failure (List String) :=
  if longestPath < path.utf8ByteSize then .error .nameTooLong
  else
    match path.toList with
    | [] | '/' :: _ => .error .missing
    | _ => follow top [] (names path)

/-- The folder that a path leads to. -/
def folderAt? (top : Entry α) (path : String) : Option (Entry α) :=
  match top.resolve path with
  | .error _ => none
  | .ok place =>
    match top.at? place with
    | some (folder entries) => some (folder entries)
    | _ => none

/-- The content of the file that a path leads to. -/
def read (top : Entry α) (path : String) : Except Failure α := do
  let place ← top.resolve path
  match top.at? place with
  | none => .error .missing
  | some (folder _) => .error .isFolder
  | some (file content) => .ok content

/-- The tree with a file stored where a path leads. -/
def write (top : Entry α) (path : String) (content : α) : Except Failure (Entry α) := do
  let place ← top.resolve path
  match top.at? place with
  | some (folder _) => .error .isFolder
  | _ => .ok (top.put content place)

end Entry

/-- The disk that is a file tree. -/
def Disk.ofTree : Disk ByteArray (StateM (Entry ByteArray)) where
  folder? path := do return (← get).folderAt? path
  read path := do return (← get).read path
  write path bytes := do
    match (← get).write path bytes with
    | .error e => return .error e
    | .ok tree =>
      set tree
      return .ok ()

end Retype.File
