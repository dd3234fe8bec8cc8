/-!
# File trees

An *entry* is a file or a folder.  A folder has named entries.  Of two entries
with one name the first counts.  Names are given from the outside in, so the
empty list of names leads to the entry itself.

`Entry.put` stores a file and changes nothing else: a folder on the way that does
not exist is made, and below a file nothing can be stored.

`Entry.search` lists the paths of files below a folder.  A folder's own files come
first, then those of its folders.  Both are in the order of their names, which is
that of the code points.  A folder whose path is too long for a disk is passed over.
-/

namespace Retype.File

/-- The longest path, in bytes. -/
def longestPath : Nat := 4095

/-- A file, or a folder of named entries. -/
inductive Entry (α : Type) where
  | file (content : α)
  | folder (entries : List (String × Entry α))

namespace Entry

variable {α : Type}

/-! ## Finding and storing -/

/-- The entry that some names lead to. -/
def at? : List String → Entry α → Option (Entry α)
  | [], e => some e
  | _ :: _, file _ => none
  | name :: names, folder entries =>
    match entries.lookup name with
    | none => none
    | some e => at? names e

/-- The content of the file that some names lead to. -/
def contentAt? (names : List String) (e : Entry α) : Option α :=
  match e.at? names with
  | some (file content) => some content
  | _ => none

/-- Entries with one of them replaced, or added if there is none of that name. -/
def setNamed (name : String) (e : Entry α) : List (String × Entry α) → List (String × Entry α)
  | [] => [(name, e)]
  | x :: xs => if x.1 = name then (name, e) :: xs else x :: setNamed name e xs

/-- The tree with a file stored where some names lead. -/
def put (content : α) : List String → Entry α → Entry α
  | [], _ => file content
  | _ :: _, file other => file other
  | name :: names, folder entries =>
    folder (setNamed name (put content names ((entries.lookup name).getD (folder []))) entries)

/-- The tree with folders where some names lead.  An entry that is there stays. -/
def makeFolder : List String → Entry α → Entry α
  | [], e => e
  | _ :: _, file other => file other
  | name :: names, folder entries =>
    folder (setNamed name (makeFolder names ((entries.lookup name).getD (folder []))) entries)

/-! ## Listing -/

/-- Puts a named value in front of the first one whose name is not before its. -/
def insertNamed {β : Type} (x : String × β) : List (String × β) → List (String × β)
  | [] => [x]
  | y :: ys => if x.1 ≤ y.1 then x :: y :: ys else y :: insertNamed x ys

/-- Named values in the order of their names. -/
def inOrder {β : Type} (xs : List (String × β)) : List (String × β) :=
  xs.foldr insertNamed []

mutual

/-- Every file of a tree with the names that lead to it. -/
def files : Entry α → List (List String × α)
  | file content => [([], content)]
  | folder entries => filesOf entries

/-- Every file of some entries with the names that lead to it. -/
def filesOf : List (String × Entry α) → List (List String × α)
  | [] => []
  | (name, e) :: entries => (files e).map (fun f => (name :: f.1, f.2)) ++ filesOf entries

end

/-- A name behind the path of a folder. -/
def join (path name : String) : String :=
  if path.toList.getLast? = some '/' then path ++ name else path ++ "/" ++ name

/-- The files among some entries, by name. -/
def ownFiles : List (String × Entry α) → List (String × α)
  | [] => []
  | (name, file content) :: entries => (name, content) :: ownFiles entries
  | (_, folder _) :: entries => ownFiles entries

mutual

/-- The paths of the wanted files below a folder at `path`.  Folders with a name
to be skipped are not searched. -/
def search (skipped wanted : String → Bool) (path : String) : Entry α → List String
  | file _ => []
  | folder entries =>
    if longestPath < path.utf8ByteSize then []
    else
      ((inOrder (ownFiles entries)).filter (wanted ·.1)).map (join path ·.1)
        ++ (inOrder (searchEach skipped wanted path entries)).flatMap (·.2)

/-- The paths of the wanted files below each of some entries of a folder at
`path`. -/
def searchEach (skipped wanted : String → Bool) (path : String) :
    List (String × Entry α) → List (String × List String)
  | [] => []
  | (name, e) :: entries =>
    if skipped name then searchEach skipped wanted path entries
    else (name, search skipped wanted (join path name) e) ::
      searchEach skipped wanted path entries

end

/-! ## Comparing -/

/-- The files of a tree that another tree does not have with the same content. -/
def changedFrom [DecidableEq α] (before after : Entry α) : List (List String × α) :=
  after.files.filter fun f => before.contentAt? f.1 ≠ some f.2

end Entry

end Retype.File
