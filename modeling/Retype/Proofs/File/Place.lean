import Retype.File.Disk

/-!
# Places in a file tree

A *place* is where a row of names leads, from the top of a tree.  Storing a file at a place changes
the content of that place and of no other, and it makes no folder and removes none.

Where a path leads depends on the folders of the tree alone.  So two trees with the same folders
agree on the places of all paths, whatever their files are.
-/

namespace Retype.File.Entry

variable {α : Type}

/-! ## Folders -/

/-- Whether there is a folder at a place. -/
def hasFolder (tree : Entry α) (place : List String) : Bool :=
  match tree.at? place with
  | some (folder _) => true
  | _ => false

/-- Two trees have their folders at the same places. -/
def SameFolders (t u : Entry α) : Prop := ∀ place, t.hasFolder place = u.hasFolder place

theorem hasFolder_iff {tree : Entry α} {place : List String} :
    tree.hasFolder place ↔ ∃ entries, tree.at? place = some (folder entries) := by
  unfold hasFolder
  split
  next entries found => simp [found]
  next other => simpa using fun entries found => other entries found

theorem SameFolders.refl (tree : Entry α) : SameFolders tree tree := fun _ => rfl

theorem SameFolders.symm {t u : Entry α} (same : SameFolders t u) : SameFolders u t :=
  fun place => (same place).symm

theorem SameFolders.trans {t u v : Entry α} (first : SameFolders t u) (second : SameFolders u v) :
    SameFolders t v := fun place => (first place).trans (second place)

/-! ## Storing a file -/

/-- The first entry of a name counts. -/
theorem lookup_first (name other : String) (e : Entry α) (entries : List (String × Entry α)) :
    ((name, e) :: entries).lookup other
      = if other = name then some e else entries.lookup other := by
  by_cases here : other = name
  · simp [here]
  · rw [List.lookup_cons, if_neg here, beq_false_of_ne here]

theorem lookup_setNamed (name other : String) (e : Entry α) (entries : List (String × Entry α)) :
    (setNamed name e entries).lookup other
      = if other = name then some e else entries.lookup other := by
  induction entries with
  | nil => exact lookup_first name other e []
  | cons x xs ih =>
    obtain ⟨first, entry⟩ := x
    unfold setNamed
    split
    next same =>
      obtain rfl : first = name := same
      rw [lookup_first, lookup_first]
      split <;> rfl
    next differs =>
      rw [lookup_first, lookup_first, ih]
      by_cases here : other = first
      · subst here
        rw [if_pos rfl, if_pos rfl, if_neg differs]
      · rw [if_neg here, if_neg here]

/-- What a file stored in a folder changes, name by name. -/
theorem at?_folder_setNamed (name : String) (e : Entry α) (entries : List (String × Entry α))
    (other : String) (rest : List String) :
    (folder (setNamed name e entries)).at? (other :: rest)
      = if other = name then e.at? rest else (folder entries).at? (other :: rest) := by
  rw [at?, lookup_setNamed]
  by_cases here : other = name
  · rw [if_pos here, if_pos here]
  · rw [if_neg here, if_neg here, at?]

/-- A file can be stored at a place: in a folder, and not instead of a folder. -/
structure Storable (tree : Entry α) (folder : List String) (name : String) : Prop where
  inside : tree.hasFolder folder
  free : tree.hasFolder (folder ++ [name]) = false

/-- At most a file is where a file can be stored, so nothing is below it. -/
theorem Storable.below {entries : List (String × Entry α)} {name : String}
    (fits : Storable (folder entries) [] name) {other : String} {rest : List String} :
    (folder entries).at? (name :: other :: rest) = none := by
  have free := fits.free
  rw [List.nil_append, hasFolder, at?] at free
  rw [at?]
  cases found : entries.lookup name with
  | none => rfl
  | some e =>
    rw [found] at free
    cases e with
    | file content => rfl
    | folder inner => simp [at?] at free

/-- Storing a file changes one place. -/
theorem put_spec {tree : Entry α} {dir : List String} {name : String}
    (fits : tree.Storable dir name) (content : α) (place : List String) :
    ((tree.put content (dir ++ [name])).contentAt? place
        = if place = dir ++ [name] then some content else tree.contentAt? place)
      ∧ (tree.put content (dir ++ [name])).hasFolder place = tree.hasFolder place := by
  -- Down to the folder of the file, each folder on the way is replaced under its own name.
  induction dir generalizing tree place with
  | nil =>
    obtain ⟨entries, rfl⟩ : ∃ entries, tree = folder entries := by
      obtain ⟨entries, found⟩ := hasFolder_iff.mp fits.inside
      exact ⟨entries, Option.some.inj found⟩
    cases place with
    | nil => exact ⟨by simp [contentAt?, at?, put], by simp [hasFolder, at?, put]⟩
    | cons other rest =>
      have free := fits.free
      rw [List.nil_append] at free ⊢
      rw [put, put, contentAt?, contentAt?, hasFolder, hasFolder, at?_folder_setNamed]
      by_cases here : other = name
      · subst here
        rw [if_pos rfl]
        cases rest with
        | nil =>
          rw [if_pos rfl]
          exact ⟨rfl, free.symm⟩
        | cons next more =>
          rw [if_neg (by simp), fits.below]
          exact ⟨rfl, rfl⟩
      · rw [if_neg here, if_neg (by simp [here])]
        exact ⟨rfl, rfl⟩
  | cons d dir ih =>
    obtain ⟨entries, rfl⟩ : ∃ entries, tree = folder entries := by
      obtain ⟨inner, found⟩ := hasFolder_iff.mp fits.inside
      cases tree with
      | file content => cases found
      | folder entries => exact ⟨entries, rfl⟩
    have inside := fits.inside
    have free := fits.free
    rw [hasFolder, at?] at inside
    rw [List.cons_append, hasFolder, at?] at free
    cases found : entries.lookup d with
    | none => simp [found] at inside
    | some e =>
      rw [found] at inside free
      have fitsInner : e.Storable dir name := ⟨inside, free⟩
      cases place with
      | nil => exact ⟨by simp [contentAt?, at?, put], by simp [hasFolder, at?, put]⟩
      | cons other rest =>
        rw [List.cons_append, put, found, Option.getD_some, contentAt?, contentAt?, hasFolder,
          hasFolder, at?_folder_setNamed]
        by_cases here : other = d
        · subst here
          obtain ⟨content_eq, folder_eq⟩ := ih fitsInner rest
          rw [if_pos rfl, at?, found]
          refine ⟨content_eq.trans ?_, folder_eq⟩
          simp [contentAt?]
        · rw [if_neg here, if_neg (by simp [here])]
          exact ⟨rfl, rfl⟩

/-! ## Following names -/

/-- Where one name leads from a folder, the innermost name of both first. -/
def move (here : List String) (name : String) : Except Failure (List String) :=
  if name = "" ∨ name = "." then .ok here
  else if name = ".." then
    match here with
    | [] => .error .missing
    | _ :: up => .ok up
  else if longestName < name.utf8ByteSize then .error .nameTooLong
  else .ok (name :: here)

/-- Each name leads from a folder, and to a place that no tree has a say in. -/
theorem follow_cons_eq_ok_iff {top : Entry α} {here rest place : List String} {name : String} :
    top.follow here (name :: rest) = .ok place
      ↔ top.hasFolder here.reverse
        ∧ ∃ next, move here name = .ok next ∧ top.follow next rest = .ok place := by
  unfold hasFolder move
  rw [follow.eq_def]
  dsimp only
  split
  next missing => simp [missing]
  next content found => simp [found]
  next entries found =>
    simp only [found, true_and]
    split
    next => simp
    next =>
      split
      next => cases here <;> simp
      next => split <;> simp

/-- Where names lead depends on the folders alone. -/
theorem follow_of_sameFolders {t u : Entry α} (same : SameFolders t u)
    {here trail place : List String} (leads : t.follow here trail = .ok place) : u.follow here trail = .ok place := by
  induction trail generalizing here with
  | nil => exact leads
  | cons name rest ih =>
    obtain ⟨inside, next, moved, onward⟩ := follow_cons_eq_ok_iff.mp leads
    exact follow_cons_eq_ok_iff.mpr ⟨(same _).symm.trans inside, next, moved, ih onward⟩

/-- Names are followed one part after the other. -/
theorem follow_append_eq_ok_iff {top : Entry α} {here first second place : List String} :
    top.follow here (first ++ second) = .ok place
      ↔ ∃ mid, top.follow here first = .ok mid ∧ top.follow mid.reverse second = .ok place := by
  induction first generalizing here with
  | nil => simp [follow]
  | cons name rest ih =>
    rw [List.cons_append, follow_cons_eq_ok_iff]
    simp only [follow_cons_eq_ok_iff, ih]
    constructor
    · rintro ⟨inside, next, moved, mid, leads, onward⟩
      exact ⟨mid, ⟨inside, next, moved, leads⟩, onward⟩
    · rintro ⟨mid, ⟨inside, next, moved, leads⟩, onward⟩
      exact ⟨inside, next, moved, mid, leads, onward⟩

/-- A name that stands for an entry of a folder. -/
def Ordinary (name : String) : Prop := name ≠ "" ∧ name ≠ "." ∧ name ≠ ".."

theorem Ordinary.move_eq_ok_iff {name : String} (ordinary : Ordinary name)
    {here next : List String} :
    move here name = .ok next ↔ name.utf8ByteSize ≤ longestName ∧ next = name :: here := by
  obtain ⟨notEmpty, notDot, notDots⟩ := ordinary
  unfold move
  rw [if_neg (by simp [notEmpty, notDot]), if_neg notDots]
  split
  next long => simp [Nat.not_le.mpr long]
  next short => simp [Nat.not_lt.mp short, eq_comm]

/-- An ordinary last name leads from a folder to an entry of it, which need not exist. -/
theorem follow_concat_eq_ok_iff {top : Entry α} {here trail place : List String} {name : String}
    (ordinary : Ordinary name) :
    top.follow here (trail ++ [name]) = .ok place
      ↔ ∃ dir, top.follow here trail = .ok dir ∧ top.hasFolder dir
        ∧ name.utf8ByteSize ≤ longestName ∧ place = dir ++ [name] := by
  rw [follow_append_eq_ok_iff]
  refine exists_congr fun dir => and_congr_right fun _ => ?_
  rw [follow_cons_eq_ok_iff, List.reverse_reverse]
  refine and_congr_right fun _ => ?_
  simp only [ordinary.move_eq_ok_iff, and_assoc, exists_and_left, exists_eq_left, follow,
    Except.ok.injEq, List.reverse_cons, List.reverse_reverse, eq_comm]

/-! ## Reading and writing -/

theorem resolve_eq_ok_iff {tree : Entry α} {path : String} {place : List String} :
    tree.resolve path = .ok place
      ↔ path.utf8ByteSize ≤ longestPath ∧ path ≠ "" ∧ path.toList.head? ≠ some '/'
        ∧ tree.follow [] (names path) = .ok place := by
  rw [ne_eq, ← String.toList_eq_nil_iff]
  unfold resolve
  split
  next long => simp [Nat.not_le.mpr long]
  next short =>
    split
    next empty => simp [empty]
    next rest slash => simp [slash]
    next notEmpty noSlash =>
      have head : path.toList.head? ≠ some '/' := by
        intro slash
        obtain ⟨rest, shape⟩ := List.head?_eq_some_iff.mp slash
        exact noSlash rest shape
      exact ⟨fun leads => ⟨Nat.not_lt.mp short, notEmpty, head, leads⟩, fun all => all.2.2.2⟩

theorem short_of_resolve {tree : Entry α} {path : String} {place : List String}
    (leads : tree.resolve path = .ok place) : path.utf8ByteSize ≤ longestPath :=
  (resolve_eq_ok_iff.mp leads).1

/-- Where a path leads depends on the folders alone. -/
theorem resolve_of_sameFolders {t u : Entry α} (same : SameFolders t u) {path : String}
    {place : List String} (leads : t.resolve path = .ok place) : u.resolve path = .ok place := by
  obtain ⟨short, notEmpty, noSlash, leads⟩ := resolve_eq_ok_iff.mp leads
  exact resolve_eq_ok_iff.mpr ⟨short, notEmpty, noSlash, follow_of_sameFolders same leads⟩

theorem SameFolders.resolve_iff {t u : Entry α} (same : SameFolders t u) {path : String}
    {place : List String} : t.resolve path = .ok place ↔ u.resolve path = .ok place :=
  ⟨resolve_of_sameFolders same, resolve_of_sameFolders same.symm⟩

theorem read_eq_ok_iff {tree : Entry α} {path : String} {content : α} :
    tree.read path = .ok content
      ↔ ∃ place, tree.resolve path = .ok place ∧ tree.contentAt? place = some content := by
  unfold read contentAt?
  cases tree.resolve path with
  | error cause => simp [bind, Except.bind]
  | ok place =>
    simp only [bind, Except.bind, Except.ok.injEq, exists_eq_left']
    split <;> simp_all

theorem write_eq_ok_iff {tree after : Entry α} {path : String} {content : α} :
    tree.write path content = .ok after
      ↔ ∃ place, tree.resolve path = .ok place ∧ tree.hasFolder place = false
        ∧ tree.put content place = after := by
  unfold write hasFolder
  cases tree.resolve path with
  | error cause => simp [bind, Except.bind]
  | ok place =>
    simp only [bind, Except.bind, Except.ok.injEq, exists_eq_left']
    split <;> simp_all

end Retype.File.Entry
