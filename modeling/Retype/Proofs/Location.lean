import Mathlib.Algebra.GroupWithZero.Nat
import Mathlib.Data.List.Basic
import Mathlib.Data.List.TakeWhile
import Retype.Diagnostic

/-!
# Where a diagnostic points

A text is split into lines at its line ends.  `Marks` says that a place is the place of an offset: its
code is the line with its number, its column is a column of that line or the one behind it, and the
lines in front, with one line end each, and the columns in front make up the offset.  The place that
is found for any offset, cut to the text, is of this kind.

A report is lines of its own.  A message and a path may have line ends in them, and so the line that
quotes the code is counted with those (`quoteRow`).  Behind it comes the line of the caret.  Both
start with a gutter of one width, whatever the number of the line, and so the caret stands under the
character at the offset, or behind the line if the offset is at its end.
-/

namespace Retype

/-! ## Lines -/

/-- The lines of a text. -/
def lines (cs : List Char) : List (List Char) := cs.splitOn '\n'

theorem length_lines (cs : List Char) : (lines cs).length = cs.count '\n' + 1 := by
  induction cs with
  | nil => rfl
  | cons c cs ih =>
    rw [lines] at ih ⊢
    rw [List.splitOn_cons_eq_if_modifyHead, List.count_cons]
    split
    · rw [List.length_cons, ih]
    · rw [List.length_modifyHead, ih, Nat.add_zero]

/-- The lines of a text with one line end each are one character longer than the text. -/
theorem sum_lines (cs : List Char) : ((lines cs).map (·.length + 1)).sum = cs.length + 1 := by
  induction cs with
  | nil => rfl
  | cons c cs ih =>
    rw [lines] at ih ⊢
    rw [List.splitOn_cons_eq_if_modifyHead]
    split
    · rw [List.map_cons, List.sum_cons, ih, List.length_nil, List.length_cons]
      omega
    · obtain ⟨line, more, split⟩ := List.exists_cons_of_ne_nil (List.splitOn_ne_nil '\n' cs)
      rw [split] at ih ⊢
      rw [List.map_cons, List.sum_cons] at ih
      rw [List.modifyHead_cons, List.map_cons, List.sum_cons, List.length_cons, List.length_cons]
      omega

theorem lines_append (front back : List Char) :
    lines (front ++ '\n' :: back) = lines front ++ lines back :=
  List.splitOn_append_cons_self front back

theorem lines_of_not_mem {cs : List Char} (unbroken : '\n' ∉ cs) : lines cs = [cs] :=
  List.splitOn_eq_singleton unbroken

/-- Texts that are put one below the other keep their lines. -/
theorem lines_intercalate {texts : List (List Char)} (some_ : texts ≠ []) :
    lines (['\n'].intercalate texts) = texts.flatMap lines := by
  induction texts with
  | nil => contradiction
  | cons text texts ih =>
    cases texts with
    | nil => simp
    | cons next texts =>
      rw [List.intercalate_cons_cons, List.append_assoc, List.singleton_append, lines_append,
        ih (List.cons_ne_nil _ _), ← List.flatMap_cons]

namespace Source

/-- The line that ends a text is what stands behind its last line end. -/
theorem lineBefore_append {head line : List Char} (begins : head = [] ∨ head.getLast? = some '\n')
    (unbroken : '\n' ∉ line) : lineBefore (head ++ line) = line := by
  have inLine : ∀ c ∈ line.reverse, decide (c ≠ '\n') = true := by
    intro c member
    exact decide_eq_true fun same => unbroken (List.mem_reverse.mp (same ▸ member))
  rw [lineBefore, List.reverse_append, List.takeWhile_append_of_pos inLine]
  rcases begins with rfl | ended
  · simp
  · obtain ⟨front, rfl⟩ := List.getLast?_eq_some_iff.mp ended
    simp

theorem exists_lineBefore (front : List Char) : ∃ head, front = head ++ lineBefore front
    ∧ (head = [] ∨ head.getLast? = some '\n') ∧ '\n' ∉ lineBefore front := by
  refine ⟨(front.reverse.dropWhile (· ≠ '\n')).reverse, ?_, ?_, ?_⟩
  · rw [lineBefore, ← List.reverse_append, List.takeWhile_append_dropWhile, List.reverse_reverse]
  · rw [List.getLast?_reverse, List.reverse_eq_nil_iff]
    cases left : front.reverse.dropWhile (· ≠ '\n') with
    | nil => exact .inl rfl
    | cons c cs =>
      have stops := List.head?_dropWhile_not (· ≠ '\n') front.reverse
      rw [left] at stops
      exact .inr (by simpa using stops)
  · intro member
    have inLine := List.mem_takeWhile_imp (List.mem_reverse.mp member)
    simp at inLine

theorem not_mem_lineAfter (after : List Char) : '\n' ∉ lineAfter after := by
  intro member
  have inLine := List.mem_takeWhile_imp member
  simp at inLine

/-- A text starts with its first line. -/
theorem lines_eq_cons {line : List Char} (unbroken : '\n' ∉ line) (after : List Char) :
    ∃ more, lines (line ++ after) = (line ++ lineAfter after) :: more := by
  have whole : '\n' ∉ line ++ lineAfter after :=
    List.not_mem_append unbroken (not_mem_lineAfter after)
  have cut : line ++ after = line ++ lineAfter after ++ after.dropWhile (· ≠ '\n') := by
    rw [lineAfter, List.append_assoc, List.takeWhile_append_dropWhile]
  rw [cut]
  cases left : after.dropWhile (· ≠ '\n') with
  | nil => exact ⟨[], by rw [List.append_nil, lines_of_not_mem whole]⟩
  | cons c cs =>
    have stops := List.head?_dropWhile_not (· ≠ '\n') after
    rw [left] at stops
    obtain rfl : c = '\n' := by simpa using stops
    exact ⟨lines cs, by rw [lines_append, lines_of_not_mem whole, List.singleton_append]⟩

/-! ## Locations -/

/-- A place is that of an offset of a text. -/
structure Marks (text : List Char) (offset : Nat) (place : Location) : Prop where
  /-- Lines count from one. -/
  line : 1 ≤ place.line
  /-- The code is the line with that number. -/
  code : (lines text)[place.line - 1]? = some place.code.toList
  /-- Columns count from one, and the end of the line has one too. -/
  column : 1 ≤ place.column ∧ place.column ≤ place.code.length + 1
  /-- What stands in front makes up the offset. -/
  offset : (((lines text).take (place.line - 1)).map (·.length + 1)).sum + (place.column - 1) = offset

theorem marks_locateBetween (before after : List Char) :
    Marks (before ++ after) before.length (locateBetween before after) := by
  obtain ⟨head, whole, begins, unbroken⟩ := exists_lineBefore before
  obtain ⟨more, first⟩ := lines_eq_cons unbroken after
  have count : before.count '\n' = head.count '\n' := by
    rw [whole, List.count_append, List.count_eq_zero.mpr unbroken, Nat.add_zero]
  -- the lines in front of that of the offset
  obtain ⟨front, split, number, size⟩ : ∃ front, lines (before ++ after)
        = front ++ (lineBefore before ++ lineAfter after) :: more
      ∧ front.length = before.count '\n' ∧ (front.map (·.length + 1)).sum = head.length := by
    have cut : before ++ after = head ++ (lineBefore before ++ after) :=
      (congrArg (· ++ after) whole).trans (List.append_assoc _ _ _)
    rw [cut]
    rcases begins with rfl | ended
    · exact ⟨[], first, by simpa using count.symm, rfl⟩
    · obtain ⟨start, rfl⟩ := List.getLast?_eq_some_iff.mp ended
      refine ⟨lines start, ?_, ?_, ?_⟩
      · rw [List.append_assoc, List.singleton_append, lines_append, first]
      · rw [length_lines, count, List.count_append]
        rfl
      · rw [sum_lines, List.length_append, List.length_singleton]
  have length := congrArg List.length whole
  rw [List.length_append] at length
  constructor
  · exact Nat.le_add_left _ _
  · simp [locateBetween, split, ← number]
  · simp [locateBetween]
  · simp only [locateBetween, Nat.add_sub_cancel, split, ← number, List.take_left, size]
    exact length.symm

/-- The offset in a text that an offset stands for. -/
def clamp (src : Source) (pos : Int) : Nat := (max 0 (min pos src.text.length)).toNat

theorem locate_eq (src : Source) (pos : Int) : src.locate pos
    = locateBetween (src.text.toList.take (src.clamp pos)) (src.text.toList.drop (src.clamp pos)) := by
  have size : src.text.toList.length = src.text.length := String.length_toList
  rcases Nat.le_total pos.toNat src.text.length with inside | past
  · have same : src.clamp pos = pos.toNat := by
      rw [clamp]
      omega
    rw [locate, same]
  · have same : src.clamp pos = src.text.length := by
      rw [clamp]
      omega
    rw [locate, same, List.take_of_length_le (by omega), List.take_of_length_le (by omega),
      List.drop_of_length_le (by omega), List.drop_of_length_le (by omega)]

theorem clamp_le (src : Source) (pos : Int) : src.clamp pos ≤ src.text.toList.length := by
  rw [String.length_toList, clamp]
  omega

theorem marks_locate (src : Source) (pos : Int) :
    Marks src.text.toList (src.clamp pos) (src.locate pos) := by
  have marks := marks_locateBetween (src.text.toList.take (src.clamp pos))
    (src.text.toList.drop (src.clamp pos))
  rwa [List.take_append_drop, List.length_take_of_le (src.clamp_le pos), ← locate_eq] at marks

theorem not_mem_code (src : Source) (pos : Int) : '\n' ∉ (src.locate pos).code.toList := by
  obtain ⟨head, whole, begins, unbroken⟩ := exists_lineBefore (src.text.toList.take pos.toNat)
  rw [locate, locateBetween, String.toList_ofList]
  exact List.not_mem_append unbroken (not_mem_lineAfter _)

/-- The character at a place is the one at the offset, and at the end of a line there is none. -/
theorem getElem?_code (src : Source) (pos : Int) :
    (src.locate pos).code.toList[(src.locate pos).column - 1]?
      = src.text.toList[src.clamp pos]?.filter (· ≠ '\n') := by
  have next : src.text.toList[src.clamp pos]? = (src.text.toList.drop (src.clamp pos)).head? := by
    rw [List.head?_drop]
  rw [next, locate_eq, locateBetween, String.toList_ofList, Nat.add_sub_cancel,
    List.getElem?_append_right (Nat.le_refl _), Nat.sub_self, ← List.head?_eq_getElem?, lineAfter,
    List.head?_takeWhile]

end Source

/-! ## Reports -/

namespace Diagnostic

theorem not_mem_toDigits (n : Nat) : '\n' ∉ Nat.toDigits 10 n := by
  intro member
  have digit := Nat.isDigit_of_mem_toDigits (by decide) (by decide) member
  revert digit
  decide

/-- The first line of a report without colours. -/
def headline (d : Diagnostic) : String := d.severity.text ++ ": " ++ d.message

/-- The line with the path and the place. -/
def placeLine (path : String) (place : Location) : String :=
  blanks (toString place.line).length ++ "-->" ++ " " ++ path ++ ":" ++ toString place.line ++ ":"
    ++ toString place.column

/-- The line above the code. -/
def bar (number : Nat) : String := blanks (toString number).length ++ " |"

/-- The line that quotes the code. -/
def quoteLine (place : Location) : String := toString place.line ++ " |" ++ " " ++ place.code

/-- The line with the caret. -/
def pointerLine (place : Location) : String :=
  bar place.line ++ " " ++ blanks (place.column - 1) ++ "^~~~"

theorem report_eq (src : Source) (d : Diagnostic) : ∃ help, d.report false src = "\n".intercalate
    ([headline d, placeLine src.path (src.locate d.pos), bar (src.locate d.pos).line,
      quoteLine (src.locate d.pos), pointerLine (src.locate d.pos)] ++ help) := by
  unfold report reportWith caretLine Palette.plain
  simp only [Bool.false_eq_true, ↓reduceIte, String.empty_append, String.append_empty]
  exact ⟨_, rfl⟩

theorem length_lines_headline (d : Diagnostic) :
    (lines d.headline.toList).length = d.message.toList.count '\n' + 1 := by
  rw [length_lines]
  cases severity : d.severity <;> simp [headline, severity, Severity.text]

theorem length_lines_placeLine (path : String) (place : Location) :
    (lines (placeLine path place).toList).length = path.toList.count '\n' + 1 := by
  rw [length_lines]
  simp [placeLine, blanks, List.count_replicate, List.count_eq_zero.mpr (not_mem_toDigits _)]

theorem toList_bar (number : Nat) :
    (bar number).toList = List.replicate (toString number).length ' ' ++ [' ', '|'] := by
  simp [bar, blanks]

theorem lines_bar (number : Nat) : lines (bar number).toList = [(bar number).toList] := by
  apply lines_of_not_mem
  simp [toList_bar, List.mem_replicate]

/-- What stands in front of the code in the line that quotes it. -/
def gutter (number : Nat) : List Char := (toString number).toList ++ [' ', '|', ' ']

theorem lines_quoteLine {place : Location} (unbroken : '\n' ∉ place.code.toList) :
    lines (quoteLine place).toList = [gutter place.line ++ place.code.toList] := by
  have text : (quoteLine place).toList = gutter place.line ++ place.code.toList := by
    simp [quoteLine, gutter]
  rw [text]
  apply lines_of_not_mem
  simpa [gutter] using ⟨not_mem_toDigits place.line, unbroken⟩

/-- What stands in front of the caret: blanks for the number and for the columns. -/
def indent (place : Location) : List Char :=
  List.replicate (toString place.line).length ' ' ++ [' ', '|', ' ']
    ++ List.replicate (place.column - 1) ' '

theorem lines_pointerLine (place : Location) :
    lines (pointerLine place).toList = [indent place ++ ['^', '~', '~', '~']] := by
  have text : (pointerLine place).toList = indent place ++ ['^', '~', '~', '~'] := by
    simp [pointerLine, toList_bar, indent, blanks]
  rw [text]
  apply lines_of_not_mem
  simp [indent, List.mem_replicate]

theorem idxOf_caret (place : Location) : (indent place ++ ['^', '~', '~', '~']).idxOf '^'
    = (gutter place.line).length + (place.column - 1) := by
  have blank : '^' ∉ indent place := by simp [indent, List.mem_replicate]
  rw [List.idxOf_append_of_notMem blank, List.idxOf_cons_self, indent, gutter]
  simp only [List.length_append, List.length_replicate, List.length_cons, List.length_nil,
    String.length_toList]
  omega

/-- The number of the line of a report that quotes the code, from zero.  In front of it stand the
headline with the message, the place with the path, and a bar. -/
def quoteRow (src : Source) (d : Diagnostic) : Nat :=
  d.message.toList.count '\n' + src.path.toList.count '\n' + 3

/-- The lines of a report. -/
theorem lines_report (src : Source) (d : Diagnostic) : ∃ front back,
    lines (d.report false src).toList
        = front ++ (gutter (src.locate d.pos).line ++ (src.locate d.pos).code.toList)
          :: (indent (src.locate d.pos) ++ ['^', '~', '~', '~']) :: back
      ∧ front.length = quoteRow src d := by
  obtain ⟨help, pieces⟩ := report_eq src d
  have unbroken := src.not_mem_code d.pos
  generalize src.locate d.pos = place at pieces unbroken ⊢
  rw [pieces, String.toList_intercalate]
  refine ⟨lines d.headline.toList ++ (lines (placeLine src.path place).toList
    ++ [(bar place.line).toList]), (help.map String.toList).flatMap lines, ?_, ?_⟩
  · change lines (['\n'].intercalate _) = _
    rw [lines_intercalate (by simp)]
    simp only [List.cons_append, List.nil_append, List.map_cons, List.flatMap_cons, lines_bar,
      lines_quoteLine unbroken, lines_pointerLine, List.append_assoc]
  · rw [List.length_append, List.length_append, length_lines_headline, length_lines_placeLine,
      List.length_singleton, quoteRow]
    omega

/-- Of two lines of a report, the first quotes the code, and the second has a caret under the
character at the offset. -/
structure Points (src : Source) (d : Diagnostic) (quoted caret : List Char) : Prop where
  /-- The lines of the report. -/
  rows : (lines (d.report false src).toList)[quoteRow src d]? = some quoted
    ∧ (lines (d.report false src).toList)[quoteRow src d + 1]? = some caret
  /-- The code stands behind the number of its line. -/
  code : quoted = gutter (src.locate d.pos).line ++ (src.locate d.pos).code.toList
  /-- The caret has the column of the place, counted from the beginning of the code. -/
  column : '^' ∈ caret
    ∧ caret.idxOf '^' = (gutter (src.locate d.pos).line).length + ((src.locate d.pos).column - 1)
  /-- In the quoted line, the character at the offset has this column too, and at the end of the
  source line there is none. -/
  under : caret.idxOf '^' ≤ quoted.length
    ∧ quoted[caret.idxOf '^']? = src.text.toList[src.clamp d.pos]?.filter (· ≠ '\n')

theorem exists_points (src : Source) (d : Diagnostic) : ∃ quoted caret, Points src d quoted caret := by
  obtain ⟨front, back, split, row⟩ := lines_report src d
  refine ⟨_, _, ⟨?_, ?_⟩, rfl, ⟨?_, idxOf_caret _⟩, ?_, ?_⟩
  · rw [split, ← row, List.getElem?_append_right (Nat.le_refl _), Nat.sub_self]
    rfl
  · rw [split, ← row, List.getElem?_append_right (Nat.le_add_right _ 1), Nat.add_sub_cancel_left]
    rfl
  · simp
  · have inside := (src.marks_locate d.pos).column.2
    rw [idxOf_caret, List.length_append, String.length_toList]
    omega
  · rw [idxOf_caret, List.getElem?_append_right (Nat.le_add_right _ _), Nat.add_sub_cancel_left]
    exact src.getElem?_code d.pos

/-- The place of any offset is that of the offset cut to the text, and any report about the offset
has its caret there. -/
theorem report_points (src : Source) (pos : Int) :
    Source.Marks src.text.toList (src.clamp pos) (src.locate pos)
      ∧ ∀ severity message hint, ∃ quoted caret,
        Points src { severity, message, pos, hint } quoted caret :=
  ⟨src.marks_locate pos, fun _ _ _ => exists_points src _⟩

end Diagnostic

end Retype
