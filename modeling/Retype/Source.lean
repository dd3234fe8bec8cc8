/-!
# Source texts

A *source* is a text with the path it was read from.  Offsets into it count
characters from zero.  An offset outside the text stands for the nearest end of
it.  `Source.locate` turns an offset into a line, a column and the text of that
line, lines and columns counted from one.
-/

namespace Retype

/-- A text and the path it was read from. -/
structure Source where
  /-- The path, as it is shown in reports. -/
  path : String := "<input>"
  /-- The text. -/
  text : String
  deriving DecidableEq, Repr

/-- A place in a text. -/
structure Location where
  /-- The line, from one. -/
  line : Nat
  /-- The column, from one. -/
  column : Nat
  /-- The text of the line. -/
  code : String
  deriving DecidableEq, Repr

namespace Source

/-- The part of the current line that ends a text. -/
def lineBefore (before : List Char) : List Char :=
  (before.reverse.takeWhile (· ≠ '\n')).reverse

/-- The part of the current line that starts a text. -/
def lineAfter (after : List Char) : List Char :=
  after.takeWhile (· ≠ '\n')

/-- The place at the border of two halves of a text. -/
def locateBetween (before after : List Char) : Location where
  line := before.count '\n' + 1
  column := (lineBefore before).length + 1
  code := String.ofList (lineBefore before ++ lineAfter after)

/-- The place of an offset. -/
def locate (src : Source) (pos : Int) : Location :=
  let chars := src.text.toList
  locateBetween (chars.take pos.toNat) (chars.drop pos.toNat)

/-- The characters that may stand between two lines. -/
def isGap (c : Char) : Bool :=
  c = ' ' || c = '\t' || c = '\r' || c = '\n'

/-- Whether a text ends in a blank line that has something before it. -/
def endsInBlankLine (before : List Char) : Bool :=
  let back := before.reverse
  !(back.dropWhile isGap).isEmpty && 2 ≤ (back.takeWhile isGap).count '\n'

/-- Whether a blank line stands right before an offset. -/
def blankLineBefore (src : Source) (pos : Int) : Bool :=
  endsInBlankLine (src.text.toList.take pos.toNat)

end Source

end Retype
