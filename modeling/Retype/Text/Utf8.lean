import Retype.Text.Quoted

/-!
# Text from bytes

A text is stored as UTF-8.  A character is one byte, or a first byte that says
how many bytes follow it and what the next one may be, and those bytes.

`decode` reads bytes one by one.  It stops at the first byte that rules the text
out.  The fault names the run of bytes that starts the broken character: its
first byte alone, or the bytes of it that were fine.  If the bytes end inside a
character, the run is all that is left.
-/

namespace Retype.Text.Utf8

/-! ## Faults -/

/-- How a character is broken. -/
inductive Flaw where
  /-- No character starts with this byte. -/
  | start
  /-- A byte does not continue the character. -/
  | continuation
  /-- The bytes end inside the character. -/
  | truncated
  deriving DecidableEq, Repr

/-- The wording of a flaw. -/
def Flaw.text : Flaw → String
  | .start => "invalid start byte"
  | .continuation => "invalid continuation byte"
  | .truncated => "unexpected end of data"

/-- Why bytes are no text. -/
structure Fault where
  /-- How the character is broken. -/
  flaw : Flaw
  /-- Its first byte. -/
  first : UInt8
  /-- Where that byte stands. -/
  pos : Nat
  /-- How many bytes the fault is about. -/
  count : Nat
  deriving DecidableEq, Repr

/-- The wording of a fault.  A single byte is shown, a longer run is given by its
first and last place. -/
def Fault.message (f : Fault) : String :=
  let what :=
    if f.count = 1 then
      "byte 0x" ++ String.ofList (hex 2 f.first.toNat) ++ " in position " ++ toString f.pos
    else
      "bytes in position " ++ toString f.pos ++ "-" ++ toString (f.pos + f.count - 1)
  "'utf-8' codec can't decode " ++ what ++ ": " ++ f.flaw.text

/-! ## Decoding -/

/-- What is still to come of a character. -/
structure Rest where
  /-- How many bytes. -/
  owed : Nat
  /-- The bits of the code point so far. -/
  bits : Nat
  /-- The least that the next byte may be. -/
  low : Nat := 0x80
  /-- The greatest that the next byte may be. -/
  high : Nat := 0xbf

/-- What a first byte leaves to come.  Overlong forms, surrogates and code points
past the last one are ruled out by the next byte. -/
def lead? (b : Nat) : Option Rest :=
  if b < 0x80 then some { owed := 0, bits := b }
  else if b < 0xc2 then none
  else if b < 0xe0 then some { owed := 1, bits := b - 0xc0 }
  else if b = 0xe0 then some { owed := 2, bits := 0, low := 0xa0 }
  else if b = 0xed then some { owed := 2, bits := 0xd, high := 0x9f }
  else if b < 0xf0 then some { owed := 2, bits := b - 0xe0 }
  else if b = 0xf0 then some { owed := 3, bits := 0, low := 0x90 }
  else if b < 0xf4 then some { owed := 3, bits := b - 0xf0 }
  else if b = 0xf4 then some { owed := 3, bits := 4, high := 0x8f }
  else none

/-- A character of which some bytes have been read. -/
structure Begun where
  /-- Its first byte. -/
  first : UInt8
  /-- How many bytes of it have been read. -/
  count : Nat
  /-- What is still to come, one byte at least. -/
  rest : Rest

/-- The character after one more byte, if that continues it: finished, or with
less to come. -/
def Begun.next (b : Begun) (byte : Nat) : Option (Char ⊕ Begun) :=
  if b.rest.low ≤ byte ∧ byte ≤ b.rest.high then
    let bits := b.rest.bits * 64 + (byte - 0x80)
    match b.rest.owed with
    | 0 | 1 => some (.inl (Char.ofNat bits))
    | owed + 1 => some (.inr ⟨b.first, b.count + 1, { owed, bits }⟩)
  else none

/-- The characters of the bytes from `pos` on, inside a character or not. -/
def decodeFrom : Nat → Option Begun → List UInt8 → Except Fault (List Char)
  | _, none, [] => .ok []
  | pos, some b, [] => .error ⟨.truncated, b.first, pos - b.count, b.count⟩
  | pos, none, byte :: bytes =>
    match lead? byte.toNat with
    | none => .error ⟨.start, byte, pos, 1⟩
    | some rest =>
      if rest.owed = 0 then (decodeFrom (pos + 1) none bytes).map (Char.ofNat rest.bits :: ·)
      else decodeFrom (pos + 1) (some ⟨byte, 1, rest⟩) bytes
  | pos, some b, byte :: bytes =>
    match b.next byte.toNat with
    | none => .error ⟨.continuation, b.first, pos - b.count, b.count⟩
    | some (.inl c) => (decodeFrom (pos + 1) none bytes).map (c :: ·)
    | some (.inr b) => decodeFrom (pos + 1) (some b) bytes

/-- The text that is stored as these bytes. -/
def decode (bytes : ByteArray) : Except Fault String :=
  (decodeFrom 0 none bytes.data.toList).map String.ofList

end Retype.Text.Utf8
