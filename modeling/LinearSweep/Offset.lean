import LinearSweep.Fault
import LinearSweep.Text.Blank

/-! # Offsets into an image

Offsets are natural numbers up to 2^64 − 1. A sum of two offsets stops at that bound.

* **`Offset.add`** is the bounded sum.
* **`Offset.parse text`** reads a hexadecimal offset, with or without a `0x` in front and with
  blanks around it. -/

namespace LinearSweep.Offset

open Text

/-- The largest offset, which is `2 ^ 64 - 1`. -/
def largest : Nat := 0xFFFFFFFFFFFFFFFF

/-- **The sum of two offsets**, held at `largest`. -/
def add (a b : Nat) : Nat := min (a + b) largest

/-- The digits of a numeral without its marker, `0x` or `0X`, of which at most one is dropped. -/
def unmark : List Char → List Char
  | '0' :: 'x' :: digits => digits
  | '0' :: 'X' :: digits => digits
  | digits => digits

/-- The offset that a text without surrounding blanks denotes, if it is at most `largest`. -/
def ofNumeral? (numeral : List Char) : Option Nat :=
  (Hex.value? (unmark numeral)).filter (· ≤ largest)

/-- **Read a hexadecimal offset.** Blanks around the numeral do not count; a refused text is
reported in `.malformedOffset text` as it was given, blanks included. -/
def parse (text : String) : Except Fault Nat :=
  match ofNumeral? (trimBlank text.toList) with
  | some offset => .ok offset
  | none => .error (.malformedOffset text)

end LinearSweep.Offset
