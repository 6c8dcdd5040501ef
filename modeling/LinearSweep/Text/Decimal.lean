/-! # Decimal numerals

* **`Decimal.value? cs`** is the value of a nonempty list of decimal digits, which a plus sign
  may precede. Only the ASCII digits count. -/

namespace LinearSweep.Text.Decimal

/-- Take one more digit into a value read so far: `10 * value` plus the digit. -/
def accumulate (value : Nat) (c : Char) : Option Nat :=
  if c.isDigit then some (10 * value + (c.toNat - '0'.toNat)) else none

/-- A written digit is taken as its number. -/
theorem accumulate_digitChar (value : Nat) {d : Nat} (h : d < 10) :
    accumulate value d.digitChar = some (10 * value + d) := by
  rw [accumulate, if_pos (by rw [Nat.isDigit_digitChar]; exact decide_eq_true h)]
  exact congrArg (fun n => some (10 * value + n)) (Nat.toNat_digitChar_sub_48_of_lt_ten h)

/-- A character that is no digit is not taken, so the whole numeral has no value. -/
theorem accumulate_eq_none (value : Nat) {c : Char} (h : c.isDigit = false) :
    accumulate value c = none := by
  rw [accumulate, h]
  rfl

/-- **The value of a numeral**, with or without a plus sign in front; `none` if no digit follows. -/
def value? (cs : List Char) : Option Nat :=
  match (match cs with | '+' :: rest => rest | other => other) with
  | [] => none
  | digits => digits.foldlM accumulate 0

end LinearSweep.Text.Decimal
