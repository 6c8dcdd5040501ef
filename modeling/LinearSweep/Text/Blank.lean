import LinearSweep.Text.CodePoints

/-! # Blank characters

The 25 code points with the Unicode property White_Space, and text without the blanks around it.

* **`isBlank c`** looks a character up.
* **`trimBlank cs`** drops the blanks at both ends. -/

namespace LinearSweep.Text

/-- **The blank code points**, as ascending closed ranges. -/
def blanks : CodePoints :=
  [(0x9, 0xD), (0x20, 0x20), (0x85, 0x85), (0xA0, 0xA0), (0x1680, 0x1680), (0x2000, 0x200A),
   (0x2028, 0x2029), (0x202F, 0x202F), (0x205F, 0x205F), (0x3000, 0x3000)]

/-- Whether a character is blank: its code point lies in `blanks`. -/
def isBlank (c : Char) : Bool := blanks.contains c

/-- **A text without the blanks at its two ends.** Blanks between other characters stay, so only
`dropWhile` from both sides is needed. -/
def trimBlank (cs : List Char) : List Char :=
  ((cs.dropWhile isBlank).reverse.dropWhile isBlank).reverse

end LinearSweep.Text
