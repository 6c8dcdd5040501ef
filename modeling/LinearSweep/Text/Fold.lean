/-! # Folding the case of names

Names made of ASCII letters are compared without regard to case in two ways: a text is lowered as a
whole and looked up, or it is compared with one name after the other.

* **`foldAscii text`** lowers the ASCII capitals and leaves all else.
* **`foldLetters text`** lowers every character whose lower-case form holds an ASCII letter:
  the ASCII capitals, the Kelvin sign, which becomes `k`, and the dotted capital `I`, which
  becomes `i` and a combining dot.
* **`Casing`** are the two functions that readers of names rest on, **`Casing.atHand`** those at
  hand. -/

namespace LinearSweep.Text

/-- **Lower the ASCII capitals** of a text, character by character with `Char.toLower`. -/
def foldAscii (text : String) : String := text.map Char.toLower

/-- The lower-case form of a character, where that form holds an ASCII letter; other characters
are left as they are. -/
def foldLetter (c : Char) : List Char :=
  if c = '\u212A' then ['k']
  else if c = '\u0130' then ['i', '\u0307']
  else [c.toLower]

/-- **Lower all characters that lower to ASCII letters**, by `foldLetter` of each. -/
def foldLetters (text : String) : String := String.ofList (text.toList.flatMap foldLetter)

/-- **The functions on texts that readers of names rest on.** -/
structure Casing where
  /-- The lower-case form of a text. -/
  lower : String → String
  /-- Whether a text is taken for a name, with the case of letters ignored or not. -/
  accepts : (ignoring : Bool) → (name text : String) → Bool

namespace Casing

/-- **The functions at hand**: `foldLetters` to lower a text, and `foldAscii` of both sides to
compare texts with case ignored. -/
def atHand : Casing where
  lower := foldLetters
  accepts ignoring name text :=
    if ignoring then foldAscii text = foldAscii name else text = name

/-- **The first of some choices whose name a text is taken for** by `k.accepts`. -/
def choose? {α : Type} (k : Casing) (ignoring : Bool) (name : α → String) (choices : List α)
    (text : String) : Option α :=
  choices.find? fun a => k.accepts ignoring (name a) text

end Casing

end LinearSweep.Text
