import LinearSweep.Text.Extender
import LinearSweep.Text.Hex
import LinearSweep.Text.Ignorable
import LinearSweep.Text.Unprintable

/-! # Quoted text for messages

A text that may hold anything is shown between double quotes, on one line and without
characters that cannot be seen.

* **`Quoted.escape c`** is the form of one character between the quotes.
* **`quoted text`** is the whole text between its quotes. -/

namespace LinearSweep.Text

/-- The letter that stands behind a backslash for a character with a short escape. -/
def Quoted.letter? : Char → Option Char
  | '\x00' => some '0'
  | '\t' => some 't'
  | '\r' => some 'r'
  | '\n' => some 'n'
  | '\"' => some '\"'
  | '\\' => some '\\'
  | _ => none

/-- **One character between the quotes.** Six characters have a letter behind a backslash by
`letter?`; other characters that are unprintable, ignorable or extend the one before are given by
their code point in lower-case digits between braces; all others stand for themselves. -/
def Quoted.escape (c : Char) : List Char :=
  match Quoted.letter? c with
  | some letter => ['\\', letter]
  | none =>
    if isUnprintable c || isIgnorable c || isExtender c then
      ['\\', 'u', '\x7b'] ++ Hex.digits .lower c.toNat ++ ['\x7d']
    else [c]

/-- **A text between double quotes**, with `Quoted.escape` of each character. -/
def quoted (text : String) : String :=
  String.ofList ('\"' :: text.toList.flatMap Quoted.escape ++ ['\"'])

end LinearSweep.Text
