import LinearSweep.Text.Hex

/-! # JSON values and their text

The values that reports are made of, and how they are written. All that a layout decides is the
space between tokens, so that every layout of a value reads back to the same value.

* **`Json`** is a value: a natural number, a string, an array, or an object whose fields keep
  their order.
* **`Json.Layout`** is the space between tokens, with **`Json.Layout.compact`** (none) and
  **`Json.Layout.indented`** (a line for each item).
* **`Json.write`** writes a value, **`Json.escape`** one character of a string. -/

namespace LinearSweep

open Text

/-- **A JSON value** without signs, fractions and truth values. -/
inductive Json where
  /-- A natural number. -/
  | number (value : Nat)
  /-- A string. -/
  | string (text : String)
  /-- An array of values. -/
  | array (items : List Json)
  /-- An object, with its fields in the order in which they are written. -/
  | object (fields : List (String × Json))

namespace Json

/-! ### Strings -/

/-- The letter that stands behind a backslash for a character with a short escape, such as `n` for a
newline. -/
def letter? : Char → Option Char
  | '\"' => some '\"'
  | '\\' => some '\\'
  | '\x08' => some 'b'
  | '\x0c' => some 'f'
  | '\n' => some 'n'
  | '\r' => some 'r'
  | '\t' => some 't'
  | _ => none

/-- **One character inside a string.** The quote, the backslash and five control characters have a
letter by `letter?`, other characters below the space are given by four digits behind `\u`, and all
others stand for themselves. -/
def escape (c : Char) : List Char :=
  match letter? c with
  | some letter => ['\\', letter]
  | none =>
    if c.toNat < 0x20 then
      ['\\', 'u'] ++ (Hex.digits .lower c.toNat).leftpad 4 '0'
    else [c]

/-- **A string between its quotes**, with `escape` of each character. -/
def writeString (text : String) : List Char :=
  '\"' :: text.toList.flatMap escape ++ ['\"']

/-! ### Values -/

/-- **The space between the tokens of a value.** It is all that `compact` and `indented` differ in.
-/
structure Layout where
  /-- What stands behind the colon of a field. -/
  afterColon : List Char
  /-- What stands in front of an item or a closing bracket at some depth of nesting. -/
  newLine : Nat → List Char

/-- No space at all. -/
def Layout.compact : Layout where
  afterColon := []
  newLine := fun _ => []

/-- A line for each item, indented by two spaces for each level, and a space behind each colon. -/
def Layout.indented : Layout where
  afterColon := [' ']
  newLine := fun depth => '\n' :: List.replicate (2 * depth) ' '

/-- The decimal digits of a number, `Nat.toDigits 10 n`. -/
def writeNumber (n : Nat) : List Char := Nat.toDigits 10 n

mutual

/-- **Write a value** at some `depth` of nesting. Empty arrays and objects take no space. -/
def write (layout : Layout) (depth : Nat) : Json → List Char
  | .number n => writeNumber n
  | .string text => writeString text
  | .array [] => ['[', ']']
  | .array (item :: items) =>
    '[' :: layout.newLine (depth + 1) ++ write layout (depth + 1) item ++
      writeItems layout depth items ++ layout.newLine depth ++ [']']
  | .object [] => ['\x7b', '\x7d']
  | .object ((key, value) :: fields) =>
    '\x7b' :: layout.newLine (depth + 1) ++ writeString key ++ ':' :: layout.afterColon ++
      write layout (depth + 1) value ++ writeFields layout depth fields ++
      layout.newLine depth ++ ['\x7d']

/-- Write the items of an array behind the first, each behind a comma and `layout.newLine (depth +
1)`. -/
def writeItems (layout : Layout) (depth : Nat) : List Json → List Char
  | [] => []
  | item :: items =>
    ',' :: layout.newLine (depth + 1) ++ write layout (depth + 1) item ++
      writeItems layout depth items

/-- Write the fields of an object behind the first, as `writeItems` does for arrays. -/
def writeFields (layout : Layout) (depth : Nat) : List (String × Json) → List Char
  | [] => []
  | (key, value) :: fields =>
    ',' :: layout.newLine (depth + 1) ++ writeString key ++ ':' :: layout.afterColon ++
      write layout (depth + 1) value ++ writeFields layout depth fields

end

/-- The text of a value without any space. -/
def compact (value : Json) : String := String.ofList (write .compact 0 value)

/-- The text of a value with a line for each item. -/
def indented (value : Json) : String := String.ofList (write .indented 0 value)

end Json

end LinearSweep
