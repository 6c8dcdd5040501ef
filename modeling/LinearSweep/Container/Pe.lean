import LinearSweep.Container.Fields
import LinearSweep.Container.Object
import LinearSweep.Text.Decimal

/-! # A reader of PE images

A PE image begins with a small header that points to the main one; behind the main header stand
an optional header and the table of sections.

* **`Pe.optionalHeaderFits`** checks the optional header.
* **`Pe.sectionName?`** is the name of a section, which may stand elsewhere in the image.
* **`Pe.object?`** is the object in the image, and `none` for a broken image. -/

namespace LinearSweep.Pe

open Text

/-- The bytes that a PE image begins with, `MZ`. -/
def magic : List UInt8 := [0x4D, 0x5A]

/-- The bytes in front of the main header, `PE` and two zeros. -/
def signature : List UInt8 := [0x50, 0x45, 0, 0]

/-- The largest number of data directories. -/
def maxDirectories : Nat := 16

/-! ### The optional header -/

/-- The size of an optional header without its directories, by the number that it begins with:
`0x10B` for narrow addresses, `0x20B` for wide ones. -/
def optionalHeaderSize? : Nat → Option Nat
  | 0x10B => some 96
  | 0x20B => some 112
  | _ => none

/-- **Whether an optional header is sound**: it has a known kind, at most `maxDirectories`
directories, whose number stands in its last field, and lies in the image together with them. -/
def optionalHeaderFits (image : Image) (offset : Nat) : Bool :=
  (do
    let [kind] ← image.fields? .little offset [2] | none
    let size ← optionalHeaderSize? kind
    let [count] ← image.fields? .little (offset + size - 4) [4] | none
    guard (count ≤ maxDirectories)
    image.slice? offset (size + 8 * count) : Option (List UInt8)).isSome

/-! ### Sections -/

/-- The value of a digit to base 64. -/
def base64Digit? (c : Char) : Option Nat :=
  if c.isUpper then some (c.toNat - 'A'.toNat)
  else if c.isLower then some (c.toNat - 'a'.toNat + 26)
  else if c.isDigit then some (c.toNat - '0'.toNat + 52)
  else if c = '+' then some 62
  else if c = '/' then some 63
  else none

/-- **The place of a long name**, which a name field gives behind a slash: in decimal as in `/123`,
to base 64 as in `//AAAAB7`. -/
def longNamePlace? : List Char → Option Nat
  | '/' :: digits => digits.foldlM (fun n c => (base64Digit? c).map (64 * n + ·)) 0
  | digits => Decimal.value? digits

/-- **The name of a section** from its field of eight bytes. A field with a slash in front gives a
place behind `strings`, and fails if there is no text; any other field is the name itself, which
is `some none` if it is not UTF-8. -/
def sectionName? (image : Image) (strings : Nat) (field : List UInt8) : Option (Option String) :=
  match (field.takeWhile (· ≠ 0)).map fun byte => Char.ofNat byte.toNat with
  | '/' :: digits => do
    let place ← longNamePlace? digits
    let tail ← image.slice? (strings + place) (image.size - (strings + place))
    (leadingText? tail).map some
  | _ => some (leadingText? field)

/-- The size of a section header. -/
def sectionSize : Nat := 40

/-- The size of a symbol. -/
def symbolSize : Nat := 18

/-- **Read the section header** at some offset, where long names stand behind `strings`. -/
def sectionAt? (image : Image) (strings offset : Nat) : Option Section := do
  let field ← image.slice? offset 8
  match ← image.fields? .little (offset + 8) [4, 4, 4, 4, 4, 4, 2, 2, 4] with
  | [_, _, size, start, _, _, _, _, flags] =>
    return { name? := ← sectionName? image strings field, offset := start, size, flags }
  | _ => none

/-! ### Images -/

/-- The offset of the pointer to the main header, `e_lfanew`. -/
def pointerOffset : Nat := 0x3C

/-- The size of the small header, in which the pointer is the last field. -/
def smallHeaderSize : Nat := 0x40

/-- The size of the main header behind its signature. -/
def headerSize : Nat := 20

/-- **The object in a PE image**, or `none` if a part of it is broken. A main header must lie behind
the small one. -/
def object? (image : Image) : Option Object := do
  let [pointer] ← image.fields? .little pointerOffset [4] | none
  guard (smallHeaderSize < pointer)
  guard ((← image.slice? pointer 4) = signature)
  -- the main header stands behind the signature, and the optional header behind it
  let header := pointer + 4
  let [machine, count, _, symbols, symbolCount, optionalSize, _] ←
    image.fields? .little header [2, 2, 4, 4, 4, 2, 2] | none
  let optional := header + headerSize
  guard (optionalSize = 0 || optionalHeaderFits image optional)
  guard (count ≤ image.size / sectionSize)
  -- long names stand behind the symbols
  let strings := symbols + symbolSize * symbolCount
  let sections ← (List.range count).mapM fun i =>
    sectionAt? image strings (optional + optionalSize + i * sectionSize)
  return .pe machine sections

end LinearSweep.Pe
