import LinearSweep.Container.Fields
import LinearSweep.Container.Object

/-! # A reader of ELF images

An ELF image gives the width of its fields and the order of their bytes in its first bytes, and
the place of a table of sections in its header.

* **`Elf.Encoding`** is the width and the byte order, **`Elf.encoding?`** reads it.
* **`Elf.header?`**, **`Elf.programs?`** and **`Elf.sections?`** read the header and the two tables
  that it points at, **`Elf.stringTable?`** the section that holds names.
* **`Elf.object?`** is the object in the image, and `none` for a broken image. Besides the headers,
  the dynamic table, the symbol table, the relocations and the tables about versions must lie in the
  image. -/

namespace LinearSweep.Elf

/-- The bytes that an ELF image begins with. -/
def magic : List UInt8 := [0x7F, 0x45, 0x4C, 0x46]

/-! ### Encodings -/

/-- **How the headers are encoded**: all the records of an image are read with one `Encoding`. -/
structure Encoding where
  /-- Whether offsets and sizes have eight bytes rather than four. -/
  wide : Bool
  /-- The order of the bytes. -/
  order : ByteOrder
deriving DecidableEq, Repr

namespace Encoding

/-- The width of an offset or a size: `8` in wide fields, `4` in narrow ones. -/
def word (e : Encoding) : Nat := if e.wide then 8 else 4

/-- The widths of the fields of the header behind its first 16 bytes: type, machine, version,
entry point, offset of the program headers, offset of the section headers, flags, size of the
header, size and number of program headers, size and number of section headers, and the index of
the section with the names. -/
def headerWidths (e : Encoding) : List Nat :=
  [2, 2, 4, e.word, e.word, e.word, 4, 2, 2, 2, 2, 2, 2]

/-- The widths of the fields of a section header: name, type, flags, address, offset, size, link,
information, alignment and size of an entry. -/
def sectionWidths (e : Encoding) : List Nat :=
  [4, 4, e.word, e.word, e.word, e.word, 4, 4, e.word, e.word]

/-- The size of a section header, the sum of `e.sectionWidths`. -/
def sectionSize (e : Encoding) : Nat := if e.wide then 64 else 40

/-- The widths of the fields of a program header. The type comes first and the rest depends on the
width: in narrow fields the offset, two addresses, two sizes, the flags and the alignment, in wide
fields the flags, the offset, two addresses, two sizes and the alignment. -/
def programWidths (e : Encoding) : List Nat :=
  [4, 4, e.word, e.word, e.word, e.word, e.word, e.word]

/-- The size of a program header, the sum of `e.programWidths`. -/
def programSize (e : Encoding) : Nat := if e.wide then 56 else 32

/-- The size of an entry of the symbol table. -/
def symbolSize (e : Encoding) : Nat := if e.wide then 24 else 16

end Encoding

/-- Whether fields are wide, by the byte that says so, `ELFCLASS32` or `ELFCLASS64`. -/
def wide? : Nat → Option Bool
  | 1 => some false
  | 2 => some true
  | _ => none

/-- The byte order, by the byte that says so, `ELFDATA2LSB` or `ELFDATA2MSB`. -/
def order? : Nat → Option ByteOrder
  | 1 => some .little
  | 2 => some .big
  | _ => none

/-- **Read the encoding** from the bytes at offsets 4 and 5. -/
def encoding? (image : Image) : Option Encoding := do
  let [width, order] ← image.fields? .little 4 [1, 1] | none
  return { wide := ← wide? width, order := ← order? order }

/-! ### Headers -/

/-- **What is used of the header.** -/
structure Header where
  /-- The number of the machine. -/
  machine : Nat
  /-- The offset of the program headers. -/
  programOffset : Nat
  /-- The number of program headers. -/
  programCount : Nat
  /-- The offset of the section headers; zero if there are none. -/
  sectionOffset : Nat
  /-- The number of section headers; zero if the first of them gives it. -/
  sectionCount : Nat
  /-- The index of the section that holds the names of sections. -/
  nameIndex : Nat
deriving DecidableEq, Repr

/-- Read the header, which begins behind the `16` bytes that identify the image. -/
def header? (image : Image) (e : Encoding) : Option Header := do
  match ← image.fields? e.order 16 e.headerWidths with
  | [_, machine, _, _, programOffset, sectionOffset, _, _, _, programCount, _, sectionCount,
      nameIndex] =>
    return { machine, programOffset, programCount, sectionOffset, sectionCount, nameIndex }
  | _ => none

/-! ### Sections -/

/-- The type of a symbol table, `SHT_SYMTAB`. -/
def typeSymbols : Nat := 2

/-- The type of relocations with addends, `SHT_RELA`. -/
def typeRelocationsAddend : Nat := 4

/-- The type of relocations, `SHT_REL`. -/
def typeRelocations : Nat := 9

/-- The types of the tables about symbol versions: definitions, needs, and the versions themselves,
`SHT_GNU_verdef`, `SHT_GNU_verneed` and `SHT_GNU_versym`. -/
def typesVersions : List Nat := [0x6FFFFFFD, 0x6FFFFFFE, 0x6FFFFFFF]

/-- Whether the bytes of a section, if it has any, lie in the image and in memory: neither `offset +
size` nor `address + size` goes too far. -/
def Section.fits (s : Section) (image : Image) : Bool :=
  s.type = typeNoBits || s.size = 0 ||
    (s.offset + s.size ≤ image.size && s.address + s.size ≤ Offset.largest)

/-- Read the section header at some offset. -/
def sectionAt? (image : Image) (e : Encoding) (offset : Nat) : Option Section := do
  match ← image.fields? e.order offset e.sectionWidths with
  | [name, type, flags, address, offset, size, link, _, _, entrySize] =>
    return { name, type, flags, address, offset, size, link, entrySize }
  | _ => none

/-- **Read the section table.** The first header is read whenever there is a table, and gives the
number of headers if `h.sectionCount` is zero. -/
def sections? (image : Image) (e : Encoding) (h : Header) : Option (List Section) :=
  if h.sectionOffset = 0 then some []
  else do
    let first ← sectionAt? image e h.sectionOffset
    let count := if h.sectionCount = 0 then first.size else h.sectionCount
    -- a count that cannot be true is rejected before any header is read
    guard (count ≤ image.size / e.sectionSize)
    let rest ← (List.range (count - 1)).mapM fun i =>
      sectionAt? image e (h.sectionOffset + (i + 1) * e.sectionSize)
    return first :: rest

/-- The index that stands for the link of the first section, `SHN_XINDEX`. -/
def indirectIndex : Nat := 0xFFFF

/-- **The bytes of the table of strings at an index of the section table.** An index without a
section gives `some []`, the empty table; a table must lie in the image and be UTF-8. -/
def stringTable? (image : Image) (sections : List Section) (index : Nat) :
    Option (List UInt8) :=
  -- an index that does not fit its field stands in the first section header
  let direct := if index = indirectIndex then (sections.head?.map (·.link)).getD 0 else index
  match sections[direct]? with
  | none => some []
  | some s => do
    guard (s.fits image)
    let table ← image.slice? s.offset s.size
    let _ ← String.fromUTF8? table.toByteArray
    return table

/-- **The string that begins at an offset of a table** and ends at a zero byte or with the table. It
is `some ""` behind the table, and `none` inside a character. -/
def stringAt? (table : List UInt8) (offset : Nat) : Option String :=
  leadingText? (table.drop offset)

/-! ### Programs -/

/-- **What is used of a program header.** -/
structure Program where
  /-- The type. -/
  type : Nat
  /-- The offset of the first byte. -/
  offset : Nat
  /-- The number of bytes in the image. -/
  size : Nat
deriving DecidableEq, Repr

/-- The type of the program header with the dynamic table, `PT_DYNAMIC`. -/
def typeDynamic : Nat := 2

/-- Read the program header at some offset. Wide fields have the flags in front of the offset. -/
def programAt? (image : Image) (e : Encoding) (offset : Nat) : Option Program := do
  match e.wide, ← image.fields? e.order offset e.programWidths with
  | false, [type, start, _, _, size, _, _, _] => return { type, offset := start, size }
  | true, [type, _, start, _, _, size, _, _] => return { type, offset := start, size }
  | _, _ => none

/-- **Read the program headers**, which must lie in the image. -/
def programs? (image : Image) (e : Encoding) (h : Header) : Option (List Program) := do
  guard (h.programCount ≤ image.size / e.programSize)
  (List.range h.programCount).mapM fun i =>
    programAt? image e (h.programOffset + i * e.programSize)

/-! ### Images -/

/-- Whether the first dynamic table, if there is one with bytes, lies in the image. -/
def dynamicFits (image : Image) (programs : List Program) : Bool :=
  match programs.find? (·.type = typeDynamic) with
  | none => true
  | some p => p.size = 0 || p.offset + p.size ≤ image.size

/-- Whether the last symbol table, if there is one, lies in the image together with its names. -/
def symbolsFit (image : Image) (e : Encoding) (sections : List Section) : Bool :=
  match (sections.filter (·.type = typeSymbols)).getLast? with
  | none => true
  | some s =>
    let count := if s.entrySize = 0 then 0 else s.size / s.entrySize
    s.offset + count * e.symbolSize ≤ image.size &&
      (stringTable? image sections s.link).isSome

/-- Whether all relocations lie in the image. -/
def relocationsFit (image : Image) (sections : List Section) : Bool :=
  sections.all fun s =>
    (s.type ≠ typeRelocations && s.type ≠ typeRelocationsAddend) || s.fits image

/-- Whether the first table of each of `typesVersions` lies in the image. -/
def versionsFit (image : Image) (sections : List Section) : Bool :=
  typesVersions.all fun type =>
    match sections.find? (·.type = type) with
    | none => true
    | some s => s.offset + s.size ≤ image.size

/-- **The object in an ELF image**, or `none` if a part of it is broken. What the entries of the
dynamic table point at is not looked at. -/
def object? (image : Image) : Option Object := do
  let e ← encoding? image
  let h ← header? image e
  let programs ← programs? image e h
  let sections ← sections? image e h
  let names ← stringTable? image sections h.nameIndex
  -- what follows is only checked: it leaves nothing in the object
  guard (symbolsFit image e sections)
  guard (dynamicFits image programs)
  guard (relocationsFit image sections)
  guard (versionsFit image sections)
  return .elf h.machine sections (stringAt? names)

end LinearSweep.Elf
