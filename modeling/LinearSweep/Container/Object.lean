import LinearSweep.Container.Basic
import LinearSweep.Fault
import LinearSweep.Image

/-! # Objects in images

A reader of headers finds an object in an image, or rejects the image. What is said of the image
follows from the object alone, so everything here is about a reader that is given.

* **`Elf.Section`**, **`Pe.Section`** and **`MachO.Segment`** are what is used of the parts that a
  header lists; each has its own test `isCode`.
* **`Object`** is what a reader finds, **`Object.container`** what is said of it.
* **`Container.recognize read`** is the `Container.Parser` of a reader `read`. -/

namespace LinearSweep

/-! ### ELF -/

namespace Elf

/-- The `e_machine` of 32-bit x86. -/
def machineX86 : Nat := 3

/-- The `e_machine` of 64-bit x86. -/
def machineX86Wide : Nat := 62

/-- **What is used of a section header.** -/
structure Section where
  /-- Where the name begins in the table of names, `sh_name`. -/
  name : Nat
  /-- The type. -/
  type : Nat
  /-- The flags. -/
  flags : Nat
  /-- The address in memory. -/
  address : Nat
  /-- The offset of the first byte. -/
  offset : Nat
  /-- The number of bytes. -/
  size : Nat
  /-- The index of a section that belongs to it, `sh_link`. -/
  link : Nat
  /-- The size of one entry, for a table, `sh_entsize`. -/
  entrySize : Nat
deriving DecidableEq, Repr

/-- The type of a section without bytes in the image, `SHT_NOBITS`. -/
def typeNoBits : Nat := 8

/-- The flags `SHF_ALLOC` and `SHF_EXECINSTR` of a section that is loaded and executable. -/
def flagsCode : Nat := 2 + 4

/-- **Whether a section holds code**: it is loaded and executable, and unlike a `SHT_NOBITS` section
it has bytes in the image. -/
def Section.isCode (s : Section) : Bool :=
  s.flags &&& flagsCode = flagsCode && s.type ≠ typeNoBits

end Elf

/-! ### PE -/

namespace Pe

/-- The number of 32-bit x86. -/
def machineX86 : Nat := 0x14C

/-- The number of 64-bit x86. -/
def machineX86Wide : Nat := 0x8664

/-- **What is used of a section header.** -/
structure Section where
  /-- The name, if it is a text. -/
  name? : Option String
  /-- The offset of the first byte. -/
  offset : Nat
  /-- The number of bytes in the image. -/
  size : Nat
  /-- The flags. -/
  flags : Nat
deriving DecidableEq, Repr

/-- The bit `IMAGE_SCN_MEM_EXECUTE` of an executable section. -/
def flagExecutable : Nat := 0x20000000

/-- **Whether a section holds code**: it may be executed, whatever else `flags` says. -/
def Section.isCode (s : Section) : Bool := s.flags &&& flagExecutable ≠ 0

/-- The region of a section; without a text for a name it is `""`. -/
def Section.region (s : Section) : Region := ⟨s.name?.getD "", s.offset, s.size⟩

end Pe

/-! ### Mach-O -/

namespace MachO

/-- The number of 32-bit x86. -/
def machineX86 : Nat := 7

/-- The number of 64-bit x86. -/
def machineX86Wide : Nat := 0x01000007

/-- **What is used of a segment.** -/
structure Segment where
  /-- The name, if it is a text. -/
  name? : Option String
  /-- The offset of its first byte, `fileoff`. -/
  offset : Nat
  /-- The number of its bytes in the image, `filesize`. -/
  size : Nat
  /-- What may be done with its memory at most, `maxprot`. -/
  protection : Nat
deriving DecidableEq, Repr

/-- The bit `VM_PROT_EXECUTE` of memory that may be executed. -/
def flagExecutable : Nat := 4

/-- **Whether a segment holds code**: it may be executed and has bytes, `s.size ≠ 0`. -/
def Segment.isCode (s : Segment) : Bool := s.protection &&& flagExecutable ≠ 0 && s.size ≠ 0

/-- The region of a segment; without a text for a name it is `""`. -/
def Segment.region (s : Segment) : Region := ⟨s.name?.getD "", s.offset, s.size⟩

end MachO

/-! ### Objects -/

/-- **What a reader finds in an image.** -/
inductive Object where
  /-- An ELF image: the number of the machine, the section headers, and the name that begins at a
  place in the table of names, where `name?` finds one. -/
  | elf (machine : Nat) (sections : List Elf.Section) (name? : Nat → Option String)
  /-- A PE image: the number of the machine, and the sections. -/
  | pe (machine : Nat) (sections : List Pe.Section)
  /-- A Mach-O image: the number of the machine, and the segments. -/
  | machO (machine : Nat) (segments : List MachO.Segment)
  /-- An archive of programs for several machines, in which no one container can be meant. -/
  | archive
  /-- Anything else. -/
  | other

/-- **What is said of an object.** The regions are the parts with `isCode`, in the order of the
header, and a part without a name is called `""`; only an `archive` is a fault. -/
def Object.container : Object → Except Fault Container
  | elf machine sections name? => .ok {
      kind := .elf
      machine := .ofNumber Elf.machineX86 Elf.machineX86Wide machine
      regions := (sections.filter (·.isCode)).map fun s =>
        ⟨(name? s.name).getD "", s.offset, s.size⟩ }
  | pe machine sections => .ok {
      kind := .pe
      machine := .ofNumber Pe.machineX86 Pe.machineX86Wide machine
      regions := (sections.filter (·.isCode)).map (·.region) }
  | machO machine segments => .ok {
      kind := .machO
      machine := .ofNumber MachO.machineX86 MachO.machineX86Wide machine
      regions := (segments.filter (·.isCode)).map (·.region) }
  | archive => .error .severalMachines
  | other => .ok .raw

namespace Container

/-- **What says of an image which container it is**, or why it cannot be said. -/
abbrev Parser := Image → Except Fault Container

/-- **The parser that rests on a reader.** An image that `read` rejects has no header, which is no
fault: what is said of it is `raw`. -/
def recognize (read : Image → Option Object) : Parser := fun image =>
  match read image with
  | some o => o.container
  | none => .ok raw

end Container

end LinearSweep
