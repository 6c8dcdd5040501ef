import LinearSweep.Offset

/-! # Containers of code

What the header of an image says about it: the kind of container, the machine, and the ranges
that hold code.

* **`Region`** is a range of the image, **`Region.stop`** the offset behind it.
* **`Container`** is what a header says, **`Container.raw`** what is said without a header.
* **`Container.region? length`** is the first region that has a byte in an image of some
  length. -/

namespace LinearSweep

/-- **A range of the image that holds code.** -/
structure Region where
  /-- The name of the section or segment. -/
  name : String
  /-- The offset of its first byte. -/
  offset : Nat
  /-- The number of its bytes. -/
  size : Nat
deriving DecidableEq, Repr

/-- The offset behind the last byte, `r.offset + r.size` held at the largest offset. -/
def Region.stop (r : Region) : Nat := Offset.add r.offset r.size

/-- **The kind of an image.** -/
inductive Container.Kind where
  /-- Bytes without a header. -/
  | raw
  /-- An ELF object or program. -/
  | elf
  /-- A PE program. -/
  | pe
  /-- A Mach-O program. -/
  | machO
deriving DecidableEq, Repr

/-- The name of a kind. -/
def Container.Kind.name : Container.Kind → String
  | .raw => "raw"
  | .elf => "ELF"
  | .pe => "PE"
  | .machO => "Mach-O"

/-- All kinds. -/
def Container.Kind.all : List Container.Kind := [.raw, .elf, .pe, .machO]

/-- **The machine that a header declares.** -/
inductive Container.Machine where
  /-- The x86 of 16 or 32 bits. -/
  | x86
  /-- The x86 of 64 bits. -/
  | x86wide
  /-- Any other machine. -/
  | other
  /-- There is no header to declare one. -/
  | unknown
deriving DecidableEq, Repr

/-- Whether a machine runs x86 code. -/
def Container.Machine.isX86 : Container.Machine → Bool
  | .x86 | .x86wide => true
  | .other | .unknown => false

/-- The machine of a number, where `narrow` and `wide` are the numbers of the two kinds of x86; all
the rest are `.other`. -/
def Container.Machine.ofNumber (narrow wide number : Nat) : Container.Machine :=
  if number = narrow then .x86 else if number = wide then .x86wide else .other

/-- **What the header of an image says.** -/
structure Container where
  /-- The kind of the image. -/
  kind : Container.Kind
  /-- The declared machine. -/
  machine : Container.Machine
  /-- The regions that hold code, in the order of the header. -/
  regions : List Region
deriving DecidableEq, Repr

namespace Container

/-- **An image without a header.** -/
def raw : Container := ⟨.raw, .unknown, []⟩

/-- **The first region that has a byte in an image of `length` bytes.** It may reach past the end of
the image. -/
def region? (c : Container) (length : Nat) : Option Region :=
  c.regions.find? fun r => 0 < r.size && r.offset < length

end Container

end LinearSweep
