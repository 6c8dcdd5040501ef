import LinearSweep.Container.Fields
import LinearSweep.Container.Object

/-! # A reader of Mach-O images

A Mach-O image begins with a header, and a list of commands follows. Some commands describe a
segment.

* **`MachO.Encoding`** is the width and the byte order, which the first bytes give.
* **`MachO.Command`** is a command, **`MachO.commands?`** reads the list.
* **`MachO.object?`** is the object in the image, and `none` for a broken image. -/

namespace LinearSweep.MachO

/-- **How the header is encoded.** -/
structure Encoding where
  /-- Whether the header has eight words rather than seven. -/
  wide : Bool
  /-- The order of the bytes. -/
  order : ByteOrder
deriving DecidableEq, Repr

/-- The encoding that the first four bytes give: `MH_MAGIC` or `MH_MAGIC_64`, in either byte order.
-/
def encoding? (magic : List UInt8) : Option Encoding :=
  if magic = [0xFE, 0xED, 0xFA, 0xCE] then some ⟨false, .big⟩
  else if magic = [0xFE, 0xED, 0xFA, 0xCF] then some ⟨true, .big⟩
  else if magic = [0xCE, 0xFA, 0xED, 0xFE] then some ⟨false, .little⟩
  else if magic = [0xCF, 0xFA, 0xED, 0xFE] then some ⟨true, .little⟩
  else none

/-- The bytes that an archive of several programs begins with, `FAT_MAGIC`. -/
def archiveMagic : List UInt8 := [0xCA, 0xFE, 0xBA, 0xBE]

/-! ### Commands -/

/-- Whether the bytes of a segment, if it has any, lie in the image: `s.offset + s.size ≤
image.size`. -/
def Segment.fits (s : Segment) (image : Image) : Bool :=
  s.size = 0 || s.offset + s.size ≤ image.size

/-- The name of the segment that holds the program. -/
def programName : String := "__TEXT"

/-- **A command of the header.** -/
inductive Command where
  /-- A segment is described. -/
  | segment (s : Segment)
  /-- The entry point of the program is given. -/
  | entryPoint
  /-- Anything else. -/
  | other
deriving DecidableEq, Repr

/-- The segment of a command, if it describes one. -/
def Command.segment? : Command → Option Segment
  | .segment s => some s
  | _ => none

/-- Read a segment from the command at some offset, whose sizes and offsets have `word` bytes. -/
def segment? (image : Image) (order : ByteOrder) (word offset : Nat) : Option Segment := do
  let nameField ← image.slice? (offset + 8) 16
  match ← image.fields? order (offset + 24) [word, word, word, word, 4, 4, 4, 4] with
  | [_, _, start, size, protection, _, _, _] =>
    return { name? := leadingText? nameField, offset := start, size, protection }
  | _ => none

/-- The number of the command for a segment with four-byte offsets, `LC_SEGMENT`. -/
def commandSegment : Nat := 1

/-- The number of the command for a segment with eight-byte offsets, `LC_SEGMENT_64`. -/
def commandSegmentWide : Nat := 0x19

/-- The number of the command for the identifier of the program, `LC_UUID`. -/
def commandIdentifier : Nat := 0x1B

/-- The number of the command for the entry point, `LC_MAIN`. -/
def commandEntryPoint : Nat := 0x80000028

/-- The size of the commands for the identifier and for the entry point. -/
def smallCommandSize : Nat := 24

/-- **Read the command at some offset**, and its size. Neither `offset + size` nor what a known
command holds may pass the end of the image. -/
def command? (image : Image) (order : ByteOrder) (offset : Nat) : Option (Command × Nat) := do
  -- every command begins with its number and its size
  let [number, size] ← image.fields? order offset [4, 4] | none
  guard (offset + size ≤ image.size)
  let command ←
    if number = commandSegment then (segment? image order 4 offset).map .segment
    else if number = commandSegmentWide then (segment? image order 8 offset).map .segment
    else if number = commandIdentifier then
      (image.slice? offset smallCommandSize).map fun _ => .other
    else if number = commandEntryPoint then
      (image.slice? offset smallCommandSize).map fun _ => .entryPoint
    else some .other
  return (command, size)

/-- **Read a number of commands**, each of which begins where the size of the one before ends; the
recursion is on the number, so a size of `0` is no trouble. -/
def commands? (image : Image) (order : ByteOrder) : Nat → Nat → Option (List Command)
  | 0, _ => some []
  | count + 1, offset => do
    let (command, size) ← command? image order offset
    let rest ← commands? image order count (offset + size)
    return command :: rest

/-! ### Images -/

/-- The smallest size of an image, whatever its encoding: that of a wide header. -/
def minimalSize : Nat := 32

/-- The size of the header. -/
def Encoding.headerSize (e : Encoding) : Nat := if e.wide then 32 else 28

/-- **The object in a Mach-O image**, or `none` if a part of it is broken. A program with an entry
point needs a segment called `programName`. -/
def object? (image : Image) (e : Encoding) : Option Object := do
  guard (minimalSize ≤ image.size)
  let [machine, _, _, count, size, _] ← image.fields? e.order 4 [4, 4, 4, 4, 4, 4] | none
  guard (count ≤ size / 8)
  guard (size ≤ image.size)
  let commands ← commands? image e.order count e.headerSize
  let segments := commands.filterMap Command.segment?
  guard (segments.all (·.fits image))
  guard (.entryPoint ∉ commands || segments.any (·.name? = some programName))
  return .machO machine segments

end LinearSweep.MachO
