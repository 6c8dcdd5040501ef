import LinearSweep.Entry
import LinearSweep.Image
import LinearSweep.Opcode

/-! # Decoding one entry of an image

* **`Entry.read address opcode following`** is the entry that begins with the byte `opcode`, when
  the bytes `following` stand behind it. It does not know the image, so what it yields depends
  on the bytes and the address alone.
* **`Decoder`** is any way to read an entry at an offset of an image, and **`decode`** is the one
  of the opcode table.
* **`walk image cursor`** repeats `decode` up to the end of the image. -/

namespace LinearSweep

/-- **Read the entry that begins with `opcode` at `address`.** The byte is skipped if it has no
rule, or if fewer bytes follow than its rule takes. -/
def Entry.read (address : Address) (opcode : UInt8) (following : List UInt8) : Entry :=
  match (Rule.ofOpcode? opcode).bind (·.instruction? address opcode following) with
  | some instruction => .recognized instruction
  | none => .skipped address opcode

/-- What `Entry.read` gives covers at least a byte: an instruction its opcode, a skip itself. -/
theorem Entry.size_read_pos (address : Address) (opcode : UInt8) (following : List UInt8) :
    0 < (read address opcode following).size := by
  unfold read
  split
  · next i h =>
    obtain ⟨rule, _, h⟩ := Option.bind_eq_some_iff.1 h
    obtain ⟨operand, _, rfl⟩ := Option.map_eq_some_iff.1 h
    simp only [size, Rule.instruction, Rule.encodedLength]
    omega
  · exact Nat.one_pos

/-- **A decoder** reads the entry at an offset of an image whose offset 0 has the given address. -/
abbrev Decoder := (image : Image) → Fin image.size → Address → Entry

/-- **The decoder of the opcode table.** It hands `Entry.read` the two bytes behind the opcode, or
what the image has of them. -/
def decode : Decoder := fun image offset base =>
  Entry.read (Address.ofOffset base offset) (image.byte offset)
    (image.following offset (Instruction.maxSize - 1))

/-- A decoded entry covers at least a byte, so `Entry.covering` leaves it as it is. -/
theorem size_decode_pos (image : Image) (offset : Fin image.size) (base : Address) :
    0 < (decode image offset base).size :=
  Entry.size_read_pos ..

/-- **Decode one entry, with addresses that are offsets** since the base is `0`, and give the offset
behind it too. -/
def decodeNext (image : Image) (offset : Fin image.size) : Entry × Nat :=
  let entry := decode image offset 0
  (entry, offset + entry.size)

/-- The offset behind an entry lies behind its beginning; so `walk` ends. -/
theorem lt_decodeNext (image : Image) (offset : Fin image.size) :
    offset < (decodeNext image offset).2 := by
  have := size_decode_pos image offset 0
  simp only [decodeNext]
  omega

/-- **Decode from `cursor` to the end of the image**: each entry with the offset behind it. -/
def walk (image : Image) (cursor : Nat) : List (Entry × Nat) :=
  if h : cursor < image.size then
    decodeNext image ⟨cursor, h⟩ :: walk image (decodeNext image ⟨cursor, h⟩).2
  else []
termination_by image.size - cursor
decreasing_by
  have : cursor < (decodeNext image ⟨cursor, h⟩).2 := lt_decodeNext image ⟨cursor, h⟩
  omega

end LinearSweep
