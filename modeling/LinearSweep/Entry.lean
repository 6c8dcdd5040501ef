import LinearSweep.Instruction

/-! # Entries of a listing

A byte of the image either begins an instruction or is passed over alone; neither is an error.

* **`Entry`** is an instruction, or one skipped byte.
* **`Entry.covering byte`** makes an entry that covers nothing cover `byte`. -/

namespace LinearSweep

/-- **One step through an image**: `.recognized` or `.skipped`. -/
inductive Entry where
  /-- An instruction begins here. -/
  | recognized (instruction : Instruction)
  /-- One byte that begins no instruction. -/
  | skipped (address : Address) (byte : UInt8)
deriving DecidableEq

namespace Entry

/-- The address of the first byte. -/
def address : Entry → Address
  | .recognized i => i.address
  | .skipped a _ => a

/-- **The number of bytes covered**; a skipped byte is `1`. -/
def size : Entry → Nat
  | .recognized i => i.size
  | .skipped _ _ => 1

/-- **The bytes covered.** -/
def bytes : Entry → List UInt8
  | .recognized i => i.bytes
  | .skipped _ byte => [byte]

/-- The instruction of a `.recognized` entry. -/
def instruction? : Entry → Option Instruction
  | .recognized i => some i
  | .skipped _ _ => none

/-- Whether the entry is a skipped byte. -/
def isSkipped : Entry → Bool
  | .recognized _ => false
  | .skipped _ _ => true

/-- The mnemonic; for a skipped byte it is empty. -/
def mnemonic (e : Entry) : String := (e.instruction?.map (·.mnemonic)).getD ""

/-- The line in the assembly view; a skipped byte has none. -/
def line (e : Entry) : String := (e.instruction?.map (·.line)).getD ""

/-- An entry has as many `bytes` as its `size` says. -/
@[simp] theorem length_bytes (e : Entry) : e.bytes.length = e.size := by
  cases e <;> simp [bytes, size]

/-- **An entry that covers a byte**: one of size zero gives way to a skip of `byte` at the same
address. -/
def covering (byte : UInt8) (e : Entry) : Entry :=
  if e.size = 0 then .skipped e.address byte else e

/-- Every entry covers a byte after `covering`, whatever size a decoder gave it. -/
theorem size_covering_pos (byte : UInt8) (e : Entry) : 0 < (e.covering byte).size := by
  unfold covering
  split
  · simp [size]
  · omega

/-- An entry that covers a byte already stays as it is. -/
theorem covering_of_size_pos (byte : UInt8) {e : Entry} (h : 0 < e.size) :
    e.covering byte = e := by
  unfold covering
  rw [if_neg (by omega)]

end Entry

end LinearSweep
