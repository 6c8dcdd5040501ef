import LinearSweep.Address
import LinearSweep.Text.Column
import LinearSweep.Text.Hex

/-! # Instructions

* **`Instruction`** is one recognized instruction: its address, its size, the texts of its
  mnemonic and operands, its branch target and its bytes.
* **`Instruction.line`** is its line in the assembly view, in fixed columns.
* **`Instruction.display`** is its text without address and bytes. -/

namespace LinearSweep

open Text

/-- The number of bytes of the longest instruction, `3`: an opcode and a word. -/
def Instruction.maxSize : Nat := 3

/-- **One instruction.** -/
@[ext] structure Instruction where
  /-- The address of its first byte. -/
  address : Address
  /-- The number of its bytes. -/
  size : Nat
  /-- The name of the operation. -/
  mnemonic : String
  /-- The operands as they are shown, empty where there are none. -/
  operands : String
  /-- The address that a call or jump goes to. -/
  target : Option Address
  /-- Room for the bytes of the longest instruction, of which the first `size` count. -/
  stored : Vector UInt8 Instruction.maxSize
  /-- No instruction is longer than the room for its bytes. -/
  size_le : size ≤ Instruction.maxSize
deriving DecidableEq

namespace Instruction

/-- **The bytes of an instruction**, which are the first `size` of those `stored`. -/
def bytes (i : Instruction) : List UInt8 := i.stored.toList.take i.size

/-- An instruction has as many bytes as its `size` says, since `size_le` keeps it within the room.
-/
@[simp] theorem length_bytes (i : Instruction) : i.bytes.length = i.size := by
  have := i.size_le
  simp [bytes]
  omega

/-- The two upper-case digits of a byte, as in `0A`. -/
def hexPair (byte : UInt8) : List Char := Hex.padded 2 byte.toNat

/-- **The bytes in hexadecimal**, two digits each, with a space between, as in `E8 00 7C`. -/
def rawHex (i : Instruction) : String := String.ofList ([' '].intercalate (i.bytes.map hexPair))

/-- The width of the column of bytes, where `rawHex` stands. -/
def bytesWidth : Nat := 18

/-- The width of the column of mnemonics. -/
def mnemonicWidth : Nat := 8

/-- **The line of the assembly view**: address, bytes, mnemonic and operands in their columns. -/
def line (i : Instruction) : String :=
  Hex.markedPadded 8 i.address.toNat ++ "  " ++ alignLeft bytesWidth i.rawHex ++ " " ++
    alignLeft mnemonicWidth i.mnemonic ++ " " ++ i.operands

/-- **Mnemonic and operands** with a space between; the mnemonic alone where `operands` is empty. -/
def display (i : Instruction) : String :=
  if i.operands = "" then i.mnemonic else i.mnemonic ++ " " ++ i.operands

/-- The address behind the last byte, `address + size`. It is not wrapped, so at the end of the
32-bit space it leaves this space. -/
def endAddress (i : Instruction) : Address := i.address + UInt64.ofNat i.size

/-- Whether the instruction is a jump, conditional or not: its mnemonic begins with `j`. -/
def isBranch (i : Instruction) : Bool := i.mnemonic.toList.head? = some 'j'

/-- Whether the instruction is a call: its mnemonic is `call`. -/
def isCall (i : Instruction) : Bool := i.mnemonic = "call"

end Instruction

end LinearSweep
