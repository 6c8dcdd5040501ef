import LinearSweep.Instruction

/-! # The opcode table

The supported instructions of 16-bit x86 code. An opcode is one byte; its rule says which
operation it names and what the bytes behind it hold.

* **`OperandForm`** is what follows an opcode, **`Operand`** what was read there.
* **`OperandForm.read?`** reads an operand and fails if bytes are missing.
* **`Rule.ofOpcode?`** looks an opcode up in the table of blocks, `opcodeBlocks`.
* **`Rule.instruction?`** makes an instruction of an opcode and the bytes that follow it. -/

namespace LinearSweep

open Text

/-! ### Operand forms -/

/-- **What the bytes of an operand hold.** `OperandForm.length` counts these bytes. -/
inductive OperandForm where
  /-- There is no operand. -/
  | bare
  /-- A 16-bit register, named by the low three bits of the opcode. -/
  | register
  /-- An 8-bit register, named by the opcode, and one byte that is moved to it. -/
  | moveByte
  /-- A 16-bit register, named by the opcode, and a two-byte word that is moved to it. -/
  | moveWord
  /-- One byte of data. -/
  | immediate
  /-- A signed one-byte displacement of a branch. -/
  | shortBranch
  /-- A signed two-byte displacement of a branch. -/
  | nearBranch
deriving DecidableEq, Repr

/-- **The number of bytes that follow the opcode.** -/
def OperandForm.length : OperandForm → Nat
  | .bare | .register => 0
  | .moveByte | .immediate | .shortBranch => 1
  | .moveWord | .nearBranch => 2

/-! ### Operands -/

/-- The 16-bit registers in the order of their numbers. -/
def wordRegisters : Vector String 8 := #v["ax", "cx", "dx", "bx", "sp", "bp", "si", "di"]

/-- The 8-bit registers in the order of their numbers: lettered from `a` on, so that number 4 is
`el`. -/
def byteRegisters : Vector String 8 := #v["al", "bl", "cl", "dl", "el", "fl", "gl", "hl"]

/-- **An operand that was read**, with its numbers; `Operand.text` shows it. -/
inductive Operand where
  /-- No operand. -/
  | absent
  /-- A 16-bit register by its number. -/
  | register (number : Fin 8)
  /-- A byte for an 8-bit register. -/
  | moveByte (number : Fin 8) (value : UInt8)
  /-- A word for a 16-bit register. -/
  | moveWord (number : Fin 8) (value : UInt16)
  /-- A byte of data. -/
  | immediate (value : UInt8)
  /-- The address that a branch goes to. -/
  | destination (target : Address)
deriving DecidableEq, Repr

/-- **The text of an operand.** Data have all the digits of their width, as in `0x05` and `0x0005`;
a destination has no leading zeros. -/
def Operand.text : Operand → String
  | .absent => ""
  | .register number => wordRegisters[number]
  | .moveByte number value =>
    byteRegisters[number] ++ ", " ++ Hex.markedPadded 2 value.toNat
  | .moveWord number value =>
    wordRegisters[number] ++ ", " ++ Hex.markedPadded 4 value.toNat
  | .immediate value => Hex.markedPadded 2 value.toNat
  | .destination target => Hex.marked target.toNat

/-- The destination of a branch; other operands have `none`. -/
def Operand.target? : Operand → Option Address
  | .destination target => some target
  | _ => none

/-- The register number in the low three bits of an opcode, `opcode % 8`. -/
def registerNumber (opcode : UInt8) : Fin 8 :=
  ⟨opcode.toNat % 8, Nat.mod_lt _ (by decide)⟩

/-- The word whose low byte comes first: `low + 256 * high`. -/
def wordOf (low high : UInt8) : UInt16 := UInt16.ofNat (low.toNat + 256 * high.toNat)

/-- A word has the value of its two bytes; the sum fits, so `UInt16.ofNat` drops nothing. -/
theorem toNat_wordOf (low high : UInt8) :
    (wordOf low high).toNat = low.toNat + 256 * high.toNat := by
  have := low.toNat_lt
  have := high.toNat_lt
  rw [wordOf, UInt16.toNat_ofNat']
  omega

/-- **The two's complement value of a byte**, from `-128` to `127`. -/
def signedByte (byte : UInt8) : Int := Int.bmod byte.toNat 256

/-- **The two's complement value of a word**, from `-32768` to `32767`. -/
def signedWord (word : UInt16) : Int := Int.bmod word.toNat 65536

/-- **Read an operand** from exactly the bytes that its form takes. The opcode stands at `address`;
a displacement counts from the end of the instruction, which is `address + 2` or `address + 3`. -/
def OperandForm.read? (form : OperandForm) (address : Address) (opcode : UInt8) :
    List UInt8 → Option Operand :=
  fun following => match form, following with
  | .bare, [] => some .absent
  | .register, [] => some (.register (registerNumber opcode))
  | .moveByte, [value] => some (.moveByte (registerNumber opcode) value)
  | .moveWord, [low, high] => some (.moveWord (registerNumber opcode) (wordOf low high))
  | .immediate, [value] => some (.immediate value)
  | .shortBranch, [byte] =>
    some (.destination (Address.branchTarget address 2 (signedByte byte)))
  | .nearBranch, [low, high] =>
    some (.destination (Address.branchTarget address 3 (signedWord (wordOf low high))))
  | _, _ => none

/-- **An operand is read exactly when as many bytes are there as its form takes**: `following.length
= form.length`. -/
theorem OperandForm.isSome_read?_iff (form : OperandForm) (address : Address) (opcode : UInt8)
    (following : List UInt8) :
    (form.read? address opcode following).isSome ↔ following.length = form.length := by
  match form, following with
  | .bare, [] | .bare, _ :: _ | .register, [] | .register, _ :: _ =>
    simp [read?, OperandForm.length]
  | .moveByte, [] | .moveByte, [_] | .moveByte, _ :: _ :: _ =>
    simp [read?, OperandForm.length]
  | .immediate, [] | .immediate, [_] | .immediate, _ :: _ :: _ =>
    simp [read?, OperandForm.length]
  | .shortBranch, [] | .shortBranch, [_] | .shortBranch, _ :: _ :: _ =>
    simp [read?, OperandForm.length]
  | .moveWord, [] | .moveWord, [_] | .moveWord, [_, _] | .moveWord, _ :: _ :: _ :: _ =>
    simp [read?, OperandForm.length]
  | .nearBranch, [] | .nearBranch, [_] | .nearBranch, [_, _] | .nearBranch, _ :: _ :: _ :: _ =>
    simp [read?, OperandForm.length]

/-! ### Rules -/

/-- **What an opcode stands for.** -/
structure Rule where
  /-- The name of the operation. -/
  mnemonic : String
  /-- What follows the opcode. -/
  form : OperandForm
deriving DecidableEq, Repr

namespace Rule

/-- **The length of the whole instruction**, `1 + rule.form.length` with the opcode. -/
def encodedLength (rule : Rule) : Nat := 1 + rule.form.length

/-- No instruction is longer than `Instruction.maxSize`, the room for its bytes. -/
theorem encodedLength_le (rule : Rule) : rule.encodedLength ≤ Instruction.maxSize := by
  unfold encodedLength Instruction.maxSize
  cases rule.form <;> decide

/-- The mnemonic and the number of bytes behind the opcode, such as `mov (+2 bytes)`. -/
def display (rule : Rule) : String :=
  rule.mnemonic ++ " (+" ++ toString rule.form.length ++ " bytes)"

/-- Bytes in the room for the longest instruction, filled with zeros: place `i` holds `bytes.getD i
0`. -/
def stored (bytes : List UInt8) : Vector UInt8 Instruction.maxSize :=
  Vector.ofFn fun i => bytes.getD i 0

/-- **The instruction of an opcode at `address`** with an operand that was read from the bytes
`taken`. -/
def instruction (rule : Rule) (address : Address) (opcode : UInt8) (taken : List UInt8)
    (operand : Operand) : Instruction where
  address := address
  size := rule.encodedLength
  mnemonic := rule.mnemonic
  operands := operand.text
  target := operand.target?
  stored := stored (opcode :: taken)
  size_le := rule.encodedLength_le

/-- **The instruction that begins with `opcode` at `address`**, given the bytes that follow it,
which may be more than it takes; `none` if they are fewer. -/
def instruction? (rule : Rule) (address : Address) (opcode : UInt8) (following : List UInt8) :
    Option Instruction :=
  let taken := following.take rule.form.length
  (rule.form.read? address opcode taken).map (rule.instruction address opcode taken)

end Rule

/-! ### The table -/

/-- **Consecutive opcodes with one rule.** -/
structure OpcodeBlock where
  /-- The first opcode. -/
  first : UInt8
  /-- The number of opcodes. -/
  count : Nat
  /-- Their rule. -/
  rule : Rule

/-- Whether an opcode lies in a block, from `first` up to but not including `first + count`. -/
def OpcodeBlock.covers (block : OpcodeBlock) (opcode : UInt8) : Bool :=
  block.first.toNat ≤ opcode.toNat && opcode.toNat < block.first.toNat + block.count

/-- **The supported opcodes**, in ascending blocks; a block of eight takes its register from
the opcode. -/
def opcodeBlocks : List OpcodeBlock :=
  [⟨0x50, 8, "push", .register⟩,
   ⟨0x58, 8, "pop", .register⟩,
   ⟨0x74, 1, "jz", .shortBranch⟩,
   ⟨0x75, 1, "jnz", .shortBranch⟩,
   ⟨0x7C, 1, "jl", .shortBranch⟩,
   ⟨0x7D, 1, "jge", .shortBranch⟩,
   ⟨0x7E, 1, "jle", .shortBranch⟩,
   ⟨0x7F, 1, "jg", .shortBranch⟩,
   ⟨0x90, 1, "nop", .bare⟩,
   ⟨0xB0, 8, "mov", .moveByte⟩,
   ⟨0xB8, 8, "mov", .moveWord⟩,
   ⟨0xC3, 1, "ret", .bare⟩,
   ⟨0xCC, 1, "int3", .bare⟩,
   ⟨0xCD, 1, "int", .immediate⟩,
   ⟨0xE8, 1, "call", .nearBranch⟩,
   ⟨0xE9, 1, "jmp", .nearBranch⟩,
   ⟨0xF4, 1, "hlt", .bare⟩,
   ⟨0xFA, 1, "cli", .bare⟩,
   ⟨0xFB, 1, "sti", .bare⟩]

/-- **The rule of an opcode**, that of the block which covers it; most opcodes have `none`. -/
def Rule.ofOpcode? (opcode : UInt8) : Option Rule :=
  (opcodeBlocks.find? (·.covers opcode)).map (·.rule)

end LinearSweep
