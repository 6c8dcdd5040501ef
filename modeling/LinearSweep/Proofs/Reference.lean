import LinearSweep.Proofs.Destination

/-! # The decoder and the reference of its instructions

A reference of the instruction set lists ranges of opcodes, and for each of them the size, the
operands as they are shown, and where a branch leads to. It counts in natural numbers and integers
and knows nothing of the opcode table. The decoder gives what it prescribes.

* **`Reference.row?`** goes through the ranges one after the other, **`Reference.Slot`** is what a
  row lists behind a mnemonic.
* **`Reference.entry`** is the entry that the reference prescribes at an offset of an image.
* **`Reference.row?_toNat`**: the ranges are the blocks of the opcode table.
* **`Reference.operand_eq`**: an operand is shown, and leads, as the slots of its row say.
* **`decode_eq_reference`**: the decoder and the reference agree at every offset. -/

namespace LinearSweep

open Text

namespace Reference

/-! ### Rows -/

/-- **What an instruction names or holds**, as the reference lists it behind the mnemonic. -/
inductive Slot where
  /-- An 8-bit register, by its place in a block of eight opcodes. -/
  | byteRegister (number : Nat)
  /-- A 16-bit register, by its place in a block of eight opcodes. -/
  | wordRegister (number : Nat)
  /-- A byte of data. -/
  | byte
  /-- A word of data. -/
  | word
  /-- A distance of one byte from the end of the instruction. -/
  | shortDistance
  /-- A distance of two bytes from the end of the instruction. -/
  | nearDistance
deriving DecidableEq

/-- The number of bytes that hold a slot; the opcode holds the registers. -/
def Slot.width : Slot → Nat
  | .byteRegister _ | .wordRegister _ => 0
  | .byte | .shortDistance => 1
  | .word | .nearDistance => 2

/-- **A row of the reference**: the mnemonic of an opcode and what belongs to it. -/
structure Row where
  /-- The name of the operation. -/
  mnemonic : String
  /-- The operands in the order in which they are shown. -/
  slots : List Slot
  /-- No instruction is longer than three bytes. -/
  size_le : 1 + (slots.map Slot.width).sum ≤ 3 := by simp [Slot.width]
deriving DecidableEq

/-- The size of an instruction with its opcode, so `1` more than its slots take. -/
def Row.size (row : Row) : Nat := 1 + (row.slots.map Slot.width).sum

/-- **The reference**: the opcodes one range after the other. An opcode in a block of eight gives a
register by its distance from the start of the block. -/
def row? (opcode : Nat) : Option Row :=
  -- opcodes without operands
  if opcode = 0x90 then some { mnemonic := "nop", slots := [] }
  else if opcode = 0xC3 then some { mnemonic := "ret", slots := [] }
  else if opcode = 0xCC then some { mnemonic := "int3", slots := [] }
  else if opcode = 0xF4 then some { mnemonic := "hlt", slots := [] }
  else if opcode = 0xFA then some { mnemonic := "cli", slots := [] }
  else if opcode = 0xFB then some { mnemonic := "sti", slots := [] }
  -- blocks of eight opcodes, whose place in the block is a register
  else if 0x50 ≤ opcode ∧ opcode ≤ 0x57 then
    some { mnemonic := "push", slots := [.wordRegister (opcode - 0x50)] }
  else if 0x58 ≤ opcode ∧ opcode ≤ 0x5F then
    some { mnemonic := "pop", slots := [.wordRegister (opcode - 0x58)] }
  else if 0xB0 ≤ opcode ∧ opcode ≤ 0xB7 then
    some { mnemonic := "mov", slots := [.byteRegister (opcode - 0xB0), .byte] }
  else if 0xB8 ≤ opcode ∧ opcode ≤ 0xBF then
    some { mnemonic := "mov", slots := [.wordRegister (opcode - 0xB8), .word] }
  -- branches, near and short
  else if opcode = 0xE8 then some { mnemonic := "call", slots := [.nearDistance] }
  else if opcode = 0xE9 then some { mnemonic := "jmp", slots := [.nearDistance] }
  else if opcode = 0x74 then some { mnemonic := "jz", slots := [.shortDistance] }
  else if opcode = 0x75 then some { mnemonic := "jnz", slots := [.shortDistance] }
  else if opcode = 0x7C then some { mnemonic := "jl", slots := [.shortDistance] }
  else if opcode = 0x7D then some { mnemonic := "jge", slots := [.shortDistance] }
  else if opcode = 0x7E then some { mnemonic := "jle", slots := [.shortDistance] }
  else if opcode = 0x7F then some { mnemonic := "jg", slots := [.shortDistance] }
  else if opcode = 0xCD then some { mnemonic := "int", slots := [.byte] }
  else none

/-! ### What a row prescribes -/

/-- The number with `0x` in front and at least `width` digits, letters in upper case. -/
def numeral (width n : Nat) : String :=
  "0x" ++ String.ofList (((Nat.toDigits 16 n).map Char.toUpper).leftpad width '0')

/-- **Two's complement**: of `count` numbers the upper half stands for the negative ones, which are
`count` less. -/
def signed (count n : Nat) : Int := if 2 * n < count then n else n - count

/-- The address that lies some distance from the end of an instruction, in the space of `2 ^ 32`
addresses. -/
def landing (behind distance : Int) : Nat := ((behind + distance) % 2 ^ 32).toNat

namespace Slot

variable (behind : Int) (byte : Nat → Nat)

/-- **Where a distance leads to.** The instruction has the bytes `byte 0`, `byte 1` and so on, and
`behind` is the address of what follows it. -/
def target? : Slot → Option Nat
  | .shortDistance => some (landing behind (signed 0x100 (byte 1)))
  | .nearDistance => some (landing behind (signed 0x10000 (byte 1 + 0x100 * byte 2)))
  | _ => none

/-- **How a slot is shown.** -/
def text : Slot → String
  | .byteRegister number => String.ofList [Char.ofNat ('a'.toNat + number), 'l']
  | .wordRegister number => ["ax", "cx", "dx", "bx", "sp", "bp", "si", "di"].getD number ""
  | .byte => numeral 2 (byte 1)
  | .word => numeral 4 (byte 1 + 0x100 * byte 2)
  | .shortDistance => numeral 1 (landing behind (signed 0x100 (byte 1)))
  | .nearDistance => numeral 1 (landing behind (signed 0x10000 (byte 1 + 0x100 * byte 2)))

end Slot

/-- The address of an offset, in the space of `2 ^ 32` addresses: the sum over the natural numbers,
reduced once. -/
def addressAt (base : Address) (offset : Nat) : Address :=
  UInt64.ofNat ((base.toNat + offset) % 2 ^ 32)

/-- **The instruction of a row** at an offset of an image. -/
def Row.instruction (row : Row) (image : Image) (base : Address) (offset : Nat) : Instruction :=
  let behind : Int := base.toNat + offset + row.size
  let byte (k : Nat) : Nat := (image.getD (offset + k) 0).toNat
  { address := addressAt base offset
    size := row.size
    mnemonic := row.mnemonic
    operands := ", ".intercalate (row.slots.map (Slot.text behind byte))
    target := (row.slots.findSome? (Slot.target? behind byte)).map UInt64.ofNat
    stored := Vector.ofFn fun k => if k < row.size then image.getD (offset + k) 0 else 0
    size_le := row.size_le }

/-- **The entry that the reference prescribes** at an offset: the instruction of its row, if the
image holds all of it, and else a skipped byte. -/
def entry (image : Image) (offset : Fin image.size) (base : Address) : Entry :=
  match row? (image.byte offset).toNat with
  | none => .skipped (addressAt base offset) (image.byte offset)
  | some row =>
    if offset + row.size ≤ image.size then .recognized (row.instruction image base offset)
    else .skipped (addressAt base offset) (image.byte offset)

/-! ### Numbers and addresses -/

/-- A numeral is the marked one of at least as many digits, `Hex.markedPadded width n`. -/
theorem numeral_eq (width n : Nat) : numeral width n = Hex.markedPadded width n := by
  rw [numeral, Hex.map_toUpper_toDigits, Hex.markedPadded, Hex.padded]

/-- A numeral of at least one digit has no leading zeros, as `Hex.marked n` has none. -/
theorem numeral_one (n : Nat) : numeral 1 n = Hex.marked n := by
  have written : 1 - (Hex.digits .upper n).length = 0 := by
    have := List.length_pos_of_ne_nil (Hex.digits_ne_nil .upper n)
    omega
  rw [numeral, Hex.map_toUpper_toDigits, List.leftpad, written, List.replicate_zero,
    List.nil_append, Hex.marked, Hex.upper]

/-- Two's complement of a byte, `signedByte byte`. -/
theorem signed_byte (byte : UInt8) : signed 0x100 byte.toNat = signedByte byte := by
  have := byte.toNat_lt
  unfold signed signedByte
  rw [Int.bmod_def]
  split <;> split <;> omega

/-- Two's complement of a word, `signedWord word`. -/
theorem signed_word (word : UInt16) : signed 0x10000 word.toNat = signedWord word := by
  have := word.toNat_lt
  unfold signed signedWord
  rw [Int.bmod_def]
  split <;> split <;> omega

/-- Both ways to write the address of an offset agree: it makes no difference that the sum is first
taken modulo `2 ^ 64`. -/
theorem addressAt_eq (base : Address) (offset : Nat) :
    addressAt base offset = Address.ofOffset base offset := by
  rw [← UInt64.toNat_inj, Address.toNat_ofOffset, addressAt, Address.count, UInt64.toNat_ofNat']
  omega

/-- **A branch goes where its distance leads to**, the `landing` behind its end. -/
theorem toNat_branchTarget (base : Address) (offset length : Nat) (distance : Int) :
    (Address.branchTarget (Address.ofOffset base offset) length distance).toNat =
      landing (base.toNat + offset + length) distance := by
  have leads := Address.toNat_branchTarget_ofOffset base offset length distance
  rw [landing]
  omega

/-! ### The table -/

/-- What the reference lists for an operand form, with the number of its register. -/
def slots (number : Nat) : OperandForm → List Slot
  | .bare => []
  | .register => [.wordRegister number]
  | .moveByte => [.byteRegister number, .byte]
  | .moveWord => [.wordRegister number, .word]
  | .immediate => [.byte]
  | .shortBranch => [.shortDistance]
  | .nearBranch => [.nearDistance]

/-- The slots of an operand form have its length, `form.length`. -/
theorem sum_width_slots (number : Nat) (form : OperandForm) :
    ((slots number form).map Slot.width).sum = form.length := by
  cases form <;> rfl

/-- The row that a rule stands for, with the number of its register. -/
def row (number : Nat) (rule : Rule) : Row where
  mnemonic := rule.mnemonic
  slots := slots number rule.form
  size_le := by
    rw [sum_width_slots]
    exact rule.encodedLength_le

/-- A row has the size of its rule, `rule.encodedLength`. -/
theorem size_row (number : Nat) (rule : Rule) : (row number rule).size = rule.encodedLength := by
  rw [Row.size, row, sum_width_slots, Rule.encodedLength]

/-- **The ranges of the reference are the blocks of the table**, at each of the `256` opcodes. -/
theorem row?_toNat (opcode : UInt8) :
    row? opcode.toNat = (Rule.ofOpcode? opcode).map (row (registerNumber opcode)) := by
  -- the check goes over numbers, since these are what a row is listed by
  have all : ∀ n < 256, row? n = (Rule.ofOpcode? (UInt8.ofNat n)).map
      (row (registerNumber (UInt8.ofNat n))) := by
    decide +kernel
  have here := all opcode.toNat opcode.toNat_lt
  rwa [UInt8.ofNat_toNat] at here

/-! ### Operands -/

variable {base : Address} {offset : Nat} {opcode : UInt8} {form : OperandForm}
  {taken : List UInt8} {operand : Operand}

/-- The names of the 8-bit registers are the letters from `a` on with an `l` behind, up to `hl`. -/
theorem byteRegisters_eq : ∀ number : Fin 8,
    byteRegisters.get number = String.ofList [Char.ofNat ('a'.toNat + number), 'l'] := by
  decide +kernel

/-- The names of the 16-bit registers are those of the reference. -/
theorem wordRegisters_eq : ∀ number : Fin 8, wordRegisters.get number =
    ["ax", "cx", "dx", "bx", "sp", "bp", "si", "di"].getD number "" := by
  decide +kernel

/-- Two operands are shown with `", "` between them. -/
theorem intercalate_pair (first second : String) :
    ", ".intercalate [first, second] = first ++ ", " ++ second := by
  rw [String.intercalate_cons_cons, String.intercalate_singleton]

/-- **An operand is shown, and leads, as its slots say**, where `byte` gives the bytes of the
instruction by their places. -/
theorem operand_eq (byte : Nat → Nat)
    (read : form.read? (Address.ofOffset base offset) opcode taken = some operand)
    (bytes : ∀ (k : Nat) (hk : k < taken.length), byte (k + 1) = taken[k].toNat) :
    let behind : Int := base.toNat + offset + ((1 + form.length : Nat) : Int)
    let listed := slots (registerNumber opcode) form
    operand.text = ", ".intercalate (listed.map (Slot.text behind byte)) ∧
      operand.target?.map UInt64.toNat = listed.findSome? (Slot.target? behind byte) := by
  match form, taken, read with
  | .bare, [], rfl => exact ⟨rfl, rfl⟩
  | .register, [], rfl =>
    refine ⟨?_, rfl⟩
    exact (wordRegisters_eq _).trans String.intercalate_singleton.symm
  | .moveByte, [value], rfl =>
    have value_eq : byte 1 = value.toNat := bytes 0 Nat.one_pos
    refine ⟨?_, rfl⟩
    rw [slots, List.map_cons, List.map_singleton, intercalate_pair, Slot.text, Slot.text,
      ← byteRegisters_eq, numeral_eq, value_eq, Operand.text]
    rfl
  | .moveWord, [low, high], rfl =>
    have low_eq : byte 1 = low.toNat := bytes 0 Nat.two_pos
    have high_eq : byte 2 = high.toNat := bytes 1 Nat.one_lt_two
    refine ⟨?_, rfl⟩
    rw [slots, List.map_cons, List.map_singleton, intercalate_pair, Slot.text, Slot.text,
      ← wordRegisters_eq, numeral_eq, low_eq, high_eq, ← toNat_wordOf, Operand.text]
    rfl
  | .immediate, [value], rfl =>
    have value_eq : byte 1 = value.toNat := bytes 0 Nat.one_pos
    refine ⟨?_, rfl⟩
    rw [slots, List.map_singleton, String.intercalate_singleton, Slot.text, numeral_eq, value_eq,
      Operand.text]
  -- a branch is shown as the place where it leads, so the text and the target rest on one equation
  | .shortBranch, [distance], rfl =>
    have distance_eq : byte 1 = distance.toNat := bytes 0 Nat.one_pos
    have leads := toNat_branchTarget base offset 2 (signedByte distance)
    rw [← signed_byte, ← distance_eq] at leads
    constructor
    · rw [slots, List.map_singleton, String.intercalate_singleton, Slot.text, numeral_one,
        Operand.text, ← signed_byte, ← distance_eq, leads]
      rfl
    · rw [Operand.target?, ← signed_byte, ← distance_eq, Option.map_some, leads]
      rfl
  | .nearBranch, [low, high], rfl =>
    have low_eq : byte 1 = low.toNat := bytes 0 Nat.two_pos
    have high_eq : byte 2 = high.toNat := bytes 1 Nat.one_lt_two
    have word_eq : (wordOf low high).toNat = byte 1 + 0x100 * byte 2 := by
      rw [toNat_wordOf, low_eq, high_eq]
    have leads := toNat_branchTarget base offset 3 (signedWord (wordOf low high))
    rw [← signed_word, word_eq] at leads
    constructor
    · rw [slots, List.map_singleton, String.intercalate_singleton, Slot.text, numeral_one,
        Operand.text, ← signed_word, word_eq, leads]
      rfl
    · rw [Operand.target?, ← signed_word, word_eq, Option.map_some, leads]
      rfl

/-- A byte and those that follow it, by their place: behind place `count` there are zeros. -/
theorem getD_cons_following (image : Image) (offset : Fin image.size) (count k : Nat) :
    (image.byte offset :: image.following offset count).getD k 0 =
      if k < count + 1 then image.getD (offset + k) 0 else 0 := by
  rw [Image.cons_following, List.getD_eq_getElem?_getD, List.getElem?_take, List.getElem?_drop,
    Array.getElem?_toList]
  by_cases within : k < count + 1
  · rw [if_pos within, if_pos within, Array.getD_eq_getD_getElem?]
  · rw [if_neg within, if_neg within, Option.getD_none]

/-- **A rule makes the instruction of its row**, from the bytes that stand in the image, field by
field of `Instruction`. -/
theorem instruction_row {image : Image} {offset : Fin image.size} {rule : Rule}
    (read : rule.form.read? (Address.ofOffset base offset) (image.byte offset)
      (image.following offset rule.form.length) = some operand) :
    (row (registerNumber (image.byte offset)) rule).instruction image base offset =
      rule.instruction (Address.ofOffset base offset) (image.byte offset)
        (image.following offset rule.form.length) operand := by
  have size_eq := size_row (registerNumber (image.byte offset)) rule
  have bytes : ∀ (k : Nat) (hk : k < (image.following offset rule.form.length).length),
      (image.getD (offset + (k + 1)) 0).toNat =
        (image.following offset rule.form.length)[k].toNat := by
    intro k hk
    have within : k + 1 < rule.form.length + 1 := by
      rw [Image.length_following] at hk
      omega
    have here := getD_cons_following image offset rule.form.length (k + 1)
    rw [if_pos within, List.getD_cons_succ, List.getD_eq_getElem _ _ hk] at here
    rw [here]
  obtain ⟨text_eq, target_eq⟩ := operand_eq
    (fun k => (image.getD (offset + k) 0).toNat) read bytes
  rw [← Rule.encodedLength, ← size_eq] at text_eq target_eq
  -- the reference and the rule fill in the same six fields
  apply Instruction.ext
  · exact addressAt_eq base offset
  · exact size_eq
  · rfl
  · exact text_eq.symm
  · show Option.map UInt64.ofNat ((slots _ rule.form).findSome? _) = operand.target?
    -- the reference has the target as a number, and the decoder as a word
    have restored : UInt64.ofNat ∘ UInt64.toNat = id := funext fun _ => UInt64.ofNat_toNat
    rw [← target_eq, Option.map_map, restored, Option.map_id, id]
  · refine Vector.ext fun k hk => ?_
    show (Vector.ofFn _)[k] = (Rule.stored _)[k]
    rw [Vector.getElem_ofFn, Rule.getElem_stored, getD_cons_following, size_eq,
      Rule.encodedLength, Nat.add_comm]

end Reference

/-- **The decoder is what the reference prescribes**, at every offset of every image. An
instruction that the image holds has all the bytes that its operand is read from. -/
theorem decode_eq_reference (image : Image) (offset : Fin image.size) (base : Address) :
    decode image offset base = Reference.entry image offset base ∧
    ∀ rule, Rule.ofOpcode? (image.byte offset) = some rule →
      offset + rule.encodedLength ≤ image.size →
      (rule.form.read? (Address.ofOffset base offset) (image.byte offset)
        (image.following offset rule.form.length)).isSome := by
  have listed := Reference.row?_toNat (image.byte offset)
  constructor
  · rw [Reference.entry, listed, Reference.addressAt_eq]
    obtain ⟨rule, operand, hrule, within, read, eq⟩ | ⟨short, eq⟩ := decode_cases image offset base
    · have size_eq := Reference.size_row (registerNumber (image.byte offset)) rule
      rw [eq, hrule, Option.map_some]
      -- the rule has a row, and both fit the image or neither does
      dsimp only
      rw [if_pos (by rwa [size_eq]), Reference.instruction_row read]
    · rw [eq]
      cases hrule : Rule.ofOpcode? (image.byte offset) with
      | none => rfl
      | some rule =>
        have size_eq := Reference.size_row (registerNumber (image.byte offset)) rule
        have past := short rule hrule
        rw [Option.map_some]
        dsimp only
        rw [if_neg (by rw [size_eq]; omega)]
  · intro rule _ within
    rw [OperandForm.isSome_read?_iff, Image.length_following]
    rw [Rule.encodedLength] at within
    omega

/-- The jump `74 FD` back over the top of the address space, where the image ends with it. -/
theorem decode_eq_reference_backward :
    Rule.ofOpcode? 0x74 = some ⟨"jz", .shortBranch⟩ ∧
    1 + (⟨"jz", .shortBranch⟩ : Rule).encodedLength ≤ (#[0x90, 0x74, 0xFD] : Image).size ∧
    Reference.entry #[0x90, 0x74, 0xFD] ⟨1, by decide⟩ 0xFFFFFFFE = .recognized .backward ∧
    (OperandForm.shortBranch.read? 0xFFFFFFFF 0x74 [0xFD]).isSome := by
  obtain ⟨agrees, held⟩ := decode_eq_reference #[0x90, 0x74, 0xFD] ⟨1, by decide⟩ 0xFFFFFFFE
  have decoded : decode #[0x90, 0x74, 0xFD] ⟨1, by decide⟩ 0xFFFFFFFE =
      .recognized .backward := by decide +kernel
  have rule_eq : Rule.ofOpcode? 0x74 = some ⟨"jz", .shortBranch⟩ := by decide
  exact ⟨rule_eq, by decide, agrees ▸ decoded, held _ rule_eq (by decide)⟩

end LinearSweep
