import LinearSweep.Sweep
import Mathlib

/-! # What reading one entry yields

An entry is read from its opcode and the bytes that stand behind it. It holds just those bytes and
their address, and the byte is skipped for one of two reasons.

* **`Entry.read_cases`** lists the two outcomes of a read, and **`decode_cases`** those of decoding
  in an image, where only the end cuts an instruction off.
* **`Entry.bytes_read`**, **`decode_slice`**: the bytes of an entry are those that it was read from.
* **`isSkipped_decode_iff`**: a byte is skipped if its opcode has no rule, or if the instruction
  would run past the end of the image. -/

namespace LinearSweep

variable {address : Address} {opcode : UInt8} {following : List UInt8}

/-! ### Rules -/

namespace Rule

/-- What is stored at a place is the byte that was given there, or `0`. -/
theorem getElem_stored (bytes : List UInt8) {i : Nat} (h : i < Instruction.maxSize) :
    (stored bytes)[i] = bytes.getD i 0 :=
  Vector.getElem_ofFn h

/-- Stored bytes begin with the given ones, if there are at most `Instruction.maxSize` of them. -/
theorem take_stored {bytes : List UInt8} (room : bytes.length ≤ Instruction.maxSize) :
    (stored bytes).toList.take bytes.length = bytes := by
  apply List.ext_getElem
  -- first as many bytes, then the same byte at each place
  · rw [List.length_take, Vector.length_toList, Nat.min_eq_left room]
  · intro i _ h
    rw [List.getElem_take, Vector.getElem_toList, getElem_stored,
      List.getD_eq_getElem?_getD, List.getElem?_eq_getElem h, Option.getD_some]

/-- The room behind the given bytes holds zeros. -/
theorem getElem_stored_of_length_le {bytes : List UInt8} {i : Nat} (h : i < Instruction.maxSize)
    (behind : bytes.length ≤ i) : (stored bytes)[i] = 0 := by
  rw [getElem_stored, List.getD_eq_getElem?_getD, List.getElem?_eq_none behind,
    Option.getD_none]

/-- An opcode and the bytes that its rule takes make up the whole instruction, `rule.encodedLength`
of them. -/
theorem length_cons_eq (rule : Rule) (opcode : UInt8) {taken : List UInt8}
    (length_eq : taken.length = rule.form.length) :
    (opcode :: taken).length = rule.encodedLength := by
  rw [List.length_cons, length_eq, encodedLength, Nat.add_comm]

/-- The bytes of an instruction are its opcode and those that its operand was read from; the zeros
behind them do not count. -/
theorem bytes_instruction (rule : Rule) (address : Address) (opcode : UInt8)
    {taken : List UInt8} (operand : Operand) (length_eq : taken.length = rule.form.length) :
    (rule.instruction address opcode taken operand).bytes = opcode :: taken := by
  have length := rule.length_cons_eq opcode length_eq
  have room : (opcode :: taken).length ≤ Instruction.maxSize := length ▸ rule.encodedLength_le
  have held := take_stored room
  rwa [length] at held

/-- **A rule makes an instruction exactly if enough bytes follow**, `rule.form.length` or more. -/
theorem isSome_instruction?_iff (rule : Rule) (address : Address) (opcode : UInt8)
    (following : List UInt8) :
    (rule.instruction? address opcode following).isSome ↔ rule.form.length ≤ following.length := by
  rw [instruction?, Option.isSome_map, OperandForm.isSome_read?_iff, List.length_take]
  omega

end Rule

/-! ### Entries -/

namespace Entry

/-- **The two outcomes of a read**: the instruction of a rule that has all its bytes, or a skipped
byte where no rule does. Both say all there is to know of the entry. -/
theorem read_cases (address : Address) (opcode : UInt8) (following : List UInt8) :
    (∃ rule operand, Rule.ofOpcode? opcode = some rule ∧ rule.form.length ≤ following.length ∧
      rule.form.read? address opcode (following.take rule.form.length) = some operand ∧
      read address opcode following = .recognized
        (rule.instruction address opcode (following.take rule.form.length) operand)) ∨
    ((∀ rule, Rule.ofOpcode? opcode = some rule → following.length < rule.form.length) ∧
      read address opcode following = .skipped address opcode) := by
  unfold read
  -- a read gives an instruction where there is a rule and the rule makes one
  cases hrule : Rule.ofOpcode? opcode with
  | none => exact Or.inr ⟨fun rule h => absurd h (Option.some_ne_none rule).symm, rfl⟩
  | some rule =>
    have enough := rule.isSome_instruction?_iff address opcode following
    rw [Option.bind_some]
    cases hmade : rule.instruction? address opcode following with
    | none =>
      refine Or.inr ⟨fun other h => ?_, rfl⟩
      cases h
      rw [hmade] at enough
      simpa using enough
    | some instruction =>
      obtain ⟨operand, hread, rfl⟩ := Option.map_eq_some_iff.1 hmade
      rw [hmade] at enough
      exact Or.inl ⟨rule, operand, rfl, enough.1 rfl, hread, rfl⟩

/-- An entry stands at the address where it was read. -/
@[simp] theorem address_read (address : Address) (opcode : UInt8) (following : List UInt8) :
    (read address opcode following).address = address := by
  obtain ⟨rule, operand, _, _, _, eq⟩ | ⟨_, eq⟩ := read_cases address opcode following <;>
    rw [eq] <;> rfl

/-- **An entry holds the bytes that it was read from**: the first of `opcode :: following`, as many
as it covers. -/
theorem bytes_read (address : Address) (opcode : UInt8) (following : List UInt8) :
    (read address opcode following).bytes =
      (opcode :: following).take (read address opcode following).size := by
  obtain ⟨rule, operand, _, enough, _, eq⟩ | ⟨_, eq⟩ := read_cases address opcode following
  · have length : (following.take rule.form.length).length = rule.form.length :=
      List.length_take_of_le enough
    -- the bytes that the rule takes are the first of those that follow, behind the opcode
    calc (read address opcode following).bytes
        = opcode :: following.take rule.form.length := by
          rw [eq]
          exact rule.bytes_instruction address opcode operand length
      _ = (opcode :: following).take rule.encodedLength := by
          rw [Rule.encodedLength, Nat.add_comm, List.take_succ_cons]
      _ = (opcode :: following).take (read address opcode following).size := by rw [eq]; rfl
  · rw [eq]
    rfl

/-- An entry covers no more than was there to read. -/
theorem size_read_le (address : Address) (opcode : UInt8) (following : List UInt8) :
    (read address opcode following).size ≤ (opcode :: following).length := by
  have length := congrArg List.length (bytes_read address opcode following)
  rw [length_bytes, List.length_take] at length
  omega

/-- Behind its own bytes, an instruction that was read stores zeros: `i.stored[k] = 0` from `i.size`
on. -/
theorem getElem_stored_eq_zero {i : Instruction}
    (h : read address opcode following = .recognized i) {k : Nat} (hk : k < Instruction.maxSize)
    (behind : i.size ≤ k) : i.stored[k] = 0 := by
  obtain ⟨rule, operand, _, enough, _, eq⟩ | ⟨_, eq⟩ := read_cases address opcode following
  · rw [eq] at h
    cases h
    have length := rule.length_cons_eq opcode (List.length_take_of_le enough)
    exact Rule.getElem_stored_of_length_le hk (length ▸ behind)
  · rw [eq] at h
    cases h

end Entry

/-! ### Images -/

namespace Image

/-- The bytes from an offset on are the byte there and those behind it. -/
theorem drop_eq_cons (image : Image) (offset : Fin image.size) :
    image.toList.drop offset = image.byte offset :: image.toList.drop (offset + 1) := by
  rw [List.drop_eq_getElem_cons (by simp)]
  rfl

/-- A byte and some of those that follow it are a piece of the image. -/
theorem cons_following (image : Image) (offset : Fin image.size) (count : Nat) :
    image.byte offset :: image.following offset count =
      (image.toList.drop offset).take (count + 1) := by
  rw [following_eq, drop_eq_cons, List.take_succ_cons]

/-- As many bytes follow as are asked for, or as the image has behind the offset. -/
theorem length_following (image : Image) (offset count : Nat) :
    (image.following offset count).length = min count (image.size - (offset + 1)) := by
  rw [following_eq, List.length_take, List.length_drop, Array.length_toList]

/-- Fewer of the bytes behind an offset are the first of them, so it does no harm to look too far
ahead. -/
theorem take_following (image : Image) (offset : Nat) {count n : Nat} (le : n ≤ count) :
    (image.following offset count).take n = image.following offset n := by
  rw [following_eq, following_eq, List.take_take, Nat.min_eq_left le]

end Image

/-- **The two outcomes of decoding**: the instruction of a rule that lies in the image as a whole,
or a skipped byte where no rule does. The bytes are those of the image. -/
theorem decode_cases (image : Image) (offset : Fin image.size) (base : Address) :
    (∃ rule operand, Rule.ofOpcode? (image.byte offset) = some rule ∧
      offset + rule.encodedLength ≤ image.size ∧
      rule.form.read? (Address.ofOffset base offset) (image.byte offset)
        (image.following offset rule.form.length) = some operand ∧
      decode image offset base = .recognized (rule.instruction (Address.ofOffset base offset)
        (image.byte offset) (image.following offset rule.form.length) operand)) ∨
    ((∀ rule, Rule.ofOpcode? (image.byte offset) = some rule →
        image.size < offset + rule.encodedLength) ∧
      decode image offset base =
        .skipped (Address.ofOffset base offset) (image.byte offset)) := by
  -- the decoder looks two bytes ahead, which is as far as any rule reaches
  have reach : ∀ rule : Rule, rule.form.length ≤ Instruction.maxSize - 1 := by
    intro rule
    have le := rule.encodedLength_le
    rw [Rule.encodedLength] at le
    omega
  obtain ⟨rule, operand, hrule, enough, hread, eq⟩ | ⟨short, eq⟩ :=
    Entry.read_cases (Address.ofOffset base offset) (image.byte offset)
      (image.following offset (Instruction.maxSize - 1))
  · rw [Image.take_following image offset (reach rule)] at hread eq
    rw [Image.length_following] at enough
    refine Or.inl ⟨rule, operand, hrule, ?_, hread, eq⟩
    rw [Rule.encodedLength]
    omega
  · refine Or.inr ⟨fun rule hrule => ?_, eq⟩
    have fewer := short rule hrule
    have le := reach rule
    rw [Image.length_following] at fewer
    rw [Rule.encodedLength]
    omega

/-- **An entry holds the bytes of the image at its offset**, as many as it covers. -/
theorem decode_slice (image : Image) (offset : Fin image.size) (base : Address) :
    (decode image offset base).bytes =
      (image.toList.drop offset).take (decode image offset base).size := by
  -- no entry is longer than what the decoder looks at
  have room : (decode image offset base).size ≤ Instruction.maxSize := by
    have le := Entry.size_read_le (Address.ofOffset base offset) (image.byte offset)
      (image.following offset (Instruction.maxSize - 1))
    rw [List.length_cons, Image.length_following] at le
    exact Nat.le_trans le (by simp only [Instruction.maxSize]; omega)
  rw [decode, Entry.bytes_read, Image.cons_following, List.take_take]
  congr 1
  exact Nat.min_eq_left room

/-- An entry ends in the image: it never covers bytes that are not there. -/
theorem decode_end_le (image : Image) (offset : Fin image.size) (base : Address) :
    offset + (decode image offset base).size ≤ image.size := by
  -- a slice of the image has no more bytes than the image has from there on
  have length := congrArg List.length (decode_slice image offset base)
  rw [Entry.length_bytes, List.length_take, List.length_drop, Array.length_toList] at length
  omega

/-- **A byte is skipped** exactly if its opcode has no rule, or if the instruction would run past
the end of the image. -/
theorem isSkipped_decode_iff (image : Image) (offset : Fin image.size) (base : Address) :
    (decode image offset base).isSkipped ↔
      Rule.ofOpcode? (image.byte offset) = none ∨
        ∃ rule, Rule.ofOpcode? (image.byte offset) = some rule ∧
          image.size < offset + rule.encodedLength := by
  obtain ⟨rule, operand, hrule, within, -, eq⟩ | ⟨past, eq⟩ := decode_cases image offset base
  · rw [eq, hrule]
    constructor
    · intro skipped
      cases skipped
    · rintro (none | ⟨other, is, past⟩)
      · cases none
      · cases is
        omega
  · rw [eq]
    refine ⟨fun _ => ?_, fun _ => rfl⟩
    cases hrule : Rule.ofOpcode? (image.byte offset) with
    | none => exact Or.inl rfl
    | some rule => exact Or.inr ⟨rule, rfl, past rule hrule⟩

/-- A sweep takes every decoded entry as it is: `Decoder.next` only changes entries without bytes.
-/
theorem next_decode (image : Image) (base : Address) (offset : Fin image.size) :
    Decoder.next decode image base offset = decode image offset base :=
  Entry.covering_of_size_pos _ (size_decode_pos ..)

end LinearSweep
