import LinearSweep.Proofs.Rendering

/-! # The text of an instruction determines its code

An instruction is displayed as its mnemonic and its operands. This text and the address are enough
to put the bytes together again, although a branch shows only where it leads to.

* **`Rendering.display`** are the frames of the displayed texts.
* **`assemble?`** gives the bytes of an instruction from its address and its text.
* **`assemble?_display`**: it finds the bytes of every decoded instruction.
* **`decode_determined_by_display`**: so at one address different instructions have different
  texts. -/

namespace LinearSweep

variable {address : Address} {opcode : UInt8} {rule : Rule} {taken : List UInt8}
  {operand : Operand}

/-- **The frame of a displayed text**: the mnemonic, and what is shown in front of the digits. A
bare instruction has not even a space behind it. -/
def Rendering.display : Rendering := fun opcode rule =>
  some {
    head := if rule.form = .bare then rule.mnemonic
      else rule.mnemonic ++ " " ++ rule.form.lead (registerNumber opcode)
    tail := "" }

/-- No displayed text begins as the one of another opcode: a finite check over the `256` opcodes. -/
theorem Rendering.faithful_display : display.Faithful where
  separate := by decide +kernel
  closed := by decide +kernel

/-- **A displayed text is the digits of the operand in the frame of the opcode**: `frame.text
operand.digits`. -/
theorem Rendering.exists_display_eq (read : rule.form.read? address opcode taken = some operand) :
    ∃ frame, display opcode rule = some frame ∧
      (rule.instruction address opcode taken operand).display = frame.text operand.digits := by
  refine ⟨_, rfl, ?_⟩
  show (if operand.text = "" then rule.mnemonic else rule.mnemonic ++ " " ++ operand.text) = _
  rw [Frame.text]
  by_cases bare : rule.form = .bare
  · -- there is no operand, and nothing but the mnemonic is shown
    rw [eq_absent_of_bare read bare, if_pos bare]
    exact String.append_empty.symm.trans String.append_empty.symm
  · have text_eq := rule.form.text_eq read
    have shown : operand.text ≠ "" := by
      intro empty
      rw [text_eq] at empty
      exact OperandForm.lead_ne_empty bare _ (String.append_eq_empty_iff.1 empty).1
    rw [if_neg shown, if_neg bare, text_eq]
    simp only [String.append_assoc, String.append_empty]

/-- **The bytes of an instruction** from its address and its displayed text. It is `none` for a text
that no instruction has there. -/
def assemble? (address : Address) (text : String) : Option (List UInt8) :=
  Rendering.display.readBack? address text

/-- A text that no instruction displays is refused, here `push` of a register that is too narrow. -/
example : assemble? 0 "push al" = none := by decide +kernel

/-- **A decoded instruction is assembled again** from `i.address` and `i.display`, so a branch is
encoded backwards from its target. -/
theorem assemble?_display {image : Image} {offset : Fin image.size} {base : Address}
    {i : Instruction} (h : decode image offset base = .recognized i) :
    assemble? i.address i.display = some i.bytes := by
  obtain ⟨opcode, rule, taken, operand, hrule, read, bytes_eq, eq⟩ := exists_of_decode h
  obtain ⟨frame, hframe, display_eq⟩ := Rendering.exists_display_eq read
  rw [← eq] at display_eq
  rw [assemble?, display_eq, bytes_eq]
  exact Rendering.faithful_display.readBack?_eq hrule hframe read

/-- **The text of an instruction determines its code.** The assembler `assemble?` gives back the
bytes of every decoded instruction. So two of them that have the same address and display the same
text are the same, wherever they were decoded. -/
theorem decode_determined_by_display :
    (∀ (image : Image) (offset : Fin image.size) (base : Address) (i : Instruction),
      decode image offset base = .recognized i →
        assemble? i.address i.display = some i.bytes) ∧
    ∀ (first second : Image) (m : Fin first.size) (n : Fin second.size) (a b : Address)
      (i j : Instruction), decode first m a = .recognized i → decode second n b = .recognized j →
        i.address = j.address → i.display = j.display → i = j := by
  constructor
  · intro image offset base i h
    exact assemble?_display h
  · intro first second m n a b i j h h' address_eq display_eq
    have assembled := assemble?_display h
    -- the assembler sees the same arguments for both, so it gives the same bytes
    rw [address_eq, display_eq, assemble?_display h'] at assembled
    exact eq_of_decode h h' address_eq (Option.some.inj assembled).symm

/-- A jump at the top of the address space, where two images with different bases place it. Its
target wraps to `0xFFFFFFFE`. -/
theorem decode_determined_by_display_backward :
    ∃ i j, decode #[0x90, 0x74, 0xFD] ⟨1, by decide⟩ 0xFFFFFFFE = .recognized i ∧
      decode #[0x74, 0xFD, 0xE8] ⟨0, by decide⟩ 0xFFFFFFFFFFFFFFFF = .recognized j ∧
      i.address = j.address ∧ i.display = j.display ∧ i = j ∧
      assemble? 0xFFFFFFFF "jz 0xFFFFFFFE" = some [0x74, 0xFD] := by
  have decoded : decode #[0x90, 0x74, 0xFD] ⟨1, by decide⟩ 0xFFFFFFFE =
      .recognized .backward := by decide +kernel
  have elsewhere : decode #[0x74, 0xFD, 0xE8] ⟨0, by decide⟩ 0xFFFFFFFFFFFFFFFF =
      .recognized .backward := by decide +kernel
  have displayed : Instruction.backward.display = "jz 0xFFFFFFFE" := by decide +kernel
  have bytes_eq : Instruction.backward.bytes = [0x74, 0xFD] := by decide
  obtain ⟨assembles, determined⟩ := decode_determined_by_display
  -- the assembler is asked for the text that the jump displays
  have assembled := assembles _ _ _ _ decoded
  rw [displayed, bytes_eq] at assembled
  exact ⟨.backward, .backward, decoded, elsewhere, rfl, rfl,
    determined _ _ _ _ _ _ _ _ decoded elsewhere rfl rfl, assembled⟩

end LinearSweep
