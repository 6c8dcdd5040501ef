import LinearSweep.Proofs.Assembler
import LinearSweep.Proofs.Numeral
import LinearSweep.Text.Column

/-! # The columns of the assembly view

A field of a line is filled with spaces up to the width of its column and is never cut. The fields
of a decoded instruction fit their columns, so the operands begin at the same place in every line,
and each field is found again by its place.

* **`column line start width`** is what stands in a column, without the spaces that fill it.
* **`Instruction.IsDecoded`** says that an instruction was decoded somewhere, and
  **`Session.isDecoded_of_run`** that a session lists only such instructions.
* **`Instruction.InColumns`** says what a line holds, and where.
* **`Instruction.IsDecoded.inColumns`**: the line of a decoded instruction holds its fields.
* **`Instruction.IsDecoded.eq_of_inColumns`**: so it is the line of no other instruction. -/

namespace LinearSweep

open Text

variable {image : Image} {opcode : UInt8} {rule : Rule} {i j : Instruction} {s : Session}
  {l : Listing} {line field gap rest : List Char} {start width n : Nat}

/-! ### Columns -/

/-- **What stands in a column of a line**, without the spaces that fill it: `width` characters from
`start` on. -/
def column (line : List Char) (start width : Nat) : List Char :=
  ((line.drop start).take width).rdropWhile (· = ' ')

/-- A field that does not end with a space is left when the `n` spaces behind it are taken away. -/
theorem rdropWhile_append_replicate (ends : ∀ c ∈ field.getLast?, c ≠ ' ') (n : Nat) :
    (field ++ List.replicate n ' ').rdropWhile (· = ' ') = field := by
  have spaces : ∀ c ∈ (List.replicate n ' ').reverse, decide (c = ' ') = true := by
    simp
  -- from behind, the spaces come first, and what comes next is no space
  rw [List.rdropWhile, List.reverse_append, List.dropWhile_append_of_pos spaces]
  refine List.rdropWhile_eq_self_iff.2 fun some space => ?_
  exact ends _ (List.getLast?_eq_some_getLast some) (of_decide_eq_true space)

/-- A field of a known width tells where the text behind it begins: at `start + (width + n)`, behind
a gap of `n`. -/
theorem drop_behind (there : line.drop start = field ++ (gap ++ rest))
    (width_eq : field.length = width) (n_eq : gap.length = n) :
    line.drop (start + (width + n)) = rest := by
  rw [← List.drop_drop, there, ← List.drop_drop, List.drop_left' width_eq, List.drop_left' n_eq]

/-- **Fields of fixed widths are cut out by their places**, which are `2`, `12`, `31` and `40`. -/
theorem cut_fields {digits raw mnemonic operands : List Char}
    (line_eq : line = ['0', 'x'] ++ digits ++ [' ', ' '] ++ raw ++ [' '] ++ mnemonic ++ [' '] ++
      operands)
    (digits_length : digits.length = 8) (raw_length : raw.length = 18)
    (mnemonic_length : mnemonic.length = 8) :
    (line.drop 2).take 8 = digits ∧ (line.drop 12).take 18 = raw ∧
      (line.drop 31).take 8 = mnemonic ∧ line.drop 40 = operands := by
  -- the place of each field comes from the place and the width of the one in front of it
  simp only [List.append_assoc] at line_eq
  have behind_mark : line.drop 2 =
      digits ++ ([' ', ' '] ++ (raw ++ ([' '] ++ (mnemonic ++ ([' '] ++ operands))))) := by
    rw [line_eq]
    rfl
  have behind_digits := drop_behind behind_mark digits_length (n := 2) rfl
  have behind_raw := drop_behind behind_digits raw_length (n := 1) rfl
  have behind_mnemonic := drop_behind behind_raw mnemonic_length (n := 1) rfl
  refine ⟨?_, ?_, ?_, behind_mnemonic⟩
  · rw [behind_mark, List.take_left' digits_length]
  · rw [behind_digits, List.take_left' raw_length]
  · rw [behind_raw, List.take_left' mnemonic_length]

/-! ### Decoded instructions -/

/-- **An instruction that was decoded somewhere**: `decode` gives it at some offset of some image.
-/
def Instruction.IsDecoded (i : Instruction) : Prop :=
  ∃ (image : Image) (offset : Fin image.size) (base : Address),
    decode image offset base = .recognized i

/-- **All instructions of a session were decoded**, each at its offset with `s.base`. -/
theorem Session.isDecoded_of_run (short : image.size < 2 ^ 64)
    (ran : s.run decode image = .ok l) : ∀ i ∈ l.instructions, i.IsDecoded := by
  intro i mem
  obtain ⟨-, -, -, swept⟩ := (run_eq_ok_iff short).1 ran
  obtain ⟨offset, decoded⟩ := swept.path.exists_decode_eq mem
  exact ⟨image, offset, s.base, decoded⟩

/-- A decoded instruction has an address of the 32-bit space, so that eight digits are enough for
it. -/
theorem Instruction.IsDecoded.address_lt (decoded : i.IsDecoded) : i.address.toNat < 16 ^ 8 := by
  obtain ⟨image, offset, base, h⟩ := decoded
  have address_eq : i.address = Address.ofOffset base offset := by
    rw [← Entry.address_read (Address.ofOffset base offset) (image.byte offset)
      (image.following offset (Instruction.maxSize - 1)), ← decode, h]
    rfl
  rw [address_eq]
  exact Address.toNat_wrap_lt _

/-! ### Fields -/

/-- The digits in upper case, from `0` to `F`. -/
def upperDigits : List Char :=
  ['0', '1', '2', '3', '4', '5', '6', '7', '8', '9', 'A', 'B', 'C', 'D', 'E', 'F']

/-- Only digits in upper case are written by `Hex.padded`, also where it fills with zeros. -/
theorem mem_upperDigits {c : Char} {n : Nat} (mem : c ∈ Hex.padded width n) :
    c ∈ upperDigits := by
  -- the zeros that fill are digits as well
  have listed : ∀ d < 16, Hex.digit .upper d ∈ upperDigits := by decide
  rcases List.mem_append.1 mem with zero | mem
  · rw [List.eq_of_mem_replicate zero]
    exact listed 0 (by decide)
  · obtain ⟨d, small, rfl⟩ := Hex.exists_of_mem_digits .upper mem
    exact listed d small

/-- A byte is shown by two digits, `Hex.padded 2`. -/
theorem length_hexPair (byte : UInt8) : (Instruction.hexPair byte).length = 2 :=
  Hex.length_padded (by decide) byte.toNat_lt

/-- **Each byte takes two digits and a space**, but there is no space behind the last, so the text
is `3 * bytes.length - 1` long. -/
theorem length_intercalate_hexPair {bytes : List UInt8} (some : bytes ≠ []) :
    ([' '].intercalate (bytes.map Instruction.hexPair)).length + 1 = 3 * bytes.length := by
  induction bytes with
  | nil => exact absurd rfl some
  | cons byte bytes ih =>
    cases bytes with
    | nil => simp [length_hexPair]
    | cons next bytes =>
      have behind := ih (List.cons_ne_nil next bytes)
      rw [List.map_cons] at behind
      rw [List.map_cons, List.map_cons, List.intercalate_cons_cons, List.length_append,
        List.length_append, length_hexPair]
      simp only [List.length_cons, List.length_nil] at behind ⊢
      omega

/-- Bytes are shown by digits, which are `upperDigits`, and spaces. -/
theorem mem_intercalate_hexPair {bytes : List UInt8} {c : Char}
    (mem : c ∈ [' '].intercalate (bytes.map Instruction.hexPair)) :
    c = ' ' ∨ c ∈ upperDigits := by
  induction bytes with
  | nil => cases mem
  | cons byte bytes ih =>
    cases bytes with
    | nil =>
      rw [List.map_singleton, List.intercalate_singleton] at mem
      exact Or.inr (mem_upperDigits mem)
    | cons next bytes =>
      rw [List.map_cons, List.map_cons, List.intercalate_cons_cons, List.append_assoc,
        List.mem_append, List.mem_append, List.mem_singleton] at mem
      rcases mem with pair | space | behind
      · exact Or.inr (mem_upperDigits pair)
      · exact Or.inl space
      · exact ih behind

/-- Bytes are shown without a space at the end, so `column` takes away nothing but what fills it. -/
theorem ne_of_mem_getLast?_hexPair {bytes : List UInt8} {c : Char}
    (last : c ∈ ([' '].intercalate (bytes.map Instruction.hexPair)).getLast?) : c ≠ ' ' := by
  induction bytes with
  | nil => cases last
  | cons byte bytes ih =>
    cases bytes with
    | nil =>
      rw [List.map_singleton, List.intercalate_singleton] at last
      rintro rfl
      exact absurd (mem_upperDigits (List.mem_of_getLast? last)) (by decide)
    | cons next bytes =>
      have some : [' '].intercalate ((next :: bytes).map Instruction.hexPair) ≠ [] := by
        intro empty
        have length := length_intercalate_hexPair (List.cons_ne_nil next bytes)
        rw [empty, List.length_cons] at length
        simp only [List.length_nil] at length
        omega
      rw [List.map_cons, List.map_cons, List.intercalate_cons_cons] at last
      rw [List.map_cons] at some ih
      rw [List.getLast?_append_of_ne_nil _ some] at last
      exact ih last

/-- The bytes of a decoded instruction begin with its opcode, so `i.bytes` is not empty. -/
theorem Instruction.IsDecoded.bytes_ne_nil (decoded : i.IsDecoded) : i.bytes ≠ [] := by
  obtain ⟨image, offset, base, h⟩ := decoded
  obtain ⟨opcode, rule, taken, operand, -, -, bytes_eq, -⟩ := exists_of_decode h
  rw [bytes_eq]
  exact List.cons_ne_nil opcode taken

/-- **The bytes fit their column**: three of them take `8` characters, and there is room for
`bytesWidth`. -/
theorem Instruction.IsDecoded.length_rawHex_le (decoded : i.IsDecoded) :
    i.rawHex.length ≤ bytesWidth := by
  have length := length_intercalate_hexPair decoded.bytes_ne_nil
  have size_le := i.size_le
  rw [i.length_bytes] at length
  rw [← String.length_toList, rawHex, String.toList_ofList]
  simp only [maxSize, bytesWidth] at size_le ⊢
  omega

/-- **The mnemonics of the table fit their column** of `Instruction.mnemonicWidth`, and there is no
space in them and no line break. -/
theorem Rule.mnemonic_fits (h : Rule.ofOpcode? opcode = some rule) :
    rule.mnemonic.length ≤ Instruction.mnemonicWidth ∧
      ' ' ∉ rule.mnemonic.toList ∧ '\n' ∉ rule.mnemonic.toList := by
  have listed : ∀ block ∈ opcodeBlocks, block.rule.mnemonic.length ≤ Instruction.mnemonicWidth ∧
      ' ' ∉ block.rule.mnemonic.toList ∧ '\n' ∉ block.rule.mnemonic.toList := by
    decide
  obtain ⟨block, found, rfl⟩ := Option.map_eq_some_iff.1 h
  exact listed block (List.mem_of_find?_eq_some found)

/-- There is no line break in `form.lead number`, what is shown in front of the digits. -/
theorem OperandForm.newline_not_mem_lead (form : OperandForm) (number : Fin 8) :
    '\n' ∉ (form.lead number).toList := by
  have all : ∀ number, '\n' ∉ (form.lead number).toList := by
    cases form <;> decide +kernel
  exact all number

/-- **Mnemonic and operands stay in one line**, and the mnemonic fits its column of `mnemonicWidth`
characters. -/
theorem Instruction.IsDecoded.texts_fit (decoded : i.IsDecoded) :
    i.mnemonic.length ≤ mnemonicWidth ∧ ' ' ∉ i.mnemonic.toList ∧ '\n' ∉ i.mnemonic.toList ∧
      '\n' ∉ i.operands.toList := by
  obtain ⟨image, offset, base, h⟩ := decoded
  obtain ⟨opcode, rule, taken, operand, hrule, read, -, eq⟩ := exists_of_decode h
  obtain ⟨fits, spaceless, unbroken⟩ := Rule.mnemonic_fits hrule
  rw [eq]
  refine ⟨fits, spaceless, unbroken, ?_⟩
  show '\n' ∉ operand.text.toList
  rw [rule.form.text_eq read, String.toList_append, String.toList_ofList, List.mem_append, not_or]
  refine ⟨rule.form.newline_not_mem_lead _, fun mem => ?_⟩
  exact absurd (Operand.isSome_of_mem_digits mem) (by decide)

/-! ### Lines -/

/-- **The fields of a line**, one behind the other: the address in eight digits, the bytes and the
mnemonic filled with spaces to eighteen and eight characters, and the operands. -/
structure Instruction.Fields (i : Instruction) (line digits raw mnemonic : List Char) : Prop where
  /-- Two spaces stand behind the address, and one space behind each of the other columns. -/
  line_eq : line = ['0', 'x'] ++ digits ++ [' ', ' '] ++ raw ++ [' '] ++ mnemonic ++ [' '] ++
    i.operands.toList
  /-- The address has eight digits. -/
  length_digits : digits.length = 8
  /-- They are in upper case, so in `upperDigits`. -/
  upper : ∀ c ∈ digits, c ∈ upperDigits
  /-- Their value, by `Hex.value?`, is the address. -/
  value_eq : Hex.value? digits = some i.address.toNat
  /-- The bytes take eighteen characters. -/
  length_raw : raw.length = 18
  /-- They are filled with spaces. -/
  raw_eq : ∃ n, raw = i.rawHex.toList ++ List.replicate n ' '
  /-- The mnemonic takes eight characters. -/
  length_mnemonic : mnemonic.length = 8
  /-- It is filled with spaces. -/
  mnemonic_eq : ∃ n, mnemonic = i.mnemonic.toList ++ List.replicate n ' '

/-- **A line that holds an instruction in fixed columns**, each of which `column` cuts out. -/
structure Instruction.InColumns (i : Instruction) (line : List Char) : Prop where
  /-- It consists of the fields. -/
  fields : ∃ digits raw mnemonic, i.Fields line digits raw mnemonic
  /-- There is no line break, so `line` is one line. -/
  unbroken : '\n' ∉ line
  /-- The address is found by its place, `column line 2 8`. -/
  address_eq : Hex.value? (column line 2 8) = some i.address.toNat
  /-- The bytes are found by their place, `column line 12 18`. -/
  bytes_eq : column line 12 18 = i.rawHex.toList
  /-- The mnemonic is found by its place, `column line 31 8`. -/
  mnemonic_eq : column line 31 8 = i.mnemonic.toList
  /-- The operands are what stands from column 40 on. -/
  operands_eq : line.drop 40 = i.operands.toList

namespace Instruction.IsDecoded

/-- **The line of a decoded instruction consists of its fields**, the parts of `i.line`. -/
theorem exists_fields (decoded : i.IsDecoded) :
    ∃ digits raw mnemonic, i.Fields i.line.toList digits raw mnemonic := by
  have filled (text : String) {width : Nat} (fits : text.length ≤ width) :
      (alignLeft width text).toList.length = width := by
    rw [String.length_toList, length_alignLeft]
    exact Nat.max_eq_right fits
  refine ⟨Hex.padded 8 i.address.toNat, (alignLeft bytesWidth i.rawHex).toList,
    (alignLeft mnemonicWidth i.mnemonic).toList, ?_⟩
  constructor
  case line_eq => simp [line, Hex.markedPadded]
  case length_digits => exact Hex.length_padded (by decide) decoded.address_lt
  case upper => exact fun c mem => mem_upperDigits mem
  case value_eq => exact Hex.value?_leftpad_digits .upper 8 _
  case length_raw => exact filled i.rawHex decoded.length_rawHex_le
  case raw_eq => exact ⟨_, toList_alignLeft ..⟩
  case length_mnemonic => exact filled i.mnemonic decoded.texts_fit.1
  case mnemonic_eq => exact ⟨_, toList_alignLeft ..⟩

/-- There is no line break in the fields of a decoded instruction, nor in what stands between them.
-/
theorem newline_not_mem_fields {digits raw mnemonic : List Char} (decoded : i.IsDecoded)
    (fields : i.Fields line digits raw mnemonic) : '\n' ∉ line := by
  obtain ⟨-, -, unbroken, unbroken'⟩ := decoded.texts_fit
  obtain ⟨filling, raw_eq⟩ := fields.raw_eq
  obtain ⟨filling', mnemonic_eq⟩ := fields.mnemonic_eq
  have spaces (n : Nat) : '\n' ∉ List.replicate n ' ' := fun mem =>
    absurd (List.eq_of_mem_replicate mem) (by decide)
  have digits : '\n' ∉ digits := fun mem => absurd (fields.upper _ mem) (by decide)
  have pairs : '\n' ∉ i.rawHex.toList := by
    rw [rawHex, String.toList_ofList]
    intro mem
    rcases mem_intercalate_hexPair mem with space | digit
    · exact absurd space (by decide)
    · exact absurd digit (by decide)
  rw [fields.line_eq, raw_eq, mnemonic_eq]
  simp [digits, pairs, spaces, unbroken, unbroken']

/-- **The line of a decoded instruction holds it in fixed columns.** -/
theorem inColumns (decoded : i.IsDecoded) : i.InColumns i.line.toList := by
  obtain ⟨digits, raw, mnemonic, fields⟩ := decoded.exists_fields
  obtain ⟨cut_digits, cut_raw, cut_mnemonic, cut_operands⟩ :=
    cut_fields fields.line_eq fields.length_digits fields.length_raw fields.length_mnemonic
  constructor
  case fields => exact ⟨digits, raw, mnemonic, fields⟩
  case unbroken => exact decoded.newline_not_mem_fields fields
  case operands_eq => exact cut_operands
  case address_eq =>
    -- the address fills its column, so no spaces are taken away
    have last : ∀ c ∈ digits.getLast?, c ≠ ' ' := by
      rintro c last rfl
      exact absurd (fields.upper _ (List.mem_of_getLast? last)) (by decide)
    have whole := rdropWhile_append_replicate last 0
    rw [List.replicate_zero, List.append_nil] at whole
    rw [column, cut_digits, whole]
    exact fields.value_eq
  case bytes_eq =>
    obtain ⟨filling, raw_eq⟩ := fields.raw_eq
    rw [column, cut_raw, raw_eq]
    refine rdropWhile_append_replicate (fun c last => ?_) filling
    rw [rawHex, String.toList_ofList] at last
    exact ne_of_mem_getLast?_hexPair last
  case mnemonic_eq =>
    obtain ⟨filling, mnemonic_eq⟩ := fields.mnemonic_eq
    rw [column, cut_mnemonic, mnemonic_eq]
    refine rdropWhile_append_replicate ?_ filling
    rintro c last rfl
    exact decoded.texts_fit.2.1 (List.mem_of_getLast? last)

/-- **A line shows one instruction**: if it holds both `i` and `j`, then they are the same. -/
theorem eq_of_inColumns (decoded : i.IsDecoded) (decoded' : j.IsDecoded)
    (shown : i.InColumns line) (shown' : j.InColumns line) : i = j := by
  have address_eq : i.address = j.address := by
    rw [← UInt64.toNat_inj]
    exact Option.some.inj (shown.address_eq.symm.trans shown'.address_eq)
  have mnemonic_eq : i.mnemonic = j.mnemonic := by
    rw [← String.toList_inj]
    exact shown.mnemonic_eq.symm.trans shown'.mnemonic_eq
  have operands_eq : i.operands = j.operands := by
    rw [← String.toList_inj]
    exact shown.operands_eq.symm.trans shown'.operands_eq
  have display_eq : i.display = j.display := by
    rw [display, display, mnemonic_eq, operands_eq]
  -- the bytes need not be read off the line, since the address and the text determine them
  obtain ⟨first, m, a, h⟩ := decoded
  obtain ⟨second, n, b, h'⟩ := decoded'
  have assembled := assemble?_display h
  rw [address_eq, display_eq, assemble?_display h'] at assembled
  exact eq_of_decode h h' address_eq (Option.some.inj assembled).symm

end Instruction.IsDecoded

end LinearSweep
