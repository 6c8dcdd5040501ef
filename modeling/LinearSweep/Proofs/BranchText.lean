import LinearSweep.Proofs.JsonRoundTrip
import LinearSweep.Proofs.Numeral
import LinearSweep.Proofs.Statement
import LinearSweep.Proofs.Swept
import LinearSweep.Report.Document

/-! # The texts of a target

The target of a call or a jump is shown in three places: as the operand, in the JSON object and as
the label of the statement. Each of them is written by a function of its own, and all of them are
one numeral, which can be given back as the offset of a session.

* **`Instruction.LabelledBy`** says that a statement names a place by a label, in the form that its
  mnemonic has.
* **`Instruction.ShowsTarget`** says that the texts of a target agree.
* **`isSome_target_iff`**: calls and jumps have a target, and no other instruction has one.
* **`Rendering.frames_without_o`**: the statement of any other instruction cannot name a place,
  since no `o` stands in it. -/

namespace LinearSweep

open Text

variable {address base : Address} {opcode : UInt8} {rule : Rule} {form : OperandForm}
  {taken : List UInt8} {operand : Operand} {image : Image} {offset : Fin image.size}
  {i : Instruction} {s : String} {stated : Option String} {target : Address}

/-! ### Which instructions have a target -/

/-- An operand has a target exactly if `form.HasDisplacement`, that is, if it was read as a
displacement. -/
theorem OperandForm.isSome_target?_iff (read : form.read? address opcode taken = some operand) :
    operand.target?.isSome ↔ form.HasDisplacement := by
  constructor
  · intro goes
    match form, taken, read with
    | .bare, [], rfl | .register, [], rfl | .moveByte, [_], rfl | .moveWord, [_, _], rfl
    | .immediate, [_], rfl => cases goes
    | .shortBranch, [_], rfl => exact Or.inl rfl
    | .nearBranch, [_, _], rfl => exact Or.inr rfl
  · intro displaced
    rw [displaced.read?_eq read]
    rfl

/-- **Calls and jumps have a target**, and no other instruction has one: `isBranch` and `isCall` go
by the mnemonic, `target` by the form. -/
theorem isSome_target_iff (h : decode image offset base = .recognized i) :
    i.target.isSome ↔ i.isBranch ∨ i.isCall := by
  obtain ⟨opcode, rule, taken, operand, hrule, read, -, eq⟩ := exists_of_decode h
  have goes := (OperandForm.isSome_target?_iff read).trans (Rule.hasDisplacement_iff hrule)
  rw [eq]
  refine goes.trans (or_comm.trans (or_congr ?_ ?_))
  · exact decide_eq_true_iff.symm
  · exact decide_eq_true_iff.symm

/-- **A target is shown as its operand**, `Hex.marked target.toNat`, and it lies in the 32-bit
space. -/
theorem operands_eq_marked (h : decode image offset base = .recognized i)
    (goes : i.target = some target) :
    i.operands = Hex.marked target.toNat ∧ target.toNat < Address.count := by
  obtain ⟨opcode, rule, taken, operand, hrule, read, -, eq⟩ := exists_of_decode h
  rw [eq] at goes ⊢
  obtain rfl := Operand.eq_destination goes
  have displaced := (OperandForm.isSome_target?_iff read).1 rfl
  rw [Operand.destination.inj (displaced.read?_eq read)]
  exact ⟨rfl, Address.toNat_wrap_lt _⟩

/-! ### Labels -/

/-- **A statement that names a place by a label**, in the form that its mnemonic has. -/
inductive Instruction.LabelledBy (i : Instruction) (label : String) : String → Prop where
  /-- A `call` names a function. -/
  | call (mnemonic : i.mnemonic = "call") : LabelledBy i label ("function_" ++ label ++ "();")
  /-- A `jmp` names where it goes. -/
  | jump (mnemonic : i.mnemonic = "jmp") : LabelledBy i label ("goto loc_" ++ label ++ ";")
  /-- A conditional jump does so behind its condition, such as `condition_jz`. -/
  | conditional (mnemonic : i.mnemonic ∈ ["jz", "jnz", "jl", "jle", "jg", "jge"]) :
    LabelledBy i label ("if (condition_" ++ i.mnemonic ++ ") goto loc_" ++ label ++ ";")

/-- **A call or a jump is labelled by its target**, in the digits `Hex.upper target.toNat`. -/
theorem Instruction.StatedAs.exists_labelledBy (form : i.StatedAs stated)
    (goes : i.isBranch ∨ i.isCall) :
    ∃ target s, i.target = some target ∧ stated = some s ∧
      i.LabelledBy (Hex.upper target.toNat) s := by
  cases form with
  | call mnemonic goes => exact ⟨_, _, goes, rfl, .call mnemonic⟩
  | jump mnemonic goes => exact ⟨_, _, goes, rfl, .jump mnemonic⟩
  | conditional mnemonic goes => exact ⟨_, _, goes, rfl, .conditional mnemonic⟩
  | suppressed mnemonic =>
    rw [isBranch, isCall] at goes
    -- `push`, `pop` and `nop` are no branches, whatever else they are
    rcases mnemonic with eq | eq | eq <;> rw [eq] at goes <;> exact absurd goes (by decide)
  | move mnemonic | ret mnemonic | interrupt mnemonic | disable mnemonic | enable mnemonic
  | halt mnemonic | comment mnemonic =>
    rw [isBranch, isCall, mnemonic] at goes
    exact absurd goes (by decide)

/-- **Without a displacement no `o` stands in the text around the digits**, so that neither `goto`
nor `function_` can stand there. -/
theorem Rendering.frames_without_o : ∀ shown ∈ statement.frames,
    (Rule.ofOpcode? shown.1).map (fun rule => decide rule.form.HasDisplacement) = some false →
      'o' ∉ shown.2.head.toList ∧ 'o' ∉ shown.2.tail.toList := by
  decide +kernel

/-- **What has no target names no place**: there is no `o` in its statement, neither in its frame
nor among the digits. -/
theorem not_mem_statement? (h : decode image offset base = .recognized i)
    (stays : i.target = none) (stated : i.statement? = some s) : 'o' ∉ s.toList := by
  obtain ⟨opcode, rule, taken, operand, hrule, read, -, eq⟩ := exists_of_decode h
  rw [eq] at stays stated
  obtain ⟨frame, hframe, rfl⟩ := Rendering.exists_statement_eq hrule read stated
  have listed := Rendering.mem_frames_of hrule hframe
  have still : ¬ rule.form.HasDisplacement := by
    rw [← OperandForm.isSome_target?_iff read, show operand.target? = none from stays]
    exact Bool.false_ne_true
  obtain ⟨head, tail⟩ := Rendering.frames_without_o _ listed (by
    rw [hrule, Option.map_some, decide_eq_false still])
  -- digits have no `o` either
  exact Frame.not_mem_text head tail (by decide) operand

/-! ### Agreement -/

/-- **The texts of a target agree.** -/
structure Instruction.ShowsTarget (i : Instruction) (target : Address) : Prop where
  /-- The target lies in the 32-bit space, below `2 ^ 32`. -/
  lt : target.toNat < 2 ^ 32
  /-- The operand is its numeral in upper case, without leading zeros and behind `0x`. -/
  operands_eq : i.operands = "0x" ++
    String.ofList ((Nat.toDigits 16 target.toNat).map Char.toUpper)
  /-- The JSON object of the instruction, read back, has the operand for its `"target"`. -/
  field_eq : ∃ object, Json.reader.read i.toJson.compact = some object ∧
    object.field? "target" = some (.string i.operands)
  /-- The statement is labelled by the operand without its marker `0x`. -/
  labelled : ∃ label s, i.operands = "0x" ++ label ∧ i.statement? = some s ∧ i.LabelledBy label s
  /-- `Offset.parse` reads the operand as the offset that has the number of the target. -/
  parse_eq : Offset.parse i.operands = .ok target.toNat
  /-- With base `0`, the address of that offset is the target. -/
  starts : ∀ n, Offset.parse i.operands = .ok n → ∀ ceiling,
    (⟨n, 0, ceiling⟩ : Session).startAddress = target ∧
      ∀ (decoder : Decoder) (image : Image) (l : Listing),
        Session.run ⟨n, 0, ceiling⟩ decoder image = .ok l → l.startAddress = target

/-- With base `0` an offset below `2 ^ 32` is its own address. -/
theorem Address.ofOffset_toNat (lt : target.toNat < count) : ofOffset 0 target.toNat = target := by
  rw [← UInt64.toNat_inj, toNat_ofOffset, UInt64.toNat_zero, Nat.zero_add, Nat.mod_eq_of_lt lt]

/-- A marked numeral is read as its number: `Offset.parse` undoes `Hex.marked`. -/
theorem Offset.parse_marked {n : Nat} (small : n < 2 ^ 64) : parse (Hex.marked n) = .ok n := by
  have blank : ∀ c ∈ ([] ++ [] : List Char), c.toNat ∈ whiteSpace := List.forall_mem_nil _
  have read := parse_surrounded (numeral_toDigits 0 n).2 small blank
  have text_eq : String.ofList ('0' :: 'x' :: Hex.digits .upper n) = Hex.marked n := by
    simp [← String.toList_inj, Hex.marked, Hex.upper]
  rwa [List.replicate_zero, List.nil_append, Hex.map_toUpper_toDigits, List.nil_append,
    List.append_nil, text_eq] at read

/-- **The texts of a decoded target agree**: `i.ShowsTarget target` for the only target that `i` can
have. -/
theorem showsTarget (h : decode image offset base = .recognized i)
    (goes : i.target = some target) : i.ShowsTarget target := by
  obtain ⟨operands_eq, lt⟩ := operands_eq_marked h goes
  have parsed : Offset.parse i.operands = .ok target.toNat := by
    rw [operands_eq]
    exact Offset.parse_marked target.toNat_lt
  have kind : i.isBranch ∨ i.isCall := (isSome_target_iff h).1 (by rw [goes]; rfl)
  obtain ⟨other, s, goes', stated, labelled⟩ :=
    (Instruction.statedAs_of_decode h).exists_labelledBy kind
  obtain rfl : other = target := Option.some.inj (goes'.symm.trans goes)
  refine ⟨lt, ?_, ?_, ⟨_, s, operands_eq, stated, labelled⟩, parsed, ?_⟩
  · rw [Hex.map_toUpper_toDigits]
    exact operands_eq
  -- the general reader gives the whole object back, and the field is looked up in that
  · refine ⟨_, Json.read_write Json.Layout.isBlank_compact i.toJson, ?_⟩
    rw [operands_eq]
    simp [Instruction.toJson, goes, Json.value, Json.fieldValues, Json.Value.field?]
  · intro n read ceiling
    obtain rfl : n = other.toNat := Except.ok.inj (read.symm.trans parsed)
    have begins : (⟨other.toNat, 0, ceiling⟩ : Session).startAddress = other :=
      Address.ofOffset_toNat lt
    exact ⟨begins, fun decoder image l ran => (Session.startAddress_of_run ran).trans begins⟩

/-- **All texts of a target agree.** A decoded instruction has a target exactly if it is a call or a
jump. The operand, the JSON object and the label of the statement then show the same numeral of the
target, which is read back as the offset of a session that starts there. An instruction without a
target is stated without a jump and without a function. -/
theorem decode_texts_agree (h : decode image offset base = .recognized i) :
    (i.target.isSome ↔ i.isBranch ∨ i.isCall) ∧
    (∀ target, i.target = some target → i.ShowsTarget target) ∧
    (i.target = none → ∀ s, i.statement? = some s →
      ¬ "goto".toList <:+: s.toList ∧ ¬ "function_".toList <:+: s.toList) := by
  refine ⟨isSome_target_iff h, fun target goes => showsTarget h goes, ?_⟩
  intro stays s stated
  -- both words have an `o`, and the statement has none
  have missing := not_mem_statement? h stays stated
  exact ⟨fun named => missing (named.subset (by decide)),
    fun named => missing (named.subset (by decide))⟩

/-- The jump back over the top of the address space, and a move whose register has the first letter
of a jump. The move `gl = 0x41;` is stated without a `goto`. -/
theorem decode_texts_agree_backward :
    decode #[0x90, 0x74, 0xFD] ⟨1, by decide⟩ 0xFFFFFFFE = .recognized .backward ∧
    Instruction.backward.target = some 0xFFFFFFFE ∧
    Instruction.backward.ShowsTarget 0xFFFFFFFE ∧
    ∃ i, decode #[0xB6, 0x41] ⟨0, by decide⟩ 0x7C00 = .recognized i ∧ i.target = none ∧
      i.statement? = some "gl = 0x41;" ∧ ¬ "goto".toList <:+: "gl = 0x41;".toList := by
  have decoded : decode #[0x90, 0x74, 0xFD] ⟨1, by decide⟩ 0xFFFFFFFE =
      .recognized .backward := by decide +kernel
  let move := (⟨"mov", .moveByte⟩ : Rule).instruction 0x7C00 0xB6 [0x41] (.moveByte 6 0x41)
  have moved : decode #[0xB6, 0x41] ⟨0, by decide⟩ 0x7C00 = .recognized move := by decide +kernel
  have stated : move.statement? = some "gl = 0x41;" := by decide +kernel
  exact ⟨decoded, rfl, (decode_texts_agree decoded).2.1 _ rfl, move, moved, rfl, stated,
    ((decode_texts_agree moved).2.2 rfl _ stated).1⟩

end LinearSweep
