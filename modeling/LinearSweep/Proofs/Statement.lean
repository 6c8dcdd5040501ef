import LinearSweep.PseudoCode
import LinearSweep.Proofs.Rendering

/-! # Statements are faithful

A decoded instruction is stated in one line, in a form that its mnemonic decides, unless it only
moves data on the stack or does nothing. As the displayed text does, the statement and the address
determine the instruction.

* **`Instruction.StatedAs`** lists the forms, and **`statedAs_statement?`** finds the statement of a
  decoded instruction among them.
* **`Rendering.statement`** are the frames of the statements, **`Rendering.faithful_statement`**
  says that they can be told apart, and **`Rendering.exists_statement_eq`** that the digits stand in
  them.
* **`IsLine`** is a line that is not indented, and **`Instruction.isLine_statement?`** says that a
  statement is one.
* **`decode_determined_by_statement`** puts this together. -/

namespace LinearSweep

open Text

variable {address base : Address} {opcode : UInt8} {rule : Rule} {taken : List UInt8}
  {operand : Operand} {image : Image} {offset : Fin image.size} {i : Instruction} {s : String}
  {stated : Option String}

/-! ### Forms -/

/-- **The form of a statement**, by the mnemonic of its instruction. -/
inductive Instruction.StatedAs (i : Instruction) : Option String → Prop where
  /-- Moves on the stack, and what does nothing, are not stated. -/
  | suppressed (mnemonic : i.mnemonic = "push" ∨ i.mnemonic = "pop" ∨ i.mnemonic = "nop") :
    StatedAs i none
  /-- A move assigns what stands behind the comma to what stands in front of it. -/
  | move {register value : String} (mnemonic : i.mnemonic = "mov")
    (operands : i.operands = register ++ ", " ++ value) (first : ',' ∉ register.toList) :
    StatedAs i (some (register ++ " = " ++ value ++ ";"))
  /-- A call names the function that begins at its target. -/
  | call {target : Address} (mnemonic : i.mnemonic = "call") (goes : i.target = some target) :
    StatedAs i (some (functionName target ++ "();"))
  /-- A jump goes to the label of its target. -/
  | jump {target : Address} (mnemonic : i.mnemonic = "jmp") (goes : i.target = some target) :
    StatedAs i (some ("goto loc_" ++ Hex.upper target.toNat ++ ";"))
  /-- A conditional jump does so under the condition of its mnemonic. -/
  | conditional {target : Address}
    (mnemonic : i.mnemonic ∈ ["jz", "jnz", "jl", "jle", "jg", "jge"])
    (goes : i.target = some target) :
    StatedAs i (some ("if (condition_" ++ i.mnemonic ++ ") goto loc_" ++
      Hex.upper target.toNat ++ ";"))
  /-- A return, which names no place. -/
  | ret (mnemonic : i.mnemonic = "ret") : StatedAs i (some "return;")
  /-- An interrupt shows its number. -/
  | interrupt (mnemonic : i.mnemonic = "int") :
    StatedAs i (some ("interrupt(" ++ i.operands ++ ");"))
  /-- Interrupts are disabled. -/
  | disable (mnemonic : i.mnemonic = "cli") : StatedAs i (some "disable_interrupts();")
  /-- Interrupts are enabled. -/
  | enable (mnemonic : i.mnemonic = "sti") : StatedAs i (some "enable_interrupts();")
  /-- The machine halts. -/
  | halt (mnemonic : i.mnemonic = "hlt") : StatedAs i (some "halt();")
  /-- A breakpoint has no form of its own. -/
  | comment (mnemonic : i.mnemonic = "int3") : StatedAs i (some "// int3 ")

/-- **What the mnemonics of the table say about operands**: which instructions move data and which
have no operand; and there are no other mnemonics than these eighteen. -/
theorem Rule.form_of_mnemonic (h : Rule.ofOpcode? opcode = some rule) :
    (rule.mnemonic = "mov" → rule.form = .moveByte ∨ rule.form = .moveWord) ∧
    (rule.mnemonic ∈ ["ret", "int3", "cli", "sti", "hlt"] → rule.form = .bare) ∧
    rule.mnemonic ∈ ["push", "pop", "nop", "mov", "call", "jmp", "jz", "jnz", "jl", "jle", "jg",
      "jge", "ret", "int", "cli", "sti", "hlt", "int3"] := by
  have listed : ∀ block ∈ opcodeBlocks,
      (block.rule.mnemonic = "mov" → block.rule.form = .moveByte ∨ block.rule.form = .moveWord) ∧
      (block.rule.mnemonic ∈ ["ret", "int3", "cli", "sti", "hlt"] → block.rule.form = .bare) ∧
      block.rule.mnemonic ∈ ["push", "pop", "nop", "mov", "call", "jmp", "jz", "jnz", "jl", "jle",
        "jg", "jge", "ret", "int", "cli", "sti", "hlt", "int3"] := by
    decide
  obtain ⟨block, found, rfl⟩ := Option.map_eq_some_iff.1 h
  exact listed block (List.mem_of_find?_eq_some found)

/-- What stands in front of the first comma is passed over; `assignment` puts ` =` in its place. -/
theorem assignment_append {front : List Char} (first : ',' ∉ front) (value : List Char) :
    assignment (front ++ ',' :: ' ' :: value) = front ++ ' ' :: '=' :: ' ' :: value := by
  induction front with
  | nil => rfl
  | cons c front ih =>
    rw [List.mem_cons, not_or] at first
    have other : c ≠ ',' := fun eq => first.1 eq.symm
    rw [List.cons_append, List.cons_append, ← ih first.2, assignment]
    -- the rule for a comma does not apply to this character
    intro rest comma
    exact absurd comma other

/-- **An assignment changes the first comma** of a text and nothing else. -/
theorem assignment_eq {text front value : String} (text_eq : text = front ++ ", " ++ value)
    (first : ',' ∉ front.toList) :
    String.ofList (assignment text.toList) = front ++ " = " ++ value := by
  have changed := assignment_append first value.toList
  rw [← String.toList_inj, String.toList_ofList, text_eq]
  simp only [String.toList_append, List.append_assoc]
  exact changed

/-- **The operands of a move** are a register, a comma and a numeral, whatever digits it has, and in
the register there is no comma. -/
theorem OperandForm.exists_lead_append_eq {form : OperandForm}
    (moves : form = .moveByte ∨ form = .moveWord) (number : Fin 8) :
    ∃ register : String, ',' ∉ register.toList ∧
      ∀ digits : String, form.lead number ++ digits = register ++ ", " ++ ("0x" ++ digits) := by
  have named : ∀ number : Fin 8, ',' ∉ (byteRegisters.get number).toList ∧
      ',' ∉ (wordRegisters.get number).toList := by decide +kernel
  have mark : ", 0x" = ", " ++ "0x" := rfl
  rcases moves with rfl | rfl
  · refine ⟨byteRegisters.get number, (named number).1, fun digits => ?_⟩
    simp only [lead, mark, String.append_assoc]
  · refine ⟨wordRegisters.get number, (named number).2, fun digits => ?_⟩
    simp only [lead, mark, String.append_assoc]

/-- A call or a jump has a target, so its operand is a `.destination`. -/
theorem exists_target_of_goes (hrule : Rule.ofOpcode? opcode = some rule)
    (read : rule.form.read? address opcode taken = some operand)
    (goes : rule.mnemonic = "call" ∨ rule.mnemonic.toList.head? = some 'j') :
    ∃ target, operand = .destination target :=
  ⟨_, ((Rule.hasDisplacement_iff hrule).2 goes).read?_eq read⟩

/-- **An instruction of the table is stated in one of the forms**, one row of `statement?` after the
other. -/
theorem statedAs_statement? (hrule : Rule.ofOpcode? opcode = some rule)
    (read : rule.form.read? address opcode taken = some operand) :
    (rule.instruction address opcode taken operand).StatedAs
      (rule.instruction address opcode taken operand).statement? := by
  obtain ⟨moves, bare, known⟩ := Rule.form_of_mnemonic hrule
  have goes := exists_target_of_goes hrule read
  -- the cases stand in the order in which the statement tries the mnemonics
  unfold Instruction.statement?
  dsimp only [Rule.instruction]
  split
  case h_1 eq => exact .suppressed (Or.inl eq)
  case h_2 eq => exact .suppressed (Or.inr (Or.inl eq))
  case h_3 eq => exact .suppressed (Or.inr (Or.inr eq))
  case h_4 eq =>
    obtain ⟨register, first, lead_eq⟩ :=
      OperandForm.exists_lead_append_eq (moves eq) (registerNumber opcode)
    have text_eq := (rule.form.text_eq read).trans (lead_eq _)
    rw [assignment_eq text_eq first]
    exact .move eq text_eq first
  case h_5 eq =>
    obtain ⟨target, rfl⟩ := goes (Or.inl eq)
    exact .call eq rfl
  case h_6 eq =>
    obtain ⟨target, rfl⟩ := goes (Or.inr (by rw [eq]; decide))
    exact .jump eq rfl
  case h_7 eq | h_8 eq | h_9 eq | h_10 eq | h_11 eq | h_12 eq =>
    obtain ⟨target, rfl⟩ := goes (Or.inr (by rw [eq]; decide))
    have listed : rule.mnemonic ∈ ["jz", "jnz", "jl", "jle", "jg", "jge"] := by
      rw [eq]
      decide
    exact .conditional listed rfl
  case h_13 eq => exact .ret eq
  case h_14 eq => exact .interrupt eq
  case h_15 eq => exact .disable eq
  case h_16 eq => exact .enable eq
  case h_17 eq => exact .halt eq
  case h_18 =>
    -- every other mnemonic has a form of its own
    have breakpoint : rule.mnemonic = "int3" := by
      simp only [List.mem_cons, List.not_mem_nil, or_false] at known
      tauto
    have absent : operand = .absent := eq_absent_of_bare read (bare (by rw [breakpoint]; decide))
    have text_eq : "// " ++ rule.mnemonic ++ " " ++ operand.text = "// int3 " := by
      rw [breakpoint, absent]
      rfl
    rw [text_eq]
    exact .comment breakpoint

/-! ### Frames -/

/-- **The frame of a statement**, by the mnemonic; what is not stated has none. -/
def Rendering.statement : Rendering := fun opcode rule =>
  let lead := rule.form.lead (registerNumber opcode)
  match rule.mnemonic with
  -- what only moves data on the stack, or does nothing, has no frame
  | "push" | "pop" | "nop" => none
  | "mov" => some ⟨String.ofList (assignment lead.toList), ";"⟩
  | "call" => some ⟨"function_", "();"⟩
  | "jmp" => some ⟨"goto loc_", ";"⟩
  | "ret" => some ⟨"return;", ""⟩
  | "int" => some ⟨"interrupt(" ++ lead, ");"⟩
  | "cli" => some ⟨"disable_interrupts();", ""⟩
  | "sti" => some ⟨"enable_interrupts();", ""⟩
  | "hlt" => some ⟨"halt();", ""⟩
  | "int3" => some ⟨"// int3 ", ""⟩
  | "jz" | "jnz" | "jl" | "jle" | "jg" | "jge" =>
    some ⟨"if (condition_" ++ rule.mnemonic ++ ") goto loc_", ";"⟩
  | _ => none

/-- No statement begins as the one of another opcode: a finite check over the `256` opcodes. -/
theorem Rendering.faithful_statement : statement.Faithful where
  separate := by decide +kernel
  closed := by decide +kernel

/-- Without an operand the statement is what the frame begins with. -/
theorem Rendering.exists_of_bare (read : rule.form.read? address opcode taken = some operand)
    (bare : rule.form = .bare) (framed : statement opcode rule = some ⟨s, ""⟩) :
    ∃ frame, statement opcode rule = some frame ∧ s = frame.text operand.digits := by
  refine ⟨_, framed, ?_⟩
  rw [eq_absent_of_bare read bare]
  exact (String.append_empty.trans String.append_empty).symm

/-- Only a destination has a target, and it is that target. -/
theorem Operand.eq_destination {target : Address} (goes : operand.target? = some target) :
    operand = .destination target := by
  cases operand with
  | destination other => rw [Option.some.inj goes]
  | _ => cases goes

/-- **A statement is the digits of the operand in the frame of the opcode**: `frame.text
operand.digits`. -/
theorem Rendering.exists_statement_eq (hrule : Rule.ofOpcode? opcode = some rule)
    (read : rule.form.read? address opcode taken = some operand)
    (stated : (rule.instruction address opcode taken operand).statement? = some s) :
    ∃ frame, statement opcode rule = some frame ∧ s = frame.text operand.digits := by
  obtain ⟨moves, bare, -⟩ := Rule.form_of_mnemonic hrule
  have text_eq := rule.form.text_eq read
  have form := statedAs_statement? hrule read
  rw [stated] at form
  cases form with
  | move mnemonic operands first =>
    have eq : rule.mnemonic = "mov" := mnemonic
    obtain ⟨register, first', lead_eq⟩ :=
      OperandForm.exists_lead_append_eq (moves eq) (registerNumber opcode)
    refine ⟨⟨register ++ " = " ++ "0x", ";"⟩, ?_, ?_⟩
    · have head_eq := lead_eq ""
      rw [String.append_empty, String.append_empty] at head_eq
      simp only [statement, eq, assignment_eq head_eq first']
    · -- the first comma of the operands is the one in front of the numeral
      have assigned : String.ofList (assignment operand.text.toList) = _ :=
        assignment_eq operands first
      rw [← assigned, assignment_eq (text_eq.trans (lead_eq _)) first']
      simp only [Frame.text, String.append_assoc]
  | call mnemonic goes =>
    have eq : rule.mnemonic = "call" := mnemonic
    rw [Operand.eq_destination goes]
    exact ⟨⟨"function_", "();"⟩, by simp only [statement, eq], rfl⟩
  | jump mnemonic goes =>
    have eq : rule.mnemonic = "jmp" := mnemonic
    rw [Operand.eq_destination goes]
    exact ⟨⟨"goto loc_", ";"⟩, by simp only [statement, eq], rfl⟩
  | conditional mnemonic goes =>
    rw [Operand.eq_destination goes]
    refine ⟨⟨"if (condition_" ++ rule.mnemonic ++ ") goto loc_", ";"⟩, ?_, rfl⟩
    have listed : rule.mnemonic ∈ ["jz", "jnz", "jl", "jle", "jg", "jge"] := mnemonic
    simp only [List.mem_cons, List.not_mem_nil, or_false] at listed
    rcases listed with eq | eq | eq | eq | eq | eq <;> simp only [statement, eq]
  | interrupt mnemonic =>
    have eq : rule.mnemonic = "int" := mnemonic
    refine ⟨⟨"interrupt(" ++ rule.form.lead (registerNumber opcode), ");"⟩,
      by simp only [statement, eq], ?_⟩
    show "interrupt(" ++ operand.text ++ ");" = _
    simp only [text_eq, Frame.text, String.append_assoc]
  -- without an operand the frame is all there is
  | ret mnemonic =>
    have eq : rule.mnemonic = "ret" := mnemonic
    exact exists_of_bare read (bare (by rw [eq]; decide)) (by simp only [statement, eq])
  | disable mnemonic =>
    have eq : rule.mnemonic = "cli" := mnemonic
    exact exists_of_bare read (bare (by rw [eq]; decide)) (by simp only [statement, eq])
  | enable mnemonic =>
    have eq : rule.mnemonic = "sti" := mnemonic
    exact exists_of_bare read (bare (by rw [eq]; decide)) (by simp only [statement, eq])
  | halt mnemonic =>
    have eq : rule.mnemonic = "hlt" := mnemonic
    exact exists_of_bare read (bare (by rw [eq]; decide)) (by simp only [statement, eq])
  | comment mnemonic =>
    have eq : rule.mnemonic = "int3" := mnemonic
    exact exists_of_bare read (bare (by rw [eq]; decide)) (by simp only [statement, eq])

/-! ### Lines -/

/-- **A line that is not indented**: there is a text, it begins with no space and does not break. -/
structure IsLine (s : String) : Prop where
  /-- Something is written. -/
  nonempty : s ≠ ""
  /-- It begins at once. -/
  flush : s.toList.head? ≠ some ' '
  /-- It ends where the line ends. -/
  unbroken : '\n' ∉ s.toList

instance (s : String) : Decidable (IsLine s) :=
  decidable_of_iff (s ≠ "" ∧ s.toList.head? ≠ some ' ' ∧ '\n' ∉ s.toList)
    ⟨fun ⟨nonempty, flush, unbroken⟩ => ⟨nonempty, flush, unbroken⟩,
      fun ⟨nonempty, flush, unbroken⟩ => ⟨nonempty, flush, unbroken⟩⟩

/-- The marks in front of a comment. -/
def commentMark : List Char := ['/', '/']

/-- **What is written in front of the digits begins as a line**, and as a comment for a breakpoint
only; what is written behind them does not break the line. -/
theorem Rendering.frames_statement : ∀ shown ∈ statement.frames,
    IsLine shown.2.head ∧ '\n' ∉ shown.2.tail.toList ∧ 2 ≤ shown.2.head.toList.length ∧
      (shown.2.head.toList.take 2 = commentMark ↔
        (Rule.ofOpcode? shown.1).map Rule.mnemonic = some "int3") := by
  decide +kernel

/-- A character that is no digit stands in a text only if it stands in the frame, in its head or in
its tail. -/
theorem Frame.not_mem_text {frame : Frame} {c : Char} (head : c ∉ frame.head.toList)
    (tail : c ∉ frame.tail.toList) (other : ¬ (Hex.digitValue? c).isSome) (operand : Operand) :
    c ∉ (frame.text operand.digits).toList := by
  have digits : c ∉ operand.digits := fun mem => other (Operand.isSome_of_mem_digits mem)
  rw [Frame.text, String.toList_append, String.toList_append, String.toList_ofList,
    List.mem_append, List.mem_append, not_or, not_or]
  exact ⟨⟨head, digits⟩, tail⟩

/-- A text whose head is a line is a line, if its tail is not broken: digits are neither spaces nor
newlines. -/
theorem Frame.isLine_text {frame : Frame} (head : IsLine frame.head)
    (tail : '\n' ∉ frame.tail.toList) (operand : Operand) :
    IsLine (frame.text operand.digits) := by
  have toList_eq : (frame.text operand.digits).toList =
      frame.head.toList ++ (operand.digits ++ frame.tail.toList) := by
    rw [Frame.text, String.toList_append, String.toList_append, String.toList_ofList,
      List.append_assoc]
  -- the text begins as its head does, for the head is not empty
  have there : frame.head.toList ≠ [] := fun empty =>
    head.nonempty (String.toList_inj.1 (empty.trans String.toList_empty.symm))
  refine ⟨?_, ?_, ?_⟩
  · intro empty
    rw [empty] at toList_eq
    exact there (List.append_eq_nil_iff.1 toList_eq.symm).1
  · rw [toList_eq, List.head?_append_of_ne_nil _ there]
    exact head.flush
  · exact Frame.not_mem_text head.unbroken tail (by decide) operand

/-- **A statement is one line**, and begins with `commentMark` for a breakpoint only. -/
theorem Instruction.isLine_statement? (h : decode image offset base = .recognized i)
    (stated : i.statement? = some s) :
    IsLine s ∧ (s.toList.take 2 = commentMark ↔ i.mnemonic = "int3") := by
  obtain ⟨opcode, rule, taken, operand, hrule, read, -, eq⟩ := exists_of_decode h
  rw [eq] at stated
  obtain ⟨frame, hframe, rfl⟩ := Rendering.exists_statement_eq hrule read stated
  obtain ⟨head, tail, long, comment⟩ :=
    Rendering.frames_statement _ (Rendering.mem_frames_of hrule hframe)
  have mnemonic_eq : i.mnemonic = rule.mnemonic := by rw [eq]; rfl
  rw [hrule, Option.map_some, Option.some.injEq] at comment
  refine ⟨Frame.isLine_text head tail operand, ?_⟩
  rw [mnemonic_eq, ← comment, Frame.text, String.toList_append, String.toList_append,
    List.append_assoc, List.take_append_of_le_length long]

/-! ### Statements of decoded instructions -/

/-- **A decoded instruction is stated in one of the forms**, since it is one of the table. -/
theorem Instruction.statedAs_of_decode (h : decode image offset base = .recognized i) :
    i.StatedAs i.statement? := by
  obtain ⟨opcode, rule, taken, operand, hrule, read, -, eq⟩ := exists_of_decode h
  rw [eq]
  exact statedAs_statement? hrule read

/-- What is not stated is moved on the stack, or does nothing: `stated = none` for no other
mnemonic. -/
theorem Instruction.StatedAs.eq_none_iff (form : i.StatedAs stated) :
    stated = none ↔ i.mnemonic = "push" ∨ i.mnemonic = "pop" ∨ i.mnemonic = "nop" := by
  cases form with
  | suppressed mnemonic => exact ⟨fun _ => mnemonic, fun _ => rfl⟩
  -- the mnemonic of a condition is one of six, and none of them is one of these three
  | conditional mnemonic =>
    refine ⟨fun none => (nomatch none), fun other => ?_⟩
    rcases other with eq | eq | eq <;> simp [eq] at mnemonic
  | move mnemonic | call mnemonic | jump mnemonic | ret mnemonic | interrupt mnemonic
  | disable mnemonic | enable mnemonic | halt mnemonic | comment mnemonic =>
    refine ⟨fun none => (nomatch none), fun other => ?_⟩
    rw [mnemonic] at other
    exact absurd other (by decide)

/-- **The bytes of an instruction are read back** from `i.address` and its statement, where it has
one. -/
theorem readBack?_statement (h : decode image offset base = .recognized i)
    (stated : i.statement? = some s) :
    Rendering.statement.readBack? i.address s = some i.bytes := by
  obtain ⟨opcode, rule, taken, operand, hrule, read, bytes_eq, eq⟩ := exists_of_decode h
  rw [eq] at stated
  obtain ⟨frame, hframe, rfl⟩ := Rendering.exists_statement_eq hrule read stated
  rw [bytes_eq]
  exact Rendering.faithful_statement.readBack?_eq hrule hframe read

/-- **The label of a call or a jump has digits**, since it has a target. -/
theorem Instruction.targetLabel_ne_empty (h : decode image offset base = .recognized i)
    (goes : i.isCall ∨ i.isBranch) : targetLabel i.target ≠ "" := by
  obtain ⟨opcode, rule, taken, operand, hrule, read, -, eq⟩ := exists_of_decode h
  have kind : rule.mnemonic = "call" ∨ rule.mnemonic.toList.head? = some 'j' := by
    rw [eq] at goes
    exact goes.imp of_decide_eq_true of_decide_eq_true
  obtain ⟨target, rfl⟩ := exists_target_of_goes hrule read kind
  rw [eq]
  intro empty
  have none : (Hex.upper target.toNat).toList = [] := by
    rw [show Hex.upper target.toNat = "" from empty, String.toList_empty]
  rw [Hex.upper, String.toList_ofList] at none
  -- even zero is written with a digit
  exact Hex.digits_ne_nil .upper _ none

/-- **Statements are faithful.** Every decoded instruction is stated in the form of its mnemonic,
in one line that is not indented, unless it moves data on the stack or does nothing; only a
breakpoint becomes a comment, and no label is empty. Two decoded instructions that have the same
address and the same statement are the same, wherever they were decoded. -/
theorem decode_determined_by_statement :
    (∀ (image : Image) (offset : Fin image.size) (base : Address) (i : Instruction),
      decode image offset base = .recognized i →
        i.StatedAs i.statement? ∧
        (i.statement? = none ↔ i.mnemonic = "push" ∨ i.mnemonic = "pop" ∨ i.mnemonic = "nop") ∧
        (∀ s, i.statement? = some s →
          IsLine s ∧ (s.toList.take 2 = commentMark ↔ i.mnemonic = "int3")) ∧
        (i.isCall ∨ i.isBranch → targetLabel i.target ≠ "")) ∧
    ∀ (first second : Image) (m : Fin first.size) (n : Fin second.size) (a b : Address)
      (i j : Instruction) (s : String), decode first m a = .recognized i →
        decode second n b = .recognized j → i.address = j.address →
          i.statement? = some s → j.statement? = some s → i = j := by
  constructor
  · intro image offset base i h
    have form := Instruction.statedAs_of_decode h
    exact ⟨form, form.eq_none_iff, fun s stated => Instruction.isLine_statement? h stated,
      Instruction.targetLabel_ne_empty h⟩
  · intro first second m n a b i j s h h' address_eq stated stated'
    -- both statements are read back at one address, and come from one text
    have read := readBack?_statement h stated
    rw [address_eq, readBack?_statement h' stated'] at read
    exact eq_of_decode h h' address_eq (Option.some.inj read).symm

/-- A jump at the address `0xFFFFFFFF`, where two images with different bases place it. -/
theorem decode_determined_by_statement_backward :
    ∃ i j, decode #[0x90, 0x74, 0xFD] ⟨1, by decide⟩ 0xFFFFFFFE = .recognized i ∧
      decode #[0x74, 0xFD, 0xE8] ⟨0, by decide⟩ 0xFFFFFFFFFFFFFFFF = .recognized j ∧
      i.address = j.address ∧ i.statement? = some "if (condition_jz) goto loc_FFFFFFFE;" ∧
      j.statement? = i.statement? ∧ i = j ∧ targetLabel i.target ≠ "" := by
  have decoded : decode #[0x90, 0x74, 0xFD] ⟨1, by decide⟩ 0xFFFFFFFE =
      .recognized .backward := by decide +kernel
  have elsewhere : decode #[0x74, 0xFD, 0xE8] ⟨0, by decide⟩ 0xFFFFFFFFFFFFFFFF =
      .recognized .backward := by decide +kernel
  have stated : Instruction.backward.statement? =
      some "if (condition_jz) goto loc_FFFFFFFE;" := by decide +kernel
  obtain ⟨forms, determined⟩ := decode_determined_by_statement
  obtain ⟨-, -, -, label⟩ := forms _ _ _ _ decoded
  exact ⟨.backward, .backward, decoded, elsewhere, rfl, stated, rfl,
    determined _ _ _ _ _ _ _ _ _ decoded elsewhere rfl stated stated,
    label (Or.inr (by decide))⟩

end LinearSweep
