import LinearSweep.Proofs.Destination
import LinearSweep.Proofs.Records

/-! # Texts from which instructions are read back

An instruction is shown as a text that its opcode decides, with the digits of its operand in it. If
no opcode has a text that another one begins with, then the opcode is found again, and the digits
give the bytes of the operand. So a rendering of this kind hides nothing.

* **`Operand.digits`** are the digits that an operand shows, **`OperandForm.recover?`** gets the
  bytes of the operand back from them.
* **`Rendering`** gives the text in front of the digits and the one behind them, and
  **`Rendering.readBack?`** reads an instruction from its text and its address.
* **`Rendering.Faithful`** is the condition on the texts.
* **`Rendering.Faithful.readBack?_eq`**: under it the bytes are found again.
* **`eq_of_decode`**: decoded instructions are the same if their addresses and their bytes are. -/

namespace LinearSweep

open Text

variable {address base : Address} {opcode : UInt8} {rule : Rule} {form : OperandForm}
  {taken : List UInt8} {operand : Operand} {i : Instruction} {image : Image}

/-! ### Operands by their digits -/

/-- **The digits that an operand shows**; a register shows none. -/
def Operand.digits : Operand → List Char
  | .absent | .register _ => []
  | .moveByte _ value | .immediate value => Hex.padded 2 value.toNat
  | .moveWord _ value => Hex.padded 4 value.toNat
  | .destination target => Hex.digits .upper target.toNat

/-- All of them are digits, those that fill included. -/
theorem Operand.isSome_of_mem_digits {c : Char} (mem : c ∈ operand.digits) :
    (Hex.digitValue? c).isSome := by
  -- first the digits of a number, then those with zeros in front
  have written : ∀ n, c ∈ Hex.digits .upper n → (Hex.digitValue? c).isSome := by
    intro n mem
    obtain ⟨d, small, rfl⟩ := Hex.exists_of_mem_digits .upper mem
    rw [Hex.digitValue?_digit .upper small]
    rfl
  have padded : ∀ width n, c ∈ Hex.padded width n → (Hex.digitValue? c).isSome := by
    intro width n mem
    rw [Hex.padded, List.leftpad, List.mem_append] at mem
    rcases mem with zero | mem
    · rw [List.eq_of_mem_replicate zero]
      decide
    · exact written n mem
  cases operand with
  | absent | register => cases mem
  | moveByte _ value | immediate value => exact padded 2 _ mem
  | moveWord _ value => exact padded 4 _ mem
  | destination target => exact written _ mem

/-- What is shown of an operand in front of its digits, where `number` is that of its register. -/
def OperandForm.lead (form : OperandForm) (number : Fin 8) : String :=
  match form with
  | .bare => ""
  | .register => wordRegisters.get number
  | .moveByte => byteRegisters.get number ++ ", 0x"
  | .moveWord => wordRegisters.get number ++ ", 0x"
  | .immediate | .shortBranch | .nearBranch => "0x"

/-- Something is shown of every operand that there is, if only `0x`. -/
theorem OperandForm.lead_ne_empty (there : form ≠ .bare) (number : Fin 8) :
    form.lead number ≠ "" := by
  have all : ∀ number, form.lead number = "" → form = .bare := by
    cases form <;> decide +kernel
  exact mt (all number) there

/-- An instruction of the form `.bare` has no operand. -/
theorem eq_absent_of_bare (read : form.read? address opcode taken = some operand)
    (bare : form = .bare) : operand = .absent := by
  rw [bare] at read
  match taken, read with
  | [], rfl => rfl

/-- **An operand is shown as its lead and its digits**, `form.lead` and `operand.digits`. -/
theorem OperandForm.text_eq (read : form.read? address opcode taken = some operand) :
    operand.text = form.lead (registerNumber opcode) ++ String.ofList operand.digits := by
  match form, taken, read with
  | .bare, [], rfl => rfl
  | .register, [], rfl => exact String.append_empty.symm
  | .moveByte, [_], rfl | .moveWord, [_, _], rfl =>
    have mark : ", 0x" = ", " ++ "0x" := rfl
    simp only [Operand.text, lead, Operand.digits, Hex.markedPadded, mark, String.append_assoc]
    rfl
  | .immediate, [_], rfl | .shortBranch, [_], rfl | .nearBranch, [_, _], rfl => rfl

/-- The number that an operand holds, from the one that it shows: of a destination it holds the
distance from the end of the instruction, modulo `256 ^ form.length`. -/
def OperandForm.held (form : OperandForm) (address : Address) (shown : Nat) : Nat :=
  if form.HasDisplacement then
    ((shown - (address.toNat + (1 + form.length : Nat)) : Int) % (256 ^ form.length : Nat)).toNat
  else shown

/-- **The bytes of an operand from the digits that it shows**; an operand without bytes needs no
digits. -/
def OperandForm.recover? (form : OperandForm) (address : Address) (digits : List Char) :
    Option (List UInt8) :=
  if form.length = 0 then some []
  else (Hex.value? digits).map fun shown =>
    ByteOrder.littleBytes form.length (form.held address shown)

/-- A destination gives back the displacement that led to it, although it shows only where it leads
to. -/
theorem OperandForm.HasDisplacement.held_branchTarget (displaced : form.HasDisplacement)
    (address : Address) (length_eq : taken.length = form.length) :
    form.held address
        (Address.branchTarget address (1 + form.length) (signedValue taken)).toNat =
      ByteOrder.little.value taken := by
  have fits := ByteOrder.value_little_lt taken
  have leads := Address.toNat_branchTarget address (1 + form.length) (signedValue taken)
  have congruent : signedValue taken % (256 ^ taken.length : Nat) =
      (ByteOrder.little.value taken : Int) % (256 ^ taken.length : Nat) := Int.bmod_emod
  rw [held, if_pos displaced]
  rw [length_eq] at fits congruent
  rw [Address.count] at leads
  generalize signedValue taken = distance at *
  -- 2^32 is a multiple of what a displacement can hold
  rcases displaced with rfl | rfl
  · simp only [OperandForm.length] at *
    omega
  · simp only [OperandForm.length] at *
    omega

/-- **The digits of an operand give its bytes back**: `recover?` finds what was `taken`. -/
theorem OperandForm.recover?_digits (read : form.read? address opcode taken = some operand) :
    form.recover? address operand.digits = some taken := by
  have length_eq : taken.length = form.length := by
    rw [← isSome_read?_iff form address opcode taken, read]
    rfl
  rw [recover?]
  by_cases empty : form.length = 0
  · rw [if_pos empty, List.eq_nil_of_length_eq_zero (length_eq.trans empty)]
  · -- the digits show a number, and what the operand holds of it is the value of its bytes
    obtain ⟨shown, shows, held_eq⟩ : ∃ shown, Hex.value? operand.digits = some shown ∧
        form.held address shown = ByteOrder.little.value taken := by
      by_cases displaced : form.HasDisplacement
      · rw [displaced.read?_eq read]
        exact ⟨_, Hex.value?_digits .upper _, displaced.held_branchTarget address length_eq⟩
      · match form, taken, read with
        | .moveByte, [value], rfl => exact ⟨value.toNat, Hex.value?_leftpad_digits .upper 2 _, rfl⟩
        | .immediate, [value], rfl => exact ⟨value.toNat, Hex.value?_leftpad_digits .upper 2 _, rfl⟩
        | .moveWord, [low, high], rfl =>
          refine ⟨_, Hex.value?_leftpad_digits .upper 4 _, ?_⟩
          rw [held, if_neg displaced, toNat_wordOf]
          rfl
        | .shortBranch, [_], rfl => exact absurd (Or.inl rfl) displaced
        | .nearBranch, [_, _], rfl => exact absurd (Or.inr rfl) displaced
    rw [if_neg empty, shows, Option.map_some, held_eq, ← length_eq, ByteOrder.littleBytes_value]

/-! ### Renderings -/

/-- **The texts around the digits of an operand.** -/
structure Frame where
  /-- The text in front of them. -/
  head : String
  /-- The text behind them. -/
  tail : String

/-- The text with digits in it, between `head` and `tail`. -/
def Frame.text (frame : Frame) (digits : List Char) : String :=
  frame.head ++ String.ofList digits ++ frame.tail

/-- **A way to show instructions**: the frame of an opcode and its rule. An instruction without a
frame is not shown. -/
def Rendering := UInt8 → Rule → Option Frame

namespace Rendering

/-- **All opcodes that are shown**, each with its frame. -/
def frames (r : Rendering) : List (UInt8 × Frame) :=
  (List.range 256).filterMap fun n =>
    ((Rule.ofOpcode? (UInt8.ofNat n)).bind (r (UInt8.ofNat n))).map (UInt8.ofNat n, ·)

/-- What is listed are the frames of opcodes that have a rule and are shown. -/
theorem mem_frames {r : Rendering} {frame : Frame} :
    (opcode, frame) ∈ r.frames ↔ (Rule.ofOpcode? opcode).bind (r opcode) = some frame := by
  rw [frames, List.mem_filterMap]
  constructor
  · rintro ⟨n, _, listed⟩
    obtain ⟨_, found, eq⟩ := Option.map_eq_some_iff.1 listed
    obtain ⟨rfl, rfl⟩ := Prod.mk.inj eq
    exact found
  · intro found
    refine ⟨opcode.toNat, List.mem_range.2 opcode.toNat_lt, ?_⟩
    rw [UInt8.ofNat_toNat, found, Option.map_some]

/-- The frame of an opcode with a rule is listed. -/
theorem mem_frames_of {r : Rendering} {frame : Frame} (hrule : Rule.ofOpcode? opcode = some rule)
    (hframe : r opcode rule = some frame) : (opcode, frame) ∈ r.frames := by
  rw [mem_frames, hrule, Option.bind_some, hframe]

/-- **The digits that a text begins with**; they end where a character is none. -/
def leadingDigits (cs : List Char) : List Char := cs.takeWhile fun c => (Hex.digitValue? c).isSome

/-- **Read an instruction back** from its text and its address: the opcode by the text in front, and
the bytes of its operand by the digits behind it. -/
def readBack? (r : Rendering) (address : Address) (text : String) : Option (List UInt8) := do
  let (opcode, frame) ← r.frames.find? fun shown => shown.2.head.toList.isPrefixOf text.toList
  let rule ← Rule.ofOpcode? opcode
  let digits := leadingDigits (text.toList.drop frame.head.toList.length)
  let operand ← rule.form.recover? address digits
  return opcode :: operand

/-- **A rendering that hides nothing**, by two conditions on its finitely many frames. -/
structure Faithful (r : Rendering) : Prop where
  /-- No opcode has a text in front that the one of another begins with. -/
  separate : ∀ first ∈ r.frames, ∀ second ∈ r.frames,
    first.2.head.toList <+: second.2.head.toList → first.1 = second.1
  /-- No text behind the digits begins with a digit. -/
  closed : ∀ shown ∈ r.frames, leadingDigits shown.2.tail.toList = []

namespace Faithful

variable {r : Rendering} {frame : Frame}

/-- The opcode of a text is found by its head, since the first frame that fits is the only one. -/
theorem find?_frames (faithful : r.Faithful) (listed : (opcode, frame) ∈ r.frames)
    (digits : List Char) :
    r.frames.find? (fun shown => shown.2.head.toList.isPrefixOf (frame.text digits).toList) =
      some (opcode, frame) := by
  have heads : frame.head.toList <+: (frame.text digits).toList := by
    rw [Frame.text, String.toList_append, String.toList_append, List.append_assoc]
    exact List.prefix_append _ _
  -- the frame of the text is listed and fits, so one is found; it remains that it is this one
  cases found : r.frames.find?
      (fun shown => shown.2.head.toList.isPrefixOf (frame.text digits).toList) with
  | none =>
    have missed := List.find?_eq_none.1 found (opcode, frame) listed
    exact absurd (List.isPrefixOf_iff_prefix.2 heads) missed
  | some other =>
    obtain ⟨code, shown⟩ := other
    have other_listed := List.mem_of_find?_eq_some found
    have begins := List.find?_some found
    have other_heads := List.isPrefixOf_iff_prefix.1 begins
    -- of two heads of one text the shorter begins the longer, so they belong to one opcode
    have same : code = opcode := by
      rcases List.prefix_or_prefix_of_prefix other_heads heads with before | before
      · exact faithful.separate _ other_listed _ listed before
      · exact (faithful.separate _ listed _ other_listed before).symm
    subst same
    have frame_eq := (mem_frames.1 other_listed).symm.trans (mem_frames.1 listed)
    rw [Option.some.inj frame_eq]

/-- The digits behind the head are those of the operand, as the tail begins with none. -/
theorem leadingDigits_eq (faithful : r.Faithful) (listed : (opcode, frame) ∈ r.frames)
    (operand : Operand) :
    leadingDigits ((frame.text operand.digits).toList.drop frame.head.toList.length) =
      operand.digits := by
  have ended : leadingDigits frame.tail.toList = [] := faithful.closed _ listed
  rw [Frame.text, String.toList_append, String.toList_append, List.append_assoc, List.drop_left,
    String.toList_ofList, leadingDigits,
    List.takeWhile_append_of_pos fun c mem => Operand.isSome_of_mem_digits mem]
  rw [leadingDigits] at ended
  rw [ended, List.append_nil]

/-- **The bytes of an instruction are read back from its text and its address**: `opcode :: taken`.
-/
theorem readBack?_eq (faithful : r.Faithful) (hrule : Rule.ofOpcode? opcode = some rule)
    (hframe : r opcode rule = some frame)
    (read : rule.form.read? address opcode taken = some operand) :
    r.readBack? address (frame.text operand.digits) = some (opcode :: taken) := by
  have listed := mem_frames_of hrule hframe
  rw [readBack?, faithful.find?_frames listed]
  simp only [Option.bind_eq_bind, Option.bind_some, Option.pure_def, hrule,
    faithful.leadingDigits_eq listed, OperandForm.recover?_digits read]

end Faithful

end Rendering

/-! ### Decoded instructions -/

/-- **What a decoded instruction is made of**: a rule of the table, and as many bytes as it takes,
from which its operand was read. The image no longer matters. -/
theorem exists_of_decode {offset : Fin image.size} (h : decode image offset base = .recognized i) :
    ∃ opcode rule taken operand, Rule.ofOpcode? opcode = some rule ∧
      rule.form.read? i.address opcode taken = some operand ∧ i.bytes = opcode :: taken ∧
      i = rule.instruction i.address opcode taken operand := by
  obtain ⟨rule, operand, hrule, -, read, eq⟩ | ⟨-, eq⟩ := decode_cases image offset base
  · rw [eq] at h
    obtain rfl := Entry.recognized.inj h
    have length_eq : (image.following offset rule.form.length).length = rule.form.length := by
      rw [← OperandForm.isSome_read?_iff, read]
      rfl
    exact ⟨_, rule, _, operand, hrule, read, rule.bytes_instruction _ _ operand length_eq, rfl⟩
  · rw [eq] at h
    cases h

/-- **Decoded instructions are the same if their addresses and their bytes are**, wherever they
come from. -/
theorem eq_of_decode {image' : Image} {offset : Fin image.size} {offset' : Fin image'.size}
    {base' : Address} {j : Instruction} (h : decode image offset base = .recognized i)
    (h' : decode image' offset' base' = .recognized j) (address_eq : i.address = j.address)
    (bytes_eq : i.bytes = j.bytes) : i = j := by
  obtain ⟨opcode, rule, taken, operand, hrule, read, held, eq⟩ := exists_of_decode h
  obtain ⟨opcode', rule', taken', operand', hrule', read', held', eq'⟩ := exists_of_decode h'
  -- the opcode gives the rule, and with the address the rule reads one operand
  obtain ⟨rfl, rfl⟩ := List.cons.inj (held.symm.trans (bytes_eq.trans held'))
  obtain rfl : rule = rule' := Option.some.inj (hrule.symm.trans hrule')
  rw [← address_eq] at read' eq'
  obtain rfl : operand = operand' := Option.some.inj (read.symm.trans read')
  exact eq.trans eq'.symm

end LinearSweep
