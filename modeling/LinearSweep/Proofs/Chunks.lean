import LinearSweep.Proofs.Reading
import LinearSweep.Proofs.Swept

/-! # Programs put together from chunks

A program is written as a row of chunks: instructions with all their bytes, and bytes that are no
opcodes. A sweep of the row takes it apart into the same chunks. An operand may hold any bytes, also
those of opcodes, since it is never entered.

* **`Chunk`** is one such piece, **`Chunk.concat`** are the bytes of a row of them.
* **`Chunk.ReadAs`** says that an entry is what a chunk should be read as.
* **`Chunk.readAs_decode`**: a chunk is decoded as itself, whatever stands behind it.
* **`Chunk.exists_path`**: so is a row of chunks.
* **`Chunk.concat_injective`**: no two rows of chunks have the same bytes. -/

namespace LinearSweep

/-! ### Chunks -/

/-- **A piece of a program**, which carries the proof that its bytes are what it says. -/
inductive Chunk where
  /-- An instruction: an opcode and as many bytes as its rule takes. -/
  | instruction (opcode : UInt8) (rule : Rule) (operand : List UInt8)
      (rule_eq : Rule.ofOpcode? opcode = some rule)
      (length_eq : operand.length = rule.form.length)
  /-- A byte that is no opcode, so `Rule.ofOpcode?` has no rule for it. -/
  | stray (byte : UInt8) (rule_eq : Rule.ofOpcode? byte = none)

namespace Chunk

/-- **The bytes of a chunk**: an opcode with its operand, or the one stray byte. -/
def bytes : Chunk → List UInt8
  | .instruction opcode _ operand _ _ => opcode :: operand
  | .stray byte _ => [byte]

/-- A chunk has a byte, so a row of chunks goes forward. -/
theorem length_bytes_pos (chunk : Chunk) : 0 < chunk.bytes.length := by
  cases chunk <;> exact Nat.succ_pos _

/-- **The bytes of a row of chunks**, one behind the other. -/
def concat (chunks : List Chunk) : List UInt8 := chunks.flatMap bytes

@[simp] theorem concat_nil : concat [] = [] := rfl

@[simp] theorem concat_cons (chunk : Chunk) (chunks : List Chunk) :
    concat (chunk :: chunks) = chunk.bytes ++ concat chunks := rfl

/-- **What a chunk should be read as**: an instruction as `.recognized` with the same bytes, and any
other byte as `.skipped`. -/
inductive ReadAs : Chunk → Entry → Prop where
  /-- An instruction is recognized, with its mnemonic and its bytes. -/
  | recognized {opcode : UInt8} {rule : Rule} {operand : List UInt8}
      {rule_eq : Rule.ofOpcode? opcode = some rule}
      {length_eq : operand.length = rule.form.length} {i : Instruction}
      (mnemonic_eq : i.mnemonic = rule.mnemonic) (bytes_eq : i.bytes = opcode :: operand) :
      ReadAs (.instruction opcode rule operand rule_eq length_eq) (.recognized i)
  /-- A byte that is no opcode is skipped. -/
  | skipped {byte : UInt8} {rule_eq : Rule.ofOpcode? byte = none} (address : Address) :
      ReadAs (.stray byte rule_eq) (.skipped address byte)

/-- An entry has the bytes of the chunk that it is read from, `chunk.bytes`. -/
theorem ReadAs.bytes_eq {chunk : Chunk} {entry : Entry} (readAs : chunk.ReadAs entry) :
    entry.bytes = chunk.bytes := by
  cases readAs with
  | recognized _ bytes_eq => exact bytes_eq
  | skipped => rfl

/-- An entry is as long as the chunk that it is read from, `chunk.bytes.length`. -/
theorem ReadAs.size_eq {chunk : Chunk} {entry : Entry} (readAs : chunk.ReadAs entry) :
    entry.size = chunk.bytes.length := by
  rw [← entry.length_bytes, readAs.bytes_eq]

/-- Entries cover as many bytes as the row of chunks that they are read from, which is `(concat
chunks).length`. -/
theorem total_eq {chunks : List Chunk} {entries : List Entry}
    (readAs : List.Forall₂ ReadAs chunks entries) :
    Entry.total entries = (concat chunks).length := by
  induction readAs with
  | nil => rfl
  | cons first _ ih =>
    rw [Entry.total_cons, concat_cons, List.length_append, first.size_eq, ih]

/-- **An entry is read from one chunk at most**: `ReadAs` is left unique. -/
theorem ReadAs.unique {first second : Chunk} {entry : Entry} (readAs : first.ReadAs entry)
    (other : second.ReadAs entry) : first = second := by
  cases readAs with
  | @recognized opcode rule _ rule_eq _ _ _ bytes_eq =>
    cases other with
    | @recognized _ rule' _ rule_eq' _ _ _ bytes_eq' =>
      -- the bytes give the opcode and the operand, and the opcode gives the rule
      obtain ⟨rfl, rfl⟩ := List.cons.inj (bytes_eq.symm.trans bytes_eq')
      obtain rfl : rule = rule' := Option.some.inj (rule_eq.symm.trans rule_eq')
      rfl
  | skipped =>
    cases other with
    | skipped => rfl

/-! ### Reading a program -/

variable {image : Image} {after : List UInt8}

/-- **A chunk is decoded as itself**, whatever stands `after` it. -/
theorem readAs_decode (chunk : Chunk) (offset : Fin image.size) (base : Address)
    (stands : image.toList.drop offset = chunk.bytes ++ after) :
    chunk.ReadAs (decode image offset base) := by
  rw [Image.drop_eq_cons] at stands
  cases chunk with
  | instruction opcode rule operand rule_eq length_eq =>
    obtain ⟨byte_eq, behind⟩ := List.cons.inj stands
    obtain ⟨rule', operand', hrule, within, -, eq⟩ | ⟨short, eq⟩ := decode_cases image offset base
    · obtain rfl : rule = rule' := Option.some.inj (rule_eq.symm.trans (byte_eq ▸ hrule))
      have taken : image.following offset rule.form.length = operand := by
        rw [Image.following_eq, behind, ← length_eq]
        exact List.take_left
      rw [eq, taken, byte_eq]
      exact .recognized rfl (rule.bytes_instruction _ opcode operand' length_eq)
    · -- the image holds all of the operand, so the rule is not short of bytes
      have length := congrArg List.length behind
      rw [List.length_drop, Array.length_toList, List.append_eq, List.length_append,
        length_eq] at length
      have past := short rule (byte_eq.symm ▸ rule_eq)
      rw [Rule.encodedLength] at past
      omega
  | stray byte rule_eq =>
    obtain ⟨byte_eq, -⟩ := List.cons.inj stands
    obtain ⟨rule, operand, hrule, -⟩ | ⟨-, eq⟩ := decode_cases image offset base
    · rw [byte_eq, rule_eq] at hrule
      cases hrule
    · rw [eq, byte_eq]
      exact .skipped _

/-- **A row of chunks is read chunk by chunk**, whatever stands before and behind it: the entries
are a path over `concat chunks`, and each is `ReadAs` its chunk. -/
theorem exists_path (chunks : List Chunk) (base : Address) {start : Nat}
    (start_le : start ≤ image.size)
    (stands : image.toList.drop start = concat chunks ++ after) :
    ∃ entries,
      Decoder.Path decode image base start entries (start + (concat chunks).length) ∧
      List.Forall₂ ReadAs chunks entries := by
  -- the start moves along the row, and what stands from there on is the rest of the row
  induction chunks generalizing start with
  | nil => exact ⟨[], .nil start, .nil⟩
  | cons chunk chunks ih =>
    rw [concat_cons, List.append_assoc] at stands
    have within : start < image.size := by
      have length := congrArg List.length stands
      rw [List.length_drop, Array.length_toList, List.length_append] at length
      have pos := chunk.length_bytes_pos
      omega
    have readAs := chunk.readAs_decode ⟨start, within⟩ base stands
    have size_eq := readAs.size_eq
    have behind : image.toList.drop (start + chunk.bytes.length) = concat chunks ++ after := by
      rw [← List.drop_drop, stands, List.drop_left]
    have end_le := decode_end_le image ⟨start, within⟩ base
    rw [size_eq] at end_le
    obtain ⟨entries, path, others⟩ := ih end_le behind
    refine ⟨decode image ⟨start, within⟩ base :: entries, ?_, .cons readAs others⟩
    rw [concat_cons, List.length_append, ← Nat.add_assoc, Decoder.path_cons_iff, size_eq]
    exact ⟨within, (next_decode ..).symm, path⟩

/-- **No two rows of chunks have the same bytes.** The sweep of them is one, and both rows are what
it reads. -/
theorem concat_injective : Function.Injective concat := by
  intro first second same
  have stands : ∀ chunks : List Chunk,
      (concat chunks).toArray.toList.drop 0 = concat chunks ++ [] := by
    intro chunks
    rw [List.drop_zero, List.append_nil]
  obtain ⟨entries, path, readAs⟩ := exists_path first 0 (Nat.zero_le _) (stands first)
  obtain ⟨entries', path', readAs'⟩ := exists_path second 0 (Nat.zero_le _) (stands second)
  -- both rows are read as the one path that there is through the bytes
  rw [← same] at path'
  have swept : Decoder.Swept decode (concat first).toArray 0 (0 + (concat first).length) 0 entries
      (0 + (concat first).length) := ⟨path, le_rfl, Or.inl rfl⟩
  obtain ⟨rfl, -⟩ := swept.unique ⟨path', le_rfl, Or.inl rfl⟩
  have leftUnique : Relator.LeftUnique ReadAs := fun _ _ _ => ReadAs.unique
  exact List.left_unique_forall₂' leftUnique readAs readAs'

end Chunk

/-- **A sweep takes a program apart as it was put together.** Where a session covers a row of
chunks, it gives one entry for each of them, in their order and with their bytes. Each entry
begins where its chunk does, never inside another one, and the listing stops behind the last. -/
theorem Session.run_decode_concat (before after : List UInt8) (chunks : List Chunk)
    (base : Address) (short : (before ++ Chunk.concat chunks ++ after).length < 2 ^ 64) :
    ∃ l, run ⟨before.length, base, (Chunk.concat chunks).length⟩ decode
        (before ++ Chunk.concat chunks ++ after).toArray = .ok l ∧
      List.Forall₂ Chunk.ReadAs chunks l.entries ∧
      (∀ i, l.offset i = before.length + (Chunk.concat (chunks.take i)).length) ∧
      l.stop = before.length + (Chunk.concat chunks).length := by
  set image : Image := (before ++ Chunk.concat chunks ++ after).toArray with image_eq
  have size_eq : image.size = before.length + (Chunk.concat chunks).length + after.length := by
    rw [image_eq, List.size_toArray, List.length_append, List.length_append]
  have stands : image.toList.drop before.length = Chunk.concat chunks ++ after := by
    rw [image_eq, List.append_assoc, List.drop_left]
  have start_le : before.length ≤ image.size := by omega
  obtain ⟨entries, path, readAs⟩ := Chunk.exists_path chunks base start_le stands
  -- neither the end of the image nor the largest offset comes before the end of the row
  have limit_eq : limit ⟨before.length, base, (Chunk.concat chunks).length⟩ image =
      before.length + (Chunk.concat chunks).length := by
    rw [← List.size_toArray, ← image_eq] at short
    simp only [limit, Offset.add, Offset.largest]
    omega
  -- the row ends at the limit, so its path is all of the sweep
  have ran : run ⟨before.length, base, (Chunk.concat chunks).length⟩ decode image =
      .ok ⟨before.length, base, entries, before.length + (Chunk.concat chunks).length⟩ := by
    rw [run_eq_ok_iff short, limit_eq]
    exact ⟨start_le, rfl, rfl, path, le_rfl, Or.inl rfl⟩
  refine ⟨_, ran, readAs, fun i => ?_, rfl⟩
  rw [Listing.offset, Chunk.total_eq (List.forall₂_take i readAs)]

/-- A call and an interrupt whose operands look like opcodes, and between them the byte `0x0F`,
which is none. -/
def Chunk.lookalikes : List Chunk :=
  [.instruction 0xE8 ⟨"call", .nearBranch⟩ [0xC3, 0xB8] rfl rfl,
   .stray 0x0F rfl,
   .instruction 0xCD ⟨"int", .immediate⟩ [0xE8] rfl rfl]

/-- Before the program stands the opcode `0xB8`, which would take the call for its operand, and
behind it an instruction that is not covered any more. -/
theorem Session.run_decode_concat_lookalikes :
    ([0xB8] ++ Chunk.concat Chunk.lookalikes ++ [0x90]).length < 2 ^ 64 ∧
    ∃ l, run ⟨1, 0xFFFFFFFF, 6⟩ decode #[0xB8, 0xE8, 0xC3, 0xB8, 0x0F, 0xCD, 0xE8, 0x90] = .ok l ∧
      List.Forall₂ Chunk.ReadAs Chunk.lookalikes l.entries ∧
      (∀ i, l.offset i = 1 + (Chunk.concat (Chunk.lookalikes.take i)).length) ∧
      l.stop = 7 :=
  ⟨by decide, run_decode_concat [0xB8] [0x90] Chunk.lookalikes 0xFFFFFFFF (by decide)⟩

end LinearSweep
