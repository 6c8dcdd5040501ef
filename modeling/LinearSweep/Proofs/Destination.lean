import LinearSweep.Container.Fields
import LinearSweep.Proofs.Lossless

/-! # Where calls and jumps go

The target of a branch and the address of an entry are computed apart: a target from the address
of the branch, which is wrapped already, its size and its displacement, and an address from the
base and the offset of an entry. Over the integers both are the base plus a place in the image,
modulo 2^32, so a target names the entry that begins at its place.

* **`signedValue`** is the two's complement value of bytes, **`Instruction.displacement`** that of
  the bytes behind an opcode.
* **`Rule.hasDisplacement_iff`**: the table gives a displacement to calls and jumps only.
* **`target_of_decode`**: a call or jump goes as far behind its end as its displacement says.
* **`Address.ofOffset_eq_iff`**: addresses are the same if their places are, modulo 2^32.
* **`Decoder.Path.nodup_address`**: up to 2^32 bytes hold no address twice. -/

namespace LinearSweep

variable {address base : Address} {opcode : UInt8} {image : Image}

/-! ### Displacements -/

/-- **The two's complement value of some bytes**, the lowest first: their number, taken from `256 ^
bytes.length` down to the range around zero. -/
def signedValue (bytes : List UInt8) : Int :=
  Int.bmod (ByteOrder.little.value bytes) (256 ^ bytes.length)

/-- The value of one byte is its `signedByte`. -/
theorem signedValue_singleton (byte : UInt8) : signedValue [byte] = signedByte byte := by
  unfold signedValue signedByte
  simp only [ByteOrder.value, List.foldr_cons, List.foldr_nil, Nat.mul_zero, Nat.add_zero,
    List.length_singleton, Nat.pow_one]

/-- The value of two bytes is that of the word that they make up, `signedWord (wordOf low high)`. -/
theorem signedValue_pair (low high : UInt8) :
    signedValue [low, high] = signedWord (wordOf low high) := by
  unfold signedValue signedWord
  simp only [ByteOrder.value, List.foldr_cons, List.foldr_nil, Nat.mul_zero, Nat.add_zero,
    List.length_cons, List.length_nil, Nat.reduceAdd, Nat.reducePow, toNat_wordOf]

/-- **The displacement of a branch**: the signed value of `i.bytes.tail`, the bytes behind the
opcode. -/
def Instruction.displacement (i : Instruction) : Int := signedValue i.bytes.tail

/-- An operand of this form is a displacement, of one byte or of two. -/
def OperandForm.HasDisplacement (form : OperandForm) : Prop :=
  form = .shortBranch ∨ form = .nearBranch

instance (form : OperandForm) : Decidable form.HasDisplacement :=
  inferInstanceAs (Decidable (_ ∨ _))

/-- **A displacement is read as the destination that it leads to**, counted from the end of the
instruction at `address + (1 + form.length)`. -/
theorem OperandForm.HasDisplacement.read?_eq {form : OperandForm} (h : form.HasDisplacement)
    {taken : List UInt8} {operand : Operand}
    (hread : form.read? address opcode taken = some operand) :
    operand = .destination
      (Address.branchTarget address (1 + form.length) (signedValue taken)) := by
  rcases h with rfl | rfl
  · match taken, hread with
    | [byte], rfl => rw [signedValue_singleton]; rfl
  · match taken, hread with
    | [low, high], rfl => rw [signedValue_pair]; rfl

/-- **The table gives a displacement to calls and jumps**, whose mnemonics are `call` and those in
`j`, and to no other instruction. -/
theorem Rule.hasDisplacement_iff {rule : Rule} (h : Rule.ofOpcode? opcode = some rule) :
    rule.form.HasDisplacement ↔
      rule.mnemonic = "call" ∨ rule.mnemonic.toList.head? = some 'j' := by
  have listed : ∀ block ∈ opcodeBlocks, block.rule.form.HasDisplacement ↔
      block.rule.mnemonic = "call" ∨ block.rule.mnemonic.toList.head? = some 'j' := by
    decide
  obtain ⟨block, found, rfl⟩ := Option.map_eq_some_iff.1 h
  exact listed block (List.mem_of_find?_eq_some found)

/-! ### Targets -/

/-- **A call or jump goes as far behind its end as its displacement says**, in either direction:
`branchTarget` of its address, `i.size` and `i.displacement`. -/
theorem target_of_decode {offset : Fin image.size} {i : Instruction}
    (h : decode image offset base = .recognized i) (goes : i.isCall ∨ i.isBranch) :
    i.target =
      some (Address.branchTarget (Address.ofOffset base offset) i.size i.displacement) := by
  obtain ⟨rule, operand, hrule, within, hread, eq⟩ | ⟨-, eq⟩ := decode_cases image offset base
  · have length : (image.following offset rule.form.length).length = rule.form.length := by
      rw [Image.length_following]
      rw [Rule.encodedLength] at within
      omega
    have bytes_eq := rule.bytes_instruction (Address.ofOffset base offset) (image.byte offset)
      operand length
    rw [eq] at h
    obtain rfl := Entry.recognized.inj h
    have displaced : rule.form.HasDisplacement := by
      -- whether it is a call or a jump goes by the mnemonic, which the table gives along with the
      -- form
      rw [Rule.hasDisplacement_iff hrule]
      exact goes.imp of_decide_eq_true of_decide_eq_true
    rw [Instruction.displacement, bytes_eq, List.tail_cons]
    show operand.target? = _
    rw [displaced.read?_eq hread]
    rfl
  · rw [eq] at h
    cases h

/-- The target of a branch is the base plus the place that it leads to, modulo `2 ^ 32`, over the
integers. -/
theorem Address.toNat_branchTarget_ofOffset (base : Address) (offset length : Nat)
    (displacement : Int) :
    ((branchTarget (ofOffset base offset) length displacement).toNat : Int) =
      (base.toNat + (offset + length + displacement)) % 2 ^ 32 := by
  rw [toNat_branchTarget, toNat_ofOffset, count]
  omega

/-- **An offset has a given address exactly if it is congruent to the place of that address**, which
may be negative. -/
theorem Address.ofOffset_eq_iff {target : Address} {place : Int}
    (leads : (target.toNat : Int) = (base.toNat + place) % 2 ^ 32) (offset : Nat) :
    ofOffset base offset = target ↔ (offset : Int) % 2 ^ 32 = place % 2 ^ 32 := by
  rw [← UInt64.toNat_inj, toNat_ofOffset, count]
  omega

/-! ### Addresses of a listing -/

namespace Decoder.Path

variable {l : Listing} (path : Path decode image l.base l.start l.entries l.stop)

include path

/-- An entry has the address of its offset: `entries[k]` that of `l.offset k`. -/
theorem address_getElem (k : Nat) (hk : k < l.entries.length) :
    l.entries[k].address = Address.ofOffset l.base (l.offset k) := by
  obtain ⟨h, eq⟩ := path.getElem_eq_decode k hk
  rw [eq, decode, Entry.address_read]

/-- **A listing of up to `2 ^ 32` bytes holds no address twice.** One byte more, and the first
address could come again. -/
theorem nodup_address (le : l.consumed ≤ 2 ^ 32) : (l.entries.map Entry.address).Nodup := by
  rw [List.Nodup, List.pairwise_iff_getElem]
  intro m n hm hn lt same
  rw [List.length_map] at hm hn
  rw [List.getElem_map, List.getElem_map, path.address_getElem m hm,
    path.address_getElem n hn] at same
  -- the two offsets are less than 2^32 apart, so they are congruent only if they are equal
  have before := path.offset_lt_offset lt (Nat.le_of_lt hn)
  have behind := path.offset_lt_stop n hn
  have congruent := congrArg UInt64.toNat same
  rw [Address.toNat_ofOffset, Address.toNat_ofOffset, Address.count] at congruent
  have starts : l.start ≤ l.offset m := Nat.le_add_right ..
  rw [Listing.consumed] at le
  replace behind : l.offset n < l.stop := behind
  omega

end Decoder.Path

/-- **Targets and addresses agree.** A call or jump goes to the base plus the place that its
displacement leads to from its end, which may lie before offset 0. In every session with that base
the entry that begins at this place has the target for its address, and an entry with this address
begins there, modulo 2^32. A session of up to 2^32 bytes has no address twice, so a target names
one of its entries at most. -/
theorem Session.run_decode_target (image : Image) (base : Address) (short : image.size < 2 ^ 64) :
    (∀ (offset : Fin image.size) (i : Instruction), decode image offset base = .recognized i →
      (i.isCall ∨ i.isBranch) →
      let place : Int := offset + i.size + i.displacement
      ∃ target, i.target = some target ∧
        (target.toNat : Int) = (base.toNat + place) % 2 ^ 32 ∧
        (∀ n : Nat, (n : Int) = place → target = Address.ofOffset base n) ∧
        ∀ start ceiling, start ≤ image.size →
          ∃ l, run ⟨start, base, ceiling⟩ decode image = .ok l ∧
            ∀ (k : Nat) (hk : k < l.entries.length),
              ((l.offset k : Int) = place → l.entries[k].address = target) ∧
              (l.entries[k].address = target → (l.offset k : Int) % 2 ^ 32 = place % 2 ^ 32)) ∧
    ∀ start ceiling, start ≤ image.size →
      ∃ l, run ⟨start, base, ceiling⟩ decode image = .ok l ∧
        (l.consumed ≤ 2 ^ 32 → (l.entries.map Entry.address).Nodup ∧
          ∀ (target : Address) (m n : Nat) (hm : m < l.entries.length) (hn : n < l.entries.length),
            l.entries[m].address = target → l.entries[n].address = target → m = n) := by
  constructor
  · intro offset i h goes place
    have leads := Address.toNat_branchTarget_ofOffset base offset i.size i.displacement
    refine ⟨_, target_of_decode h goes, leads, ?_, ?_⟩
    · intro n n_eq
      exact ((Address.ofOffset_eq_iff leads n).2 (by rw [n_eq])).symm
    · intro start ceiling start_le
      obtain ⟨l, ran, base_eq, path⟩ :=
        exists_path (s := ⟨start, base, ceiling⟩) decode short start_le
      -- an entry begins at the place of the target exactly if it has the target for its address
      refine ⟨l, ran, fun k hk => ?_⟩
      rw [path.address_getElem k hk, base_eq, Address.ofOffset_eq_iff leads]
      exact ⟨fun at_place => by rw [at_place], id⟩
  · intro start ceiling start_le
    obtain ⟨l, ran, -, path⟩ := exists_path (s := ⟨start, base, ceiling⟩) decode short start_le
    refine ⟨l, ran, fun le => ?_⟩
    have nodup := path.nodup_address le
    refine ⟨nodup, ?_⟩
    rintro target m n hm hn rfl same
    have hm' : m < (l.entries.map Entry.address).length := by rwa [List.length_map]
    have hn' : n < (l.entries.map Entry.address).length := by rwa [List.length_map]
    have same_address : (l.entries.map Entry.address)[m] = (l.entries.map Entry.address)[n] := by
      rw [List.getElem_map, List.getElem_map, same]
    exact nodup.getElem_inj_iff.1 same_address

/-- A jump at the address `0xFFFFFFFF` that leads back to the byte before it. It ends at `2 ^ 32 +
1`, and its target is three bytes less. -/
def Instruction.backward : Instruction where
  address := 0xFFFFFFFF
  size := 2
  mnemonic := "jz"
  operands := "0xFFFFFFFE"
  target := some 0xFFFFFFFE
  stored := #v[0x74, 0xFD, 0]
  size_le := by decide

/-- The jump stands at offset `1` of a session that crosses the top of the address space, and names
its first entry. -/
theorem Session.run_decode_target_backward :
    (#[0x90, 0x74, 0xFD, 0xE8, 0xF7, 0xFF] : Image).size < 2 ^ 64 ∧
    decode #[0x90, 0x74, 0xFD, 0xE8, 0xF7, 0xFF] ⟨1, by decide⟩ 0xFFFFFFFE =
      .recognized .backward ∧
    Instruction.backward.isBranch ∧
    Instruction.backward.displacement = -3 ∧
    (∃ l, run ⟨0, 0xFFFFFFFE, 512⟩ decode #[0x90, 0x74, 0xFD, 0xE8, 0xF7, 0xFF] = .ok l ∧
      ∀ (k : Nat) (hk : k < l.entries.length),
        (l.offset k = 0 → l.entries[k].address = 0xFFFFFFFE) ∧
        (l.entries[k].address = 0xFFFFFFFE → (l.offset k : Int) % 2 ^ 32 = 0)) ∧
    ∃ l, run ⟨0, 0xFFFFFFFE, 512⟩ decode #[0x90, 0x74, 0xFD, 0xE8, 0xF7, 0xFF] = .ok l ∧
      l.consumed = 6 ∧ (l.entries.map Entry.address).Nodup := by
  have decoded : decode #[0x90, 0x74, 0xFD, 0xE8, 0xF7, 0xFF] ⟨1, by decide⟩ 0xFFFFFFFE =
      .recognized .backward := by decide +kernel
  have branches : Instruction.backward.isBranch := by decide
  have displacement_eq : Instruction.backward.displacement = -3 := by decide +kernel
  obtain ⟨leads, distinct⟩ :=
    run_decode_target #[0x90, 0x74, 0xFD, 0xE8, 0xF7, 0xFF] 0xFFFFFFFE (by decide)
  refine ⟨by decide, decoded, branches, displacement_eq, ?_, ?_⟩
  · obtain ⟨target, target_eq, -, -, listed⟩ := leads _ _ decoded (Or.inr branches)
    obtain rfl : target = 0xFFFFFFFE := (Option.some.inj target_eq).symm
    obtain ⟨l, ran, named⟩ := listed 0 512 (by decide)
    refine ⟨l, ran, fun k hk => ?_⟩
    obtain ⟨at_place, only_there⟩ := named k hk
    exact ⟨fun first => at_place (by rw [first, displacement_eq]; rfl), only_there⟩
  · obtain ⟨l, ran, nodup⟩ := distinct 0 512 (by decide)
    have consumed : (run ⟨0, 0xFFFFFFFE, 512⟩ decode
        #[0x90, 0x74, 0xFD, 0xE8, 0xF7, 0xFF]).map (·.consumed) = .ok 6 := by decide +kernel
    rw [ran] at consumed
    have consumed_eq : l.consumed = 6 := Except.ok.inj consumed
    exact ⟨l, ran, consumed_eq, (nodup (by rw [consumed_eq]; decide)).1⟩

end LinearSweep
