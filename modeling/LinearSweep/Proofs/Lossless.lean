import LinearSweep.Proofs.Reading
import LinearSweep.Proofs.Swept

/-! # Nothing is lost in a session

The entries of a session put in a row are the bytes that it went through: none is missing, none
comes twice, and each entry has the address of the offset where it begins.

* **`Decoder.Path.flatMap_bytes`**: the bytes along a path are those of the image.
* **`Listing.Lossless`** is the account that a listing gives of an image.
* **`Decoder.Path.lossless`**: the listing of a path of the opcode table gives it. -/

namespace LinearSweep

variable {image : Image} {base : Address} {start stop : Nat} {entry : Entry}
  {entries : List Entry} {l : Listing}

/-! ### Paths of the opcode table -/

/-- Whatever lies on a path was decoded somewhere. -/
theorem Decoder.Path.exists_eq_decode (path : Decoder.Path decode image base start entries stop)
    (mem : entry ∈ entries) : ∃ offset, entry = decode image offset base := by
  obtain ⟨offset, rfl⟩ := path.exists_eq_next mem
  exact ⟨offset, next_decode ..⟩

/-- An instruction on a path was decoded somewhere, as `.recognized i`. -/
theorem Decoder.Path.exists_decode_eq {i : Instruction}
    (path : Decoder.Path decode image base start entries stop)
    (mem : i ∈ entries.filterMap Entry.instruction?) :
    ∃ offset, decode image offset base = .recognized i := by
  obtain ⟨entry, listed, is⟩ := List.mem_filterMap.1 mem
  obtain ⟨offset, eq⟩ := path.exists_eq_decode listed
  cases entry with
  | recognized instruction =>
    cases is
    exact ⟨offset, eq.symm⟩
  | skipped => cases is

/-- Each entry of a listing was decoded at its offset: number `i` at `l.offset i`. -/
theorem Decoder.Path.getElem_eq_decode
    (path : Decoder.Path decode image l.base l.start l.entries l.stop) (i : Nat)
    (hi : i < l.entries.length) :
    ∃ h : l.offset i < image.size, l.entries[i] = decode image ⟨l.offset i, h⟩ l.base := by
  obtain ⟨h, eq⟩ := path.getElem_eq i hi
  exact ⟨h, eq.trans (next_decode ..)⟩

/-- **The bytes along a path are those of the image**, each once and in order: from `start` on, as
many as `Entry.total entries`. -/
theorem Decoder.Path.flatMap_bytes
    (path : Decoder.Path decode image base start entries stop) :
    entries.flatMap Entry.bytes = (image.toList.drop start).take (Entry.total entries) := by
  induction path with
  | nil => rw [List.flatMap_nil, Entry.total_nil, List.take_zero]
  | cons h rest ih =>
    -- the bytes of the first entry are a slice, and those of the rest begin where it ends
    rw [List.flatMap_cons, ih, next_decode, decode_slice, Entry.total_cons, List.take_add,
      List.drop_drop]

/-- Skipped bytes and the sizes of instructions make up what some entries cover, `Entry.total
entries`. -/
theorem Entry.countP_add_sum_size (entries : List Entry) :
    entries.countP Entry.isSkipped +
      ((entries.filterMap Entry.instruction?).map Instruction.size).sum = Entry.total entries := by
  induction entries with
  | nil => rfl
  | cons entry entries ih =>
    rw [Entry.total_cons, ← ih]
    cases entry with
    | recognized i =>
      simp only [List.countP_cons, List.filterMap_cons, isSkipped, instruction?, size,
        List.map_cons, List.sum_cons, Bool.false_eq_true, if_false]
      omega
    | skipped address byte =>
      simp only [List.countP_cons, List.filterMap_cons, isSkipped, instruction?, size, if_true]
      omega

/-! ### The account of a listing -/

/-- **A listing accounts for an image** between its start and its stop. -/
structure Listing.Lossless (l : Listing) (image : Image) : Prop where
  /-- It does not go backward. -/
  start_le_stop : l.start ≤ l.stop
  /-- It stays in the image. -/
  stop_le_size : l.stop ≤ image.size
  /-- The bytes of its entries in a row are those of the image. -/
  bytes_eq : l.entries.flatMap Entry.bytes = (image.extract l.start l.stop).toList
  /-- An entry has the address of the offset where it begins. -/
  address_eq : ∀ (i : Nat) (hi : i < l.entries.length),
    l.entries[i].address.toNat = (l.base.toNat + l.offset i) % 2 ^ 32
  /-- Behind its own bytes, an instruction stores zeros. -/
  stored_eq_zero : ∀ i ∈ l.instructions, ∀ (k : Nat) (hk : k < Instruction.maxSize),
    i.size ≤ k → i.stored[k] = 0
  /-- A byte is skipped exactly if an entry begins there and its opcode has no rule, or its
  instruction would run past the end of the image. -/
  skipped_iff : ∀ offset : Fin image.size,
    (∃ (i : Nat) (hi : i < l.entries.length),
      l.offset i = offset ∧ l.entries[i].isSkipped) ↔
    (∃ i < l.entries.length, l.offset i = offset) ∧
      (Rule.ofOpcode? (image.byte offset) = none ∨
        ∃ rule, Rule.ofOpcode? (image.byte offset) = some rule ∧
          image.size < offset + rule.encodedLength)
  /-- The skipped bytes and the sizes of the instructions are all that was consumed. -/
  count_eq : l.skipped + (l.instructions.map Instruction.size).sum = l.consumed

/-- A listing whose entries are a path of the opcode table accounts for the image, if its stop lies
in the image. -/
theorem Decoder.Path.lossless (stop_le : l.stop ≤ image.size)
    (path : Decoder.Path decode image l.base l.start l.entries l.stop) : l.Lossless image where
  start_le_stop := path.start_le_stop
  stop_le_size := stop_le
  bytes_eq := by
    rw [path.flatMap_bytes, Array.toList_extract, List.extract_eq_take_drop, path.stop_eq,
      Nat.add_sub_cancel_left]
  address_eq := by
    intro i hi
    obtain ⟨h, eq⟩ := path.getElem_eq_decode i hi
    rw [eq, decode, Entry.address_read, Address.toNat_ofOffset]
    rfl
  stored_eq_zero := by
    intro i mem k hk behind
    obtain ⟨offset, eq⟩ := path.exists_decode_eq mem
    exact Entry.getElem_stored_eq_zero eq hk behind
  skipped_iff := by
    intro offset
    -- in both directions the entry that begins at the offset was decoded there
    constructor
    · rintro ⟨i, hi, begins, skipped⟩
      obtain ⟨h, eq⟩ := path.getElem_eq_decode i hi
      obtain rfl : offset = ⟨l.offset i, h⟩ := Fin.ext begins.symm
      exact ⟨⟨i, hi, rfl⟩, (isSkipped_decode_iff ..).1 (eq ▸ skipped)⟩
    · rintro ⟨⟨i, hi, begins⟩, reason⟩
      obtain ⟨h, eq⟩ := path.getElem_eq_decode i hi
      obtain rfl : offset = ⟨l.offset i, h⟩ := Fin.ext begins.symm
      exact ⟨i, hi, rfl, eq ▸ (isSkipped_decode_iff ..).2 reason⟩
  count_eq := by
    rw [Listing.consumed, path.stop_eq, Nat.add_sub_cancel_left]
    exact Entry.countP_add_sum_size l.entries

/-- A call that the image cuts off is skipped byte by byte. -/
example : (Session.run {} decode #[0x90, 0xE8, 0x00]).map (·.skipped) = .ok 2 := by
  cbv

/-- **A session loses nothing.** Every session that starts in the image has a listing, and the
listing accounts for each byte between its start and its stop: it is `Lossless`. -/
theorem Session.run_decode_lossless (s : Session) (image : Image) (short : image.size < 2 ^ 64)
    (h : s.start ≤ image.size) :
    ∃ l, s.run decode image = .ok l ∧ l.start = s.start ∧ l.base = s.base ∧ l.Lossless image := by
  obtain ⟨l, ran, start_eq, base_eq, swept⟩ := exists_swept decode short h
  refine ⟨l, ran, start_eq, base_eq, ?_⟩
  have path := swept.path
  rw [← start_eq, ← base_eq] at path
  exact path.lossless (Nat.le_trans swept.stop_le (s.limit_le_size image))

/-- A session over a call that crosses the top of the address space, and over one that the image
cuts off. -/
theorem Session.run_decode_lossless_wrapping :
    (#[0x90, 0xE8, 0x00, 0x00, 0xE8, 0x00] : Image).size < 2 ^ 64 ∧
    1 ≤ (#[0x90, 0xE8, 0x00, 0x00, 0xE8, 0x00] : Image).size ∧
    ∃ l, (⟨1, 0xFFFFFFFFFFFFFFFE, 512⟩ : Session).run decode
        #[0x90, 0xE8, 0x00, 0x00, 0xE8, 0x00] = .ok l ∧
      l.start = 1 ∧ l.base = 0xFFFFFFFFFFFFFFFE ∧
      l.Lossless #[0x90, 0xE8, 0x00, 0x00, 0xE8, 0x00] :=
  ⟨by decide, by decide,
    run_decode_lossless ⟨1, 0xFFFFFFFFFFFFFFFE, 512⟩ _ (by decide) (by decide)⟩

end LinearSweep
