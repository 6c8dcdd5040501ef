import LinearSweep.Proofs.Destination

/-! # Where instructions end

The address behind an instruction is a plain sum and is not wrapped. Every other address of a
listing is, so an instruction that reaches the top of the 32-bit space ends at an address that no
entry has and no branch goes to. Below the top, an instruction ends where the next entry begins.

* **`Address.eq_wrap_iff`**: a word is left alone by wrapping exactly if it lies in the space.
* **`Instruction.branchTarget_zero`**: a branch without displacement goes to the wrapped end.
* **`Decoder.Path.address_succ`**: the next entry has the wrapped end for its address.
* **`Session.run_decode_ends`** says when the end is the address of the next entry. -/

namespace LinearSweep

variable {image : Image} {base : Address} {offset : Fin image.size} {i : Instruction}

/-! ### The top of the address space -/

/-- **Wrapping leaves a word alone** exactly if it lies in the 32-bit space: `word.toNat < count`.
-/
theorem Address.eq_wrap_iff (word : Address) : word = wrap word ↔ word.toNat < count := by
  rw [← UInt64.toNat_inj, toNat_wrap, eq_comm]
  exact Nat.mod_eq_iff_lt (by decide)

/-- An offset behind another has the wrapped sum of its address and the distance; it makes no
difference that `ofOffset base offset` is wrapped already. -/
theorem Address.ofOffset_add (base : Address) (offset distance : Nat) :
    ofOffset base (offset + distance) = wrap (ofOffset base offset + UInt64.ofNat distance) := by
  -- the sum wraps at 2^64 before it wraps at 2^32, which changes nothing
  rw [← UInt64.toNat_inj, toNat_ofOffset, toNat_wrap, UInt64.toNat_add, toNat_ofOffset,
    UInt64.toNat_ofNat', count]
  omega

namespace Instruction

/-- **A branch without displacement goes to the wrapped end**, `Address.wrap i.endAddress`. -/
theorem branchTarget_zero (i : Instruction) :
    Address.branchTarget i.address i.size 0 = Address.wrap i.endAddress := by
  rw [Address.branchTarget, endAddress]
  exact congrArg Address.wrap (UInt64.add_zero _)

/-- The end of an instruction in the 32-bit space is the sum of its address and its size, which is
far below `2 ^ 64`. -/
theorem toNat_endAddress (inside : i.address.toNat < Address.count) :
    i.endAddress.toNat = i.address.toNat + i.size := by
  have short := i.size_le
  rw [endAddress, UInt64.toNat_add, UInt64.toNat_ofNat']
  rw [Address.count] at inside
  rw [maxSize] at short
  omega

end Instruction

/-! ### The next entry -/

namespace Decoder.Path

variable {l : Listing} (path : Path decode image l.base l.start l.entries l.stop)

include path

/-- A listed instruction begins in the 32-bit space, below `Address.count`. -/
theorem address_lt_count {k : Nat} (listed : l.entries[k]? = some (.recognized i)) :
    i.address.toNat < Address.count := by
  obtain ⟨hk, eq⟩ := List.getElem?_eq_some_iff.1 listed
  have address_eq := path.address_getElem k hk
  rw [eq] at address_eq
  have begins : i.address = Address.ofOffset l.base (l.offset k) := address_eq
  rw [begins]
  exact Address.toNat_wrap_lt _

/-- **The next entry has the wrapped end of an instruction for its address**, whatever entry it is.
-/
theorem address_succ {k : Nat} {next : Entry} (listed : l.entries[k]? = some (.recognized i))
    (follows : l.entries[k + 1]? = some next) : next.address = Address.wrap i.endAddress := by
  obtain ⟨hk, eq⟩ := List.getElem?_eq_some_iff.1 listed
  obtain ⟨hk', rfl⟩ := List.getElem?_eq_some_iff.1 follows
  rw [path.address_getElem (k + 1) hk', l.offset_succ k hk, Address.ofOffset_add,
    ← path.address_getElem k hk, eq]
  rfl

end Decoder.Path

/-- **An instruction ends where the next entry begins, below the top of the address space.** In
every session that starts in the image, the entry behind an instruction has the address that a
branch without displacement would go to. The end of the instruction is the sum of its address and
its size; it is this address exactly if the sum lies in the 32-bit space. -/
theorem Session.run_decode_ends (s : Session) (image : Image) (short : image.size < 2 ^ 64)
    (h : s.start ≤ image.size) :
    ∃ l, s.run decode image = .ok l ∧
      ∀ (k : Nat) (i : Instruction), l.entries[k]? = some (.recognized i) →
        i.endAddress.toNat = i.address.toNat + i.size ∧
        (i.endAddress = Address.branchTarget i.address i.size 0 ↔
          i.address.toNat + i.size < 2 ^ 32) ∧
        ∀ next, l.entries[k + 1]? = some next →
          next.address = Address.branchTarget i.address i.size 0 ∧
          (i.endAddress = next.address ↔ i.address.toNat + i.size < 2 ^ 32) := by
  obtain ⟨l, ran, -, path⟩ := exists_path (s := s) decode short h
  refine ⟨l, ran, fun k i listed => ?_⟩
  have end_eq := i.toNat_endAddress (path.address_lt_count listed)
  -- both addresses come from one sum, of which only the second is wrapped
  have inside : i.endAddress = Address.branchTarget i.address i.size 0 ↔
      i.address.toNat + i.size < 2 ^ 32 := by
    rw [i.branchTarget_zero, Address.eq_wrap_iff, end_eq]
    exact Iff.rfl
  refine ⟨end_eq, inside, fun next follows => ?_⟩
  have begins : next.address = Address.branchTarget i.address i.size 0 := by
    rw [path.address_succ listed follows, i.branchTarget_zero]
  exact ⟨begins, by rw [begins, inside]⟩

/-- A session in which the first instruction, at `0xFFFFFFFD`, ends below the top of the address
space, at the address of the second. -/
theorem Session.run_decode_ends_below :
    (#[0x90, 0x74, 0x00, 0xC3] : Image).size < 2 ^ 64 ∧
    0 ≤ (#[0x90, 0x74, 0x00, 0xC3] : Image).size ∧
    ∃ l i next, run ⟨0, 0xFFFFFFFD, 512⟩ decode #[0x90, 0x74, 0x00, 0xC3] = .ok l ∧
      l.entries[0]? = some (.recognized i) ∧ l.entries[1]? = some next ∧
      i.address = 0xFFFFFFFD ∧ i.size = 1 ∧ i.endAddress = next.address := by
  obtain ⟨l, ran, ends⟩ :=
    run_decode_ends ⟨0, 0xFFFFFFFD, 512⟩ #[0x90, 0x74, 0x00, 0xC3] (by decide) (by decide)
  let nop := (⟨"nop", .bare⟩ : Rule).instruction 0xFFFFFFFD 0x90 [] .absent
  let jump := (⟨"jz", .shortBranch⟩ : Rule).instruction 0xFFFFFFFE 0x74 [0x00] (.destination 0)
  have first : (run ⟨0, 0xFFFFFFFD, 512⟩ decode #[0x90, 0x74, 0x00, 0xC3]).map
      (·.entries[0]?) = .ok (some (.recognized nop)) := by decide +kernel
  have second : (run ⟨0, 0xFFFFFFFD, 512⟩ decode #[0x90, 0x74, 0x00, 0xC3]).map
      (·.entries[1]?) = .ok (some (.recognized jump)) := by decide +kernel
  rw [ran] at first second
  have listed : l.entries[0]? = some (.recognized nop) := Except.ok.inj first
  have follows : l.entries[1]? = some (.recognized jump) := Except.ok.inj second
  obtain ⟨-, -, succeeded⟩ := ends 0 nop listed
  exact ⟨by decide, by decide, l, nop, .recognized jump, ran, listed, follows, rfl, rfl,
    (succeeded _ follows).2.2 (by decide)⟩

/-- **At the top of the address space an instruction ends outside.** The branch at `0xFFFFFFFE` has
no displacement and goes to address `0`, where the next entry is; but its end is `2 ^ 32`. -/
theorem Session.run_decode_ends_outside :
    ∃ l i next, run ⟨0, 0xFFFFFFFE, 512⟩ decode #[0x74, 0x00, 0x90] = .ok l ∧
      l.entries = [.recognized i, next] ∧ i.endAddress = 0x100000000 ∧ next.address = 0 ∧
      i.endAddress ≠ next.address ∧ Address.branchTarget i.address i.size 0 = 0 := by
  let jump := (⟨"jz", .shortBranch⟩ : Rule).instruction 0xFFFFFFFE 0x74 [0x00] (.destination 0)
  let nop := (⟨"nop", .bare⟩ : Rule).instruction 0 0x90 [] .absent
  have ran : run ⟨0, 0xFFFFFFFE, 512⟩ decode #[0x74, 0x00, 0x90] =
      .ok ⟨0, 0xFFFFFFFE, [.recognized jump, .recognized nop], 3⟩ := by decide +kernel
  exact ⟨_, jump, .recognized nop, ran, rfl, by decide, rfl, by decide, by decide⟩

end LinearSweep
