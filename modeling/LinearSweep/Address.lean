/-! # Addresses of a 32-bit space

Addresses are carried in 64-bit words and live in the 32-bit space: every address that is
shown has been wrapped.

* **`Address.wrap`** keeps the low 32 bits of a word.
* **`Address.ofOffset base offset`** is the address of an image offset, when offset 0 sits at
  `base`.
* **`Address.branchTarget start length displacement`** is the address that a relative branch
  goes to.

Sums are taken modulo 2^64 and then wrapped. Since 2^32 divides 2^64 the outer wrap decides
alone, which the `toNat` lemmas say over the naturals. -/

namespace LinearSweep

/-- **An address**: a 64-bit word, of which the low 32 bits count once it is wrapped. -/
abbrev Address := UInt64

namespace Address

/-- The number of addresses, which is `2 ^ 32`. -/
def count : Nat := 0x100000000

/-- The bits of a word that an address of the 32-bit space keeps, so that `mask.toNat = count - 1`.
-/
def mask : Address := 0xFFFFFFFF

/-- **Wrap a word into the 32-bit address space**: `word &&& mask`. -/
def wrap (word : Address) : Address := word &&& mask

/-- Wrapping is the remainder by `count`, the number of addresses. -/
@[simp] theorem toNat_wrap (word : Address) : (wrap word).toNat = word.toNat % count := by
  rw [wrap, UInt64.toNat_and]
  exact Nat.and_two_pow_sub_one_eq_mod word.toNat 32

/-- A wrapped word is below `count`, so it lies in the 32-bit space. -/
theorem toNat_wrap_lt (word : Address) : (wrap word).toNat < count := by
  rw [toNat_wrap]
  exact Nat.mod_lt _ (by decide)

/-- **The address of an image offset**, when offset 0 sits at `base`. -/
def ofOffset (base : Address) (offset : Nat) : Address :=
  wrap (base + UInt64.ofNat offset)

/-- Over the naturals, `ofOffset base offset` is base plus offset modulo `count`: the inner wrap at
`2 ^ 64` leaves no trace. -/
theorem toNat_ofOffset (base : Address) (offset : Nat) :
    (ofOffset base offset).toNat = (base.toNat + offset) % count := by
  simp only [ofOffset, toNat_wrap, UInt64.toNat_add, UInt64.toNat_ofNat', count]
  omega

/-- **The address that a relative branch goes to**: the displacement counts from the end of the
branch, which has `length` bytes and begins at `start`. -/
def branchTarget (start : Address) (length : Nat) (displacement : Int) : Address :=
  wrap (start + UInt64.ofNat length + UInt64.ofInt displacement)

/-- Over the integers, `branchTarget start length displacement` is the sum of the three modulo
`count`, also where the displacement is negative. -/
theorem toNat_branchTarget (start : Address) (length : Nat) (displacement : Int) :
    ((branchTarget start length displacement).toNat : Int) =
      (start.toNat + length + displacement) % count := by
  simp only [branchTarget, toNat_wrap, UInt64.toNat_add, UInt64.toNat_ofNat', UInt64.ofInt, count]
  omega

end Address

end LinearSweep
