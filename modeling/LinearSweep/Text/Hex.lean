/-! # Hexadecimal numerals

Natural numbers written to base sixteen, most significant digit first, and read back.

* **`Hex.digits letters n`** are the digits of `n` without leading zeros, in upper or lower case.
* **`Hex.padded width n`** has at least `width` digits, filled with zeros on the left.
* **`Hex.value? digits`** is the value of a nonempty list of digits of either case.
* **`Hex.value?_digits`**: reading the written digits gives the number back, and so it does with
  zeros in front, by **`Hex.value?_leftpad_digits`**. -/

namespace LinearSweep.Text.Hex

/-- **The case of the digits from ten up**: `A` to `F` or `a` to `f`. -/
inductive Letters where
  /-- `A` to `F`. -/
  | upper
  /-- `a` to `f`. -/
  | lower
deriving DecidableEq, Repr

/-- The letter that stands for ten. -/
def Letters.first : Letters → Char
  | .upper => 'A'
  | .lower => 'a'

/-- The digit of a number below sixteen. -/
def digit (letters : Letters) (d : Nat) : Char :=
  if d < 10 then Char.ofNat ('0'.toNat + d) else Char.ofNat (letters.first.toNat + (d - 10))

/-- **The digits of `n`**, most significant first and without leading zeros; zero has one digit. -/
def digits (letters : Letters) (n : Nat) : List Char :=
  if n < 16 then [digit letters n] else digits letters (n / 16) ++ [digit letters (n % 16)]

/-- **At least `width` upper-case digits of `n`**, filled with zeros on the left. -/
def padded (width n : Nat) : List Char :=
  (digits .upper n).leftpad width '0'

/-- The upper-case numeral of `n`, as in `7C00`. -/
def upper (n : Nat) : String := String.ofList (digits .upper n)

/-- The upper-case numeral of `n` behind the marker `0x`. -/
def marked (n : Nat) : String := "0x" ++ upper n

/-- The upper-case numeral of `n` with at least `width` digits, behind the marker `0x`. -/
def markedPadded (width n : Nat) : String := "0x" ++ String.ofList (padded width n)

/-! ### Reading -/

/-- The value of one digit of either case; other characters have none. -/
def digitValue? (c : Char) : Option Nat :=
  if '0' ≤ c ∧ c ≤ '9' then some (c.toNat - '0'.toNat)
  else if 'A' ≤ c ∧ c ≤ 'F' then some (c.toNat - 'A'.toNat + 10)
  else if 'a' ≤ c ∧ c ≤ 'f' then some (c.toNat - 'a'.toNat + 10)
  else none

/-- Take one more digit into a value read so far. -/
def accumulate (value : Nat) (c : Char) : Option Nat :=
  (digitValue? c).map (16 * value + ·)

/-- **The value of a numeral**: `none` for the empty list and for a list with a character that is
no digit. Leading zeros are allowed. -/
def value? : List Char → Option Nat
  | [] => none
  | cs => cs.foldlM accumulate 0

/-- A written digit reads back as its number, in either case: `digitValue? (digit letters d) = some
d`. -/
theorem digitValue?_digit (letters : Letters) {d : Nat} (h : d < 16) :
    digitValue? (digit letters d) = some d := by
  have all : ∀ d < 16, digitValue? (digit .upper d) = some d ∧
      digitValue? (digit .lower d) = some d := by decide
  cases letters
  · exact (all d h).1
  · exact (all d h).2

/-- Only digits are written: each character of `digits letters n` is `digit letters d` for some `d <
16`. -/
theorem exists_of_mem_digits (letters : Letters) {n : Nat} {c : Char} (h : c ∈ digits letters n) :
    ∃ d < 16, c = digit letters d := by
  induction n using Nat.strongRecOn with
  | ind n ih =>
    unfold digits at h
    split at h
    · next small => exact ⟨n, small, List.mem_singleton.1 h⟩
    · rcases List.mem_append.1 h with front | last
      · exact ih (n / 16) (by omega) front
      · exact ⟨n % 16, Nat.mod_lt n (by decide), List.mem_singleton.1 last⟩

/-- Some digit is always written, for `0` too. -/
theorem digits_ne_nil (letters : Letters) (n : Nat) : digits letters n ≠ [] := by
  unfold digits
  split <;> simp

/-- **The digits are those of `Nat.toDigits 16 n`**, with letters in upper case. -/
theorem map_toUpper_toDigits (n : Nat) :
    (Nat.toDigits 16 n).map Char.toUpper = digits .upper n := by
  have one_digit : ∀ d < 16, d.digitChar.toUpper = digit .upper d := by decide
  induction n using Nat.strongRecOn with
  | ind n ih =>
    rw [Nat.toDigits_eq_if (by decide), digits]
    by_cases small : n < 16
    · rw [if_pos small, if_pos small, List.map_singleton, one_digit n small]
    · rw [if_neg small, if_neg small, List.map_append, ih (n / 16) (by omega),
        List.map_singleton, one_digit (n % 16) (Nat.mod_lt n (by decide))]

/-- Accumulating the digits of `n` behind a value of zero gives `n`. -/
theorem foldlM_accumulate_digits (letters : Letters) (n : Nat) :
    (digits letters n).foldlM accumulate 0 = some n := by
  induction n using Nat.strongRecOn with
  | ind n ih =>
    unfold digits
    split
    · next h => simp [accumulate, digitValue?_digit letters h]
    · next h =>
      rw [List.foldlM_append, ih (n / 16) (by omega)]
      simp only [List.foldlM_cons, List.foldlM_nil, Option.bind_eq_bind, Option.bind_some,
        accumulate, digitValue?_digit letters (Nat.mod_lt n (by decide : 0 < 16)),
        Option.map_some, Option.pure_def, Option.bind_some]
      congr 1
      omega

/-- **Reading the written digits gives the number back**: `value? (digits letters n) = some n`. -/
@[simp] theorem value?_digits (letters : Letters) (n : Nat) :
    value? (digits letters n) = some n := by
  unfold value?
  split
  · next h => exact absurd h (digits_ne_nil letters n)
  · exact foldlM_accumulate_digits letters n

/-- **Zeros in front of the digits do not count**, however wide the numeral is made by `leftpad`. -/
@[simp] theorem value?_leftpad_digits (letters : Letters) (width n : Nat) :
    value? ((digits letters n).leftpad width '0') = some n := by
  have zeros : ∀ count, (List.replicate count '0').foldlM accumulate 0 = some 0 := by
    intro count
    induction count with
    | zero => rfl
    | succ count ih => rw [List.replicate_succ, List.foldlM_cons]; exact ih
  unfold value?
  split
  · next h => exact absurd (List.append_eq_nil_iff.1 h).2 (digits_ne_nil letters n)
  · rw [List.leftpad, List.foldlM_append, zeros]
    exact foldlM_accumulate_digits letters n

end LinearSweep.Text.Hex
