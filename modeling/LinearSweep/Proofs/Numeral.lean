import LinearSweep.Offset
import Mathlib

/-! # Texts that are read as offsets

An offset is written as a hexadecimal numeral, with a marker in front of its digits or without one
and with blanks around it. Here this is a grammar, which says nothing of how a text is read, and
reading accepts the texts of the grammar whose numbers are offsets.

* **`Trims text rest`** says that `rest` is the text without the blanks at its two ends, and
  **`trims_iff`** that trimming finds it.
* **`Hex.IsDigit`** and **`Hex.positional`** are the digits and the value of a row of them, and
  **`Hex.value?_eq_some_iff`** says that rows of digits are what has a value.
* **`Hex.length_padded`**: the digits of a number that fits a width are padded to it.
* **`Numeral cs n`** says that `cs` is a numeral of `n`, and **`numeral_iff`** that its digits are
  found behind the marker.
* **`Offset.parse_eq_ok_iff`** and **`Offset.parse_eq_error_iff`** are the two outcomes of
  reading. -/

namespace LinearSweep

namespace Text

/-! ### Blanks around a text -/

/-- **The code points with the property `White_Space`**, one by one. -/
def whiteSpace : List Nat :=
  [0x9, 0xA, 0xB, 0xC, 0xD, 0x20, 0x85, 0xA0, 0x1680, 0x2000, 0x2001, 0x2002, 0x2003, 0x2004,
   0x2005, 0x2006, 0x2007, 0x2008, 0x2009, 0x200A, 0x2028, 0x2029, 0x202F, 0x205F, 0x3000]

/-- The ranges of blank code points hold these and no others: `isBlank` goes by ranges, the property
by a list. -/
theorem isBlank_iff (c : Char) : isBlank c ↔ c.toNat ∈ whiteSpace := by
  simp only [isBlank, CodePoints.contains, blanks, List.any_cons, List.any_nil, Bool.or_eq_true,
    Bool.and_eq_true, decide_eq_true_eq, Bool.or_false, whiteSpace, List.mem_cons, List.not_mem_nil,
    or_false]
  omega

/-- **`rest` is what is left of a text without the blanks around it.** -/
structure Trims (text rest : List Char) : Prop where
  /-- Blanks alone are taken away, at both ends. -/
  surrounded : ∃ front back, text = front ++ rest ++ back ∧
    ∀ c ∈ front ++ back, c.toNat ∈ whiteSpace
  /-- No blank is left in front. -/
  begins : ∀ c ∈ rest.head?, c.toNat ∉ whiteSpace
  /-- No blank is left at the end. -/
  ends : ∀ c ∈ rest.getLast?, c.toNat ∉ whiteSpace

/-- Trimming takes the blanks in front away, and then those at the end; by its definition it
reverses the text for that. -/
theorem trimBlank_eq (cs : List Char) :
    trimBlank cs = (cs.dropWhile isBlank).rdropWhile isBlank := rfl

variable {text rest : List Char}

/-- What is left of a text by trimming is in front of some blanks and behind some others, and no
blank is left at its ends. -/
theorem trims_trimBlank (text : List Char) : Trims text (trimBlank text) where
  surrounded := by
    refine ⟨text.takeWhile isBlank, (text.dropWhile isBlank).rtakeWhile isBlank, ?_, ?_⟩
    · rw [trimBlank_eq, List.append_assoc, List.rdropWhile_append_rtakeWhile,
        List.takeWhile_append_dropWhile]
    · intro c mem
      rw [← isBlank_iff]
      rcases List.mem_append.1 mem with front | back
      · exact List.mem_takeWhile_imp front
      · exact List.mem_rtakeWhile_imp back
  begins := by
    intro c first
    rw [← isBlank_iff]
    -- what is left begins as the text does behind its first blanks
    obtain ⟨back, eq⟩ := List.rdropWhile_prefix isBlank (text.dropWhile isBlank)
    have begins := List.head?_dropWhile_not isBlank text
    rw [← eq, List.head?_append, ← trimBlank_eq, first] at begins
    simpa using begins
  ends := by
    intro c last
    rw [← isBlank_iff]
    obtain ⟨front, eq⟩ := List.getLast?_eq_some_iff.1 last
    have some_left : (text.dropWhile isBlank).rdropWhile isBlank ≠ [] := by
      rw [← trimBlank_eq, eq]
      exact List.append_ne_nil_of_right_ne_nil _ (List.cons_ne_nil _ _)
    -- trimming at the end stops at a character that is no blank
    have ended := List.rdropWhile_last_not isBlank _ some_left
    simpa only [← trimBlank_eq, eq, List.getLast_append_singleton] using ended

/-- A text that does not begin with a blank loses nothing in front. -/
theorem dropWhile_isBlank {cs : List Char} (begins : ∀ c ∈ cs.head?, ¬ isBlank c) :
    cs.dropWhile isBlank = cs := by
  cases cs with
  | nil => rfl
  | cons c cs => exact List.dropWhile_cons_of_neg (begins c rfl)

/-- **Trimming finds what is left of a text without the blanks around it**, and nothing else is:
`Trims text` has one `rest`. -/
theorem trims_iff : Trims text rest ↔ rest = trimBlank text := by
  constructor
  · intro trims
    obtain ⟨front, back, rfl, blank⟩ := trims.surrounded
    simp only [List.forall_mem_append, ← isBlank_iff] at blank
    rw [trimBlank, List.append_assoc, List.dropWhile_append_of_pos blank.1]
    -- if nothing is left, then the blanks at the end are blanks in front, too
    by_cases none_left : rest = []
    · rw [none_left, List.nil_append, List.dropWhile_eq_nil_iff.2 blank.2]
      rfl
    · have begins : ∀ c ∈ (rest ++ back).head?, ¬ isBlank c := by
        intro c first
        rw [List.head?_append_of_ne_nil _ none_left] at first
        exact mt (isBlank_iff c).1 (trims.begins c first)
      have ends : ∀ c ∈ rest.reverse.head?, ¬ isBlank c := by
        intro c last
        rw [List.head?_reverse] at last
        exact mt (isBlank_iff c).1 (trims.ends c last)
      have back_blank : ∀ c ∈ back.reverse, isBlank c := fun c mem =>
        blank.2 c (List.mem_reverse.1 mem)
      rw [dropWhile_isBlank begins, List.reverse_append, List.dropWhile_append_of_pos back_blank,
        dropWhile_isBlank ends, List.reverse_reverse]
  · rintro rfl
    exact trims_trimBlank text

/-! ### Rows of digits -/

namespace Hex

/-- The digits in lower case, in the order of their numbers, so that the place of a digit is its
`weight`. -/
def alphabet : List Char :=
  ['0', '1', '2', '3', '4', '5', '6', '7', '8', '9', 'a', 'b', 'c', 'd', 'e', 'f']

/-- **An ASCII hexadecimal digit** of either case. -/
def IsDigit (c : Char) : Prop := c.toLower ∈ alphabet

instance (c : Char) : Decidable (IsDigit c) := inferInstanceAs (Decidable (_ ∈ alphabet))

/-- The number of a digit, which is its place in the alphabet. -/
def weight (c : Char) : Nat := alphabet.idxOf c.toLower

/-- **The positional value of some digits**, the most significant first. -/
def positional (digits : List Char) : Nat := Nat.ofDigits 16 (digits.map weight).reverse

/-- The first digit counts as often as there are numerals of the digits behind it, which is `16 ^
digits.length` times. -/
theorem positional_cons (c : Char) (digits : List Char) :
    positional (c :: digits) = 16 ^ digits.length * weight c + positional digits := by
  rw [positional, List.map_cons, Nat.ofDigits_reverse_cons, List.length_map, positional,
    Nat.add_comm]

/-- The digits are ASCII characters: beyond ASCII `Char.toLower` changes nothing. -/
theorem IsDigit.toNat_lt {c : Char} (digit : IsDigit c) : c.toNat < 128 := by
  have ascii : ∀ d ∈ alphabet, d.toNat < 128 := by simp [alphabet]
  unfold IsDigit Char.toLower at digit
  -- a capital comes before the end of the ASCII letters, and any other character stays itself
  split at digit
  · next capital =>
    have le : c.toNat ≤ 'Z'.toNat := capital.2
    have last : 'Z'.toNat = 90 := rfl
    omega
  · exact ascii c digit

/-- A digit is no blank, so trimming takes none away. -/
theorem IsDigit.not_mem_whiteSpace {c : Char} (digit : IsDigit c) : c.toNat ∉ whiteSpace := by
  have ascii : ∀ n < 128, IsDigit (Char.ofNat n) → n ∉ whiteSpace := by decide +kernel
  exact ascii c.toNat digit.toNat_lt (by rwa [Char.ofNat_toNat])

/-- **What has the value of a digit are the digits**, and the value is `weight c`. -/
theorem digitValue?_eq (c : Char) :
    digitValue? c = if IsDigit c then some (weight c) else none := by
  -- below 128 all characters are tried; above, a character is behind each of the three ranges
  by_cases small : c.toNat < 128
  · have ascii : ∀ n < 128, digitValue? (Char.ofNat n) =
        if IsDigit (Char.ofNat n) then some (weight (Char.ofNat n)) else none := by
      decide +kernel
    have here := ascii c.toNat small
    rwa [Char.ofNat_toNat] at here
  · have above : ∀ d : Char, d.toNat < 128 → ¬ c ≤ d := fun d ascii le =>
      small (Nat.lt_of_le_of_lt le ascii)
    rw [if_neg fun digit => small digit.toNat_lt, digitValue?,
      if_neg fun range => above '9' (by decide) range.2,
      if_neg fun range => above 'F' (by decide) range.2,
      if_neg fun range => above 'f' (by decide) range.2]

/-- **Digits are taken into a value** that was read before, and nothing else is. What was read
counts `16 ^ cs.length` times. -/
theorem foldlM_accumulate_eq_some_iff {cs : List Char} {value n : Nat} :
    cs.foldlM accumulate value = some n ↔
      (∀ c ∈ cs, IsDigit c) ∧ 16 ^ cs.length * value + positional cs = n := by
  induction cs generalizing value with
  | nil => simp [positional]
  | cons c cs ih =>
    rw [List.foldlM_cons, accumulate, digitValue?_eq, List.forall_mem_cons]
    by_cases digit : IsDigit c
    -- a digit moves what was read one place up
    · have moved : 16 ^ cs.length * (16 * value + weight c) + positional cs =
          16 ^ (c :: cs).length * value + positional (c :: cs) := by
        rw [positional_cons, List.length_cons]
        ring
      rw [if_pos digit, Option.map_some, Option.bind_eq_bind, Option.bind_some, ih, moved]
      simp only [digit, true_and]
    · rw [if_neg digit]
      simp [digit]

/-- **Rows of digits are what has a value**, and this is their `positional` value; an empty row has
none. -/
theorem value?_eq_some_iff {cs : List Char} {n : Nat} :
    value? cs = some n ↔ cs ≠ [] ∧ (∀ c ∈ cs, IsDigit c) ∧ positional cs = n := by
  cases cs with
  | nil => simp [value?]
  | cons c cs =>
    rw [value?, foldlM_accumulate_eq_some_iff, Nat.mul_zero, Nat.zero_add]
    · simp
    · simp

/-! ### Widths -/

/-- **A number has no more digits than it needs**, at most `width` if it is below `16 ^ width`. -/
theorem length_digits_le (letters : Letters) {width n : Nat} (some : 0 < width)
    (fits : n < 16 ^ width) : (digits letters n).length ≤ width := by
  induction width generalizing n with
  | zero => exact absurd some (Nat.lt_irrefl 0)
  | succ width ih =>
    unfold digits
    split
    · exact some
    · next large =>
      -- the last digit leaves a number that has at least one more
      have more : 0 < width := by
        cases width with
        | zero => exact absurd fits large
        | succ width => exact Nat.succ_pos width
      have front := ih more (Nat.div_lt_of_lt_mul (by rwa [Nat.mul_comm, ← Nat.pow_succ]))
      rw [List.length_append, List.length_singleton]
      exact Nat.succ_le_succ front

/-- **A number that fits a width is padded to it**, and none of its digits is cut off. -/
theorem length_padded {width n : Nat} (some : 0 < width) (fits : n < 16 ^ width) :
    (padded width n).length = width := by
  rw [padded, List.length_leftpad]
  exact Nat.max_eq_left (length_digits_le .upper some fits)

end Hex

end Text

namespace Offset

open Text

/-! ### Numerals -/

/-- **A numeral and its number**: some digits, behind `0x` or `0X` or without a marker. -/
inductive Numeral : List Char → Nat → Prop where
  /-- Digits alone. -/
  | plain {digits : List Char} (some : digits ≠ []) (all : ∀ c ∈ digits, Hex.IsDigit c) :
    Numeral digits (Hex.positional digits)
  /-- Digits behind one marker. -/
  | marked {x : Char} {digits : List Char} (mark : x = 'x' ∨ x = 'X') (some : digits ≠ [])
    (all : ∀ c ∈ digits, Hex.IsDigit c) : Numeral ('0' :: x :: digits) (Hex.positional digits)

variable {cs front rest back : List Char} {text : String} {n : Nat} {fault : Fault}

/-- Digits have no marker to be dropped, since its letter is no digit. -/
theorem unmark_eq_self (all : ∀ c ∈ cs, Hex.IsDigit c) : unmark cs = cs := by
  have letters : ¬ Hex.IsDigit 'x' ∧ ¬ Hex.IsDigit 'X' := by decide
  unfold unmark
  split
  · exact absurd (all 'x' (by simp)) letters.1
  · exact absurd (all 'X' (by simp)) letters.2
  · rfl

/-- **A numeral is what has a value behind its marker**, and its number is that value: `Hex.value?
(unmark cs)`. -/
theorem numeral_iff : Numeral cs n ↔ Hex.value? (unmark cs) = some n := by
  constructor
  · intro numeral
    cases numeral with
    | plain some all =>
      rw [unmark_eq_self all]
      exact Hex.value?_eq_some_iff.2 ⟨some, all, rfl⟩
    | marked mark some all =>
      rcases mark with rfl | rfl <;> exact Hex.value?_eq_some_iff.2 ⟨some, all, rfl⟩
  · intro read
    unfold unmark at read
    split at read <;> obtain ⟨some, all, rfl⟩ := Hex.value?_eq_some_iff.1 read
    · exact .marked (Or.inl rfl) some all
    · exact .marked (Or.inr rfl) some all
    · exact .plain some all

/-- No character of a numeral is a blank, neither a digit nor the letter of the marker. -/
theorem Numeral.not_mem_whiteSpace (numeral : Numeral cs n) :
    ∀ c ∈ cs, c.toNat ∉ whiteSpace := by
  cases numeral with
  | plain _ all => exact fun c mem => (all c mem).not_mem_whiteSpace
  | marked mark _ all =>
    simp only [List.forall_mem_cons]
    refine ⟨by decide, ?_, fun c mem => (all c mem).not_mem_whiteSpace⟩
    rcases mark with rfl | rfl <;> decide

/-- A numeral is what is left when the blanks around it are taken away. -/
theorem Numeral.trims (numeral : Numeral rest n)
    (blank : ∀ c ∈ front ++ back, c.toNat ∈ whiteSpace) : Trims (front ++ rest ++ back) rest where
  surrounded := ⟨front, back, rfl, blank⟩
  begins c first := numeral.not_mem_whiteSpace c (List.mem_of_head? first)
  ends c last := numeral.not_mem_whiteSpace c (List.mem_of_getLast? last)

/-- **The digits of a number are numerals of it**, with any zeros in front, and so they are behind
the marker. -/
theorem numeral_toDigits (zeros n : Nat) :
    let digits := List.replicate zeros '0' ++ (Nat.toDigits 16 n).map Char.toUpper
    Numeral digits n ∧ Numeral ('0' :: 'x' :: digits) n := by
  intro digits
  have padded : digits =
      (Hex.digits .upper n).leftpad (zeros + (Hex.digits .upper n).length) '0' := by
    rw [List.leftpad, Nat.add_sub_cancel, ← Hex.map_toUpper_toDigits]
  have read : Hex.value? digits = some n := by
    rw [padded]
    exact Hex.value?_leftpad_digits .upper _ n
  obtain ⟨some, all, value⟩ := Hex.value?_eq_some_iff.1 read
  -- the number is that of the digits, so both constructors apply to it
  rw [← value]
  exact ⟨.plain some all, .marked (Or.inl rfl) some all⟩

/-! ### Reading -/

/-- The offsets among numerals are those below `2 ^ 64`. -/
theorem ofNumeral?_eq_some_iff : ofNumeral? cs = some n ↔ Numeral cs n ∧ n < 2 ^ 64 := by
  rw [ofNumeral?, Option.filter_eq_some_iff, numeral_iff, decide_eq_true_eq, largest]
  exact and_congr_right fun _ => by omega

/-- **An offset is read exactly if what is left of the text is a numeral below `2 ^ 64`.** -/
theorem parse_eq_ok_iff (trims : Trims text.toList rest) :
    parse text = .ok n ↔ Numeral rest n ∧ n < 2 ^ 64 := by
  rw [← ofNumeral?_eq_some_iff, trims_iff.1 trims, parse]
  cases ofNumeral? (trimBlank text.toList) <;> simp

/-- A numeral below `2 ^ 64` is read between any blanks, in `front` of it and in its `back`. -/
theorem parse_surrounded (numeral : Numeral rest n) (small : n < 2 ^ 64)
    (blank : ∀ c ∈ front ++ back, c.toNat ∈ whiteSpace) :
    parse (String.ofList (front ++ rest ++ back)) = .ok n := by
  have trims := numeral.trims blank
  rw [← String.toList_ofList (l := front ++ rest ++ back)] at trims
  exact (parse_eq_ok_iff trims).2 ⟨numeral, small⟩

/-- **A text that is refused is reported as it was given**, with the blanks around it. -/
theorem parse_eq_error_iff (trims : Trims text.toList rest) :
    parse text = .error fault ↔
      (∀ n, Numeral rest n → 2 ^ 64 ≤ n) ∧ fault = .malformedOffset text := by
  have refused : (∀ n, Numeral rest n → 2 ^ 64 ≤ n) ↔ ofNumeral? rest = none := by
    rw [Option.eq_none_iff_forall_ne_some]
    simp only [ne_eq, ofNumeral?_eq_some_iff, not_and, Nat.not_lt]
  rw [refused, trims_iff.1 trims, parse]
  cases ofNumeral? (trimBlank text.toList) <;> simp [eq_comm]

/-- **Reading an offset accepts exactly the numerals below 2^64.** One text is left of a text
without the blanks around it. If it is a numeral of a number below 2^64, then this number is read;
otherwise the text is refused as it was given. So the digits of every such number are read as the
number, with any zeros in front of them, with the marker or without it, and between any blanks. -/
theorem parse_accepts_numerals :
    (∀ text : String, (∃! rest, Trims text.toList rest) ∧
      ∀ rest, Trims text.toList rest →
        (∀ n, parse text = .ok n ↔ Numeral rest n ∧ n < 2 ^ 64) ∧
        ∀ fault, parse text = .error fault ↔
          (∀ n, Numeral rest n → 2 ^ 64 ≤ n) ∧ fault = .malformedOffset text) ∧
    ∀ (n zeros : Nat) (front back : List Char), n < 2 ^ 64 →
      (∀ c ∈ front ++ back, c.toNat ∈ whiteSpace) →
      let digits := List.replicate zeros '0' ++ (Nat.toDigits 16 n).map Char.toUpper
      parse (String.ofList (front ++ digits ++ back)) = .ok n ∧
        parse (String.ofList (front ++ '0' :: 'x' :: digits ++ back)) = .ok n := by
  constructor
  · intro text
    refine ⟨⟨trimBlank text.toList, trims_trimBlank _, fun rest trims => trims_iff.1 trims⟩, ?_⟩
    intro rest trims
    exact ⟨fun n => parse_eq_ok_iff trims, fun fault => parse_eq_error_iff trims⟩
  · intro n zeros front back small blank digits
    obtain ⟨plain, marked⟩ := numeral_toDigits zeros n
    exact ⟨parse_surrounded plain small blank, parse_surrounded marked small blank⟩

/-- A numeral between wide blanks, one of `2 ^ 64` that has zeros in front, and the largest offset.
-/
theorem parse_accepts_numerals_wide :
    Trims "\u2003 0X0fF\n".toList "0X0fF".toList ∧ Numeral "0X0fF".toList 0xFF ∧
    parse "\u2003 0X0fF\n" = .ok 0xFF ∧
    Trims "\t0010000000000000000".toList "0010000000000000000".toList ∧
    parse "\t0010000000000000000" = .error (.malformedOffset "\t0010000000000000000") ∧
    largest < 2 ^ 64 ∧ (∀ c ∈ ['\u3000'] ++ ['\r'], c.toNat ∈ whiteSpace) ∧
    parse (String.ofList (['\u3000'] ++ '0' :: 'x' :: (List.replicate 2 '0' ++
      (Nat.toDigits 16 largest).map Char.toUpper) ++ ['\r'])) = .ok largest := by
  have trims : Trims "\u2003 0X0fF\n".toList "0X0fF".toList := trims_iff.2 (by decide +kernel)
  have numeral : Numeral "0X0fF".toList 0xFF := numeral_iff.2 (by decide +kernel)
  have passes : Trims "\t0010000000000000000".toList "0010000000000000000".toList :=
    trims_iff.2 (by decide +kernel)
  have small : largest < 2 ^ 64 := by decide
  have blank : ∀ c ∈ ['\u3000'] ++ ['\r'], c.toNat ∈ whiteSpace := by simp [whiteSpace]
  obtain ⟨read, written⟩ := parse_accepts_numerals
  refine ⟨trims, numeral, (((read _).2 _ trims).1 _).2 ⟨numeral, by decide⟩, passes, ?_, small,
    blank, (written largest 2 _ _ small blank).2⟩
  refine (((read _).2 _ passes).2 _).2 ⟨fun n other => ?_, rfl⟩
  have value : Hex.value? (unmark "0010000000000000000".toList) = some (2 ^ 64) := by decide +kernel
  rw [numeral_iff, value] at other
  exact Nat.le_of_eq (Option.some.inj other)

end Offset

end LinearSweep
