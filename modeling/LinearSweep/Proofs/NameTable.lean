import LinearSweep.Container.Elf
import Mathlib

/-! # Names in a table of strings

A table of strings is a text in UTF-8 in which names end with a zero byte, and a name is found by
the number of bytes in front of it. The zero byte stands for the zero character and for nothing
else, so no other character of a name is taken for its end.

* **`utf8`** are the bytes of a text.
* **`zero_mem_utf8_iff`**: there is a zero byte for each zero character only.
* **`Elf.stringAt?_utf8`**: a name that stands in the table is found. -/

namespace LinearSweep

/-! ### Texts in bytes -/

/-- **The bytes of a text** in UTF-8. -/
def utf8 (text : String) : List UInt8 := text.toList.flatMap String.utf8EncodeChar

/-- The bytes of two texts in a row are theirs in a row: `utf8` goes with `++`. -/
@[simp] theorem utf8_append (first second : String) :
    utf8 (first ++ second) = utf8 first ++ utf8 second := by
  rw [utf8, String.toList_append, List.flatMap_append]
  rfl

/-- **A text is read back from its bytes**, which are valid by themselves. -/
theorem fromUTF8?_utf8 (text : String) : String.fromUTF8? (utf8 text).toByteArray = some text := by
  have bytes_eq : (utf8 text).toByteArray = text.toByteArray := String.utf8Encode_toList
  rw [bytes_eq, String.fromUTF8?, dif_pos text.isValidUTF8]
  rfl

/-- A number below `256` is not dropped to zero. -/
theorem ofNat_ne_zero {n : Nat} (positive : 0 < n) (fits : n < 256) : UInt8.ofNat n ≠ 0 := by
  intro zero
  have := congrArg UInt8.toNat zero
  rw [UInt8.toNat_ofNat', UInt8.toNat_zero, Nat.mod_eq_of_lt fits] at this
  omega

/-- **No byte of a character is zero**, unless the character is. -/
theorem ne_zero_of_mem_utf8EncodeChar {c : Char} (other : c ≠ '\x00') {byte : UInt8}
    (mem : byte ∈ String.utf8EncodeChar c) : byte ≠ 0 := by
  have positive : 0 < c.val.toNat := by
    rw [Nat.pos_iff_ne_zero]
    intro zero
    exact other (Char.ext (UInt32.toNat_inj.1 zero))
  rw [String.utf8EncodeChar] at mem
  -- behind the first 128 characters every byte has a mark in its highest bits
  split at mem
  · rw [List.mem_singleton] at mem
    exact mem ▸ ofNat_ne_zero positive (by omega)
  · split at mem
    · simp only [List.mem_cons, List.not_mem_nil, or_false] at mem
      rcases mem with rfl | rfl <;> exact ofNat_ne_zero (by omega) (by omega)
    · split at mem
      · simp only [List.mem_cons, List.not_mem_nil, or_false] at mem
        rcases mem with rfl | rfl | rfl <;> exact ofNat_ne_zero (by omega) (by omega)
      · simp only [List.mem_cons, List.not_mem_nil, or_false] at mem
        rcases mem with rfl | rfl | rfl | rfl <;> exact ofNat_ne_zero (by omega) (by omega)

/-- **There is a zero byte for each zero character only**, so `'\x00' ∉ name.toList` is what a name
needs. -/
theorem zero_mem_utf8_iff (text : String) : 0 ∈ utf8 text ↔ '\x00' ∈ text.toList := by
  rw [utf8, List.mem_flatMap]
  constructor
  · rintro ⟨c, mem, zero⟩
    by_contra absent
    -- if the zero character is absent, then each character is another one, and none of its bytes is
    -- zero
    have other : c ≠ '\x00' := fun eq => absent (eq ▸ mem)
    exact ne_zero_of_mem_utf8EncodeChar other zero rfl
  · intro mem
    exact ⟨'\x00', mem, by decide⟩

/-! ### Names -/

/-- What stands `behind` the first zero byte of a field does not matter. -/
theorem leadingText?_utf8 {name : String} (closed : '\x00' ∉ name.toList) (behind : List UInt8) :
    leadingText? (utf8 name ++ 0 :: behind) = some name := by
  have nonzero : ∀ byte ∈ utf8 name, decide (byte ≠ 0) = true := by
    intro byte mem
    refine decide_eq_true fun zero => ?_
    rw [zero, zero_mem_utf8_iff] at mem
    exact closed mem
  have first : (0 :: behind).takeWhile (fun byte => decide (byte ≠ 0)) = [] := by
    rw [List.takeWhile_cons_of_neg (by decide)]
  rw [leadingText?, List.takeWhile_append_of_pos nonzero, first, List.append_nil, fromUTF8?_utf8]

/-- **A name that stands in a table of strings is found** by the number of bytes in front of it. -/
theorem Elf.stringAt?_utf8 {name : String} (closed : '\x00' ∉ name.toList)
    (before after : String) :
    stringAt? (utf8 (before ++ (name ++ "\x00" ++ after))) (utf8 before).length = some name := by
  rw [utf8_append, stringAt?, List.drop_left, utf8_append, utf8_append, List.append_assoc]
  exact leadingText?_utf8 closed (utf8 after)

end LinearSweep
