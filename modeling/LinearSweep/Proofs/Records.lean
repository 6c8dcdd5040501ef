import LinearSweep.Container.Fields
import Mathlib

/-! # Records that are written

A number is written into a field of some bytes, and a record is a row of such fields. What is
written is read back, if each number fits its field.

* **`ByteOrder.bytes`** are the bytes of a number, **`ByteOrder.record`** those of a row of fields.
* **`ByteOrder.value_bytes`**: a number that fits its field is read back, and by
  **`ByteOrder.littleBytes_value`** so are the bytes that a number was read from.
* **`Image.Holds`** says that some bytes stand at an offset of an image, **`Image.HoldsRecord`**
  that a record does.
* **`Image.HoldsRecord.fields?_eq`**: a record that stands in an image is read back from it. -/

namespace LinearSweep

namespace ByteOrder

/-! ### Numbers -/

/-- The bytes of a number, the lowest first; what does not fit the width is dropped, so only `n %
256 ^ width` counts. -/
def littleBytes : Nat → Nat → List UInt8
  | 0, _ => []
  | width + 1, n => UInt8.ofNat n :: littleBytes width (n / 256)

/-- **The bytes of a number** in a field of some width. -/
def bytes (order : ByteOrder) (width n : Nat) : List UInt8 :=
  match order with
  | .little => littleBytes width n
  | .big => (littleBytes width n).reverse

/-- There are as many bytes as the field is wide, whatever the number. -/
@[simp] theorem length_littleBytes (width n : Nat) : (littleBytes width n).length = width := by
  induction width generalizing n with
  | zero => rfl
  | succ width ih => rw [littleBytes, List.length_cons, ih]

/-- There are as many bytes as the field is wide, in either order. -/
@[simp] theorem length_bytes (order : ByteOrder) (width n : Nat) :
    (order.bytes width n).length = width := by
  cases order with
  | little => exact length_littleBytes width n
  | big => rw [bytes, List.length_reverse, length_littleBytes]

/-- The value of some bytes, the lowest first, one byte at a time: each byte counts `256` times as
much as the one in front of it. -/
theorem value_little_cons (byte : UInt8) (rest : List UInt8) :
    little.value (byte :: rest) = byte.toNat + 256 * little.value rest := rfl

/-- The highest byte first is the lowest byte first from behind. -/
theorem value_big_reverse (field : List UInt8) : big.value field.reverse = little.value field := by
  show field.reverse.foldl (fun rest byte => 256 * rest + byte.toNat) 0 =
    field.foldr (fun byte rest => byte.toNat + 256 * rest) 0
  rw [List.foldl_reverse]
  congr 1
  funext byte rest
  exact Nat.add_comm ..

/-- The lowest bytes of a number hold its remainder, `n % 256 ^ width`. -/
theorem value_littleBytes (width n : Nat) :
    little.value (littleBytes width n) = n % 256 ^ width := by
  induction width generalizing n with
  | zero => exact (Nat.mod_one n).symm
  | succ width ih =>
    have lowest : (UInt8.ofNat n).toNat = n % 256 := UInt8.toNat_ofNat'
    rw [littleBytes, value_little_cons, ih, lowest, pow_succ', Nat.mod_mul]

/-- **A number that fits its field is read back**: below `256 ^ width` nothing of it is dropped. -/
theorem value_bytes (order : ByteOrder) {width n : Nat} (fits : n < 256 ^ width) :
    order.value (order.bytes width n) = n := by
  have held : little.value (littleBytes width n) = n := by
    rw [value_littleBytes, Nat.mod_eq_of_lt fits]
  cases order with
  | little => exact held
  | big => rw [bytes, value_big_reverse, held]

/-- **Bytes are those of the number that is read from them**, if it is written in as many. -/
theorem littleBytes_value (field : List UInt8) :
    littleBytes field.length (little.value field) = field := by
  induction field with
  | nil => rfl
  | cons byte rest ih =>
    have := byte.toNat_lt
    -- the lowest byte is the remainder, and the others are the quotient
    have quotient : (byte.toNat + 256 * little.value rest) / 256 = little.value rest := by omega
    have remainder : UInt8.ofNat (byte.toNat + 256 * little.value rest) = byte := by
      rw [← UInt8.toNat_inj, UInt8.toNat_ofNat']
      omega
    rw [List.length_cons, littleBytes, value_little_cons, quotient, remainder, ih]

/-- The value of some bytes fits them: it is below `256 ^ field.length`. -/
theorem value_little_lt (field : List UInt8) : little.value field < 256 ^ field.length := by
  have held := value_littleBytes field.length (little.value field)
  rw [littleBytes_value] at held
  rw [held]
  exact Nat.mod_lt _ (Nat.pow_pos (by decide))

/-! ### Records -/

/-- **The bytes of a row of fields**, each of which has a width and a number. -/
def record (order : ByteOrder) (fields : List (Nat × Nat)) : List UInt8 :=
  fields.flatMap fun field => order.bytes field.1 field.2

@[simp] theorem record_nil (order : ByteOrder) : order.record [] = [] := rfl

@[simp] theorem record_cons (order : ByteOrder) (field : Nat × Nat) (fields : List (Nat × Nat)) :
    order.record (field :: fields) = order.bytes field.1 field.2 ++ order.record fields := rfl

/-- A record is as long as its fields are wide. -/
theorem length_record (order : ByteOrder) (fields : List (Nat × Nat)) :
    (order.record fields).length = (fields.map Prod.fst).sum := by
  induction fields with
  | nil => rfl
  | cons field fields ih =>
    rw [record_cons, List.length_append, length_bytes, ih, List.map_cons, List.sum_cons]

end ByteOrder

/-! ### Bytes in an image -/

namespace Image

/-- **Some bytes stand at an offset of an image**: in front of them are `offset` others. -/
def Holds (image : Image) (offset : Nat) (bytes : List UInt8) : Prop :=
  ∃ before after, image.toList = before ++ bytes ++ after ∧ before.length = offset

namespace Holds

variable {image : Image} {offset : Nat} {bytes first second : List UInt8}

/-- What stands in an image ends in it, so `offset + bytes.length` is no more than its size. -/
theorem end_le (holds : image.Holds offset bytes) : offset + bytes.length ≤ image.size := by
  obtain ⟨before, after, eq, rfl⟩ := holds
  rw [← Array.length_toList, eq, List.length_append, List.length_append]
  omega

/-- The first part of what stands at an offset stands there. -/
theorem left (holds : image.Holds offset (first ++ second)) : image.Holds offset first := by
  obtain ⟨before, after, eq, length⟩ := holds
  exact ⟨before, second ++ after, by rw [eq]; simp only [List.append_assoc], length⟩

/-- The second part of what stands at an offset stands behind the first. -/
theorem right (holds : image.Holds offset (first ++ second)) :
    image.Holds (offset + first.length) second := by
  obtain ⟨before, after, eq, length⟩ := holds
  refine ⟨before ++ first, after, by rw [eq]; simp only [List.append_assoc], ?_⟩
  rw [List.length_append, length]

/-- **Of pieces that stand in a row** each stands behind those in front of it, here pieces of one
length. -/
theorem getElem {α : Type*} {pieces : List α} {piece : α → List UInt8} {width : Nat}
    (holds : image.Holds offset (pieces.flatMap piece))
    (length_eq : ∀ a, (piece a).length = width) (k : Nat) (within : k < pieces.length) :
    image.Holds (offset + k * width) (piece pieces[k]) := by
  -- the offset moves behind the first piece, and the number of the piece falls by one
  induction pieces generalizing offset k with
  | nil => cases within
  | cons a pieces ih =>
    rw [List.flatMap_cons] at holds
    cases k with
    | zero =>
      rw [Nat.zero_mul]
      exact holds.left
    | succ k =>
      have behind := ih holds.right k (Nat.lt_of_succ_lt_succ within)
      rw [length_eq a, Nat.add_assoc, Nat.add_comm width, ← Nat.succ_mul] at behind
      exact behind

/-- **What stands at an offset is the range of the image there**, which `slice?` gives. -/
theorem slice?_eq (holds : image.Holds offset bytes) :
    image.slice? offset bytes.length = some bytes := by
  have within := holds.end_le
  obtain ⟨before, after, eq, rfl⟩ := holds
  rw [slice?, if_pos within, Array.toList_extract, List.extract_eq_take_drop, eq,
    Nat.add_sub_cancel_left, List.append_assoc, List.drop_left, List.take_left]

/-- One byte stands at one offset: two texts that stand there begin alike. -/
theorem head_eq {a b : UInt8} (holds : image.Holds offset (a :: first))
    (holds' : image.Holds offset (b :: second)) : a = b := by
  have one : image.Holds offset ([a] ++ first) := holds
  have other : image.Holds offset ([b] ++ second) := holds'
  exact (List.cons.inj (Option.some.inj (one.left.slice?_eq.symm.trans other.left.slice?_eq))).1

/-- **Fields that stand in an image are read back**, if each of their numbers fits. -/
theorem fields?_eq {order : ByteOrder} {fields : List (Nat × Nat)}
    (holds : image.Holds offset (order.record fields))
    (fit : ∀ field ∈ fields, field.2 < 256 ^ field.1) :
    image.fields? order offset (fields.map Prod.fst) = some (fields.map Prod.snd) := by
  -- the offset moves behind the field that was read
  induction fields generalizing offset with
  | nil => rfl
  | cons field fields ih =>
    rw [List.forall_mem_cons] at fit
    rw [ByteOrder.record_cons] at holds
    have here := holds.left.slice?_eq
    have behind := holds.right
    rw [ByteOrder.length_bytes] at here behind
    rw [List.map_cons, fields?, here, ih behind fit.2, List.map_cons]
    show some (order.value (order.bytes field.1 field.2) :: _) = _
    rw [order.value_bytes fit.1]

end Holds

/-- **A record stands at an offset of an image**, each number in a field that it fits. -/
structure HoldsRecord (image : Image) (order : ByteOrder) (offset : Nat)
    (fields : List (Nat × Nat)) : Prop where
  /-- The bytes of the record stand there. -/
  holds : image.Holds offset (order.record fields)
  /-- The numbers fit the widths of their fields. -/
  fit : ∀ field ∈ fields, field.2 < 256 ^ field.1

/-- **A record that stands in an image is read back**: the widths are given, and the numbers are
found. -/
theorem HoldsRecord.fields?_eq {image : Image} {order : ByteOrder} {offset : Nat}
    {fields : List (Nat × Nat)} (record : image.HoldsRecord order offset fields) :
    image.fields? order offset (fields.map Prod.fst) = some (fields.map Prod.snd) :=
  record.holds.fields?_eq record.fit

end Image

end LinearSweep
