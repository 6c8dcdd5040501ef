import LinearSweep.Image

/-! # Records of fixed-width fields in an image

The headers of containers are records of natural numbers, each in a field of a few bytes. A
record is read by the list of the widths of its fields; it is there only if all of it lies in the
image.

* **`ByteOrder.value`** is the number that the bytes of a field hold.
* **`Image.fields?`** are the numbers of a record.
* **`leadingText?`** is the text of a name field, up to its first zero byte. -/

namespace LinearSweep

/-- **The order of the bytes of a number.** -/
inductive ByteOrder where
  /-- The lowest byte comes first. -/
  | little
  /-- The highest byte comes first. -/
  | big
deriving DecidableEq, Repr

/-- **The number that some bytes hold**, below `256 ^ bytes.length`. -/
def ByteOrder.value : ByteOrder → List UInt8 → Nat
  | .little, bytes => bytes.foldr (fun byte rest => byte.toNat + 256 * rest) 0
  | .big, bytes => bytes.foldl (fun rest byte => 256 * rest + byte.toNat) 0

namespace Image

/-- **The numbers of a record** at some offset, given the widths of its fields in bytes. It is
`none` if a field does not lie in the image. -/
def fields? (image : Image) (order : ByteOrder) (offset : Nat) : List Nat → Option (List Nat)
  | [] => some []
  | width :: widths => do
    let field ← slice? image offset width
    let rest ← fields? image order (offset + width) widths
    return order.value field :: rest

end Image

/-- **The text of a name field**: its bytes up to the first zero, and `none` if they are not UTF-8.
-/
def leadingText? (field : List UInt8) : Option String :=
  String.fromUTF8? (field.takeWhile (· ≠ 0)).toByteArray

end LinearSweep
