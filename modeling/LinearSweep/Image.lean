/-! # Images

* **`Image`** is the sequence of bytes to be disassembled.
* **`Image.byte`** is the byte at an offset, **`Image.following`** are some bytes behind it, as
  far as the image has them.
* **`Image.slice?`** are the bytes of a range, if all of it lies in the image. -/

namespace LinearSweep

/-- **An image**: the bytes to be disassembled. -/
abbrev Image := Array UInt8

namespace Image

/-- The byte at an offset, which is an index of the image and so always there. -/
def byte (image : Image) (offset : Fin image.size) : UInt8 := image[offset]

/-- **The bytes behind an offset**, at most `count`, and fewer where the image ends: those at
`offset + 1`, `offset + 2` and so on. -/
def following (image : Image) (offset count : Nat) : List UInt8 :=
  (image.extract (offset + 1) (offset + 1 + count)).toList

/-- The bytes behind an offset are a piece of `image.toList`. -/
theorem following_eq (image : Image) (offset count : Nat) :
    following image offset count = (image.toList.drop (offset + 1)).take count := by
  simp [following, List.extract_eq_take_drop]

/-- **The bytes of a range of an image**, if all of it lies in the image: `none` if `image.size <
offset + length`. An empty range may stand at the very end. -/
def slice? (image : Image) (offset length : Nat) : Option (List UInt8) :=
  if offset + length ≤ image.size then some (image.extract offset (offset + length)).toList
  else none

end Image

end LinearSweep
