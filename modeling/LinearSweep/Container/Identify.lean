import LinearSweep.Container.Elf
import LinearSweep.Container.MachO
import LinearSweep.Container.Pe

/-! # The reader at hand

* **`Object.read?`** goes by the first bytes of an image; it rejects what is shorter than sixteen
  bytes, and what has a broken header.
* **`Container.identify`** is the parser that rests on it. -/

namespace LinearSweep

/-- The size from which on an image is looked at; anything smaller is rejected unread. -/
def Container.minimalSize : Nat := 16

/-- **The object in an image**, or `none` if the image is rejected. -/
def Object.read? (image : Image) : Option Object :=
  let leading := (image.extract 0 4).toList
  if image.size < Container.minimalSize then none
  else if leading = Elf.magic then Elf.object? image
  else if leading.take 2 = Pe.magic then Pe.object? image
  -- the bytes of an archive are none of the four that `MachO.encoding?` knows
  else if leading = MachO.archiveMagic then some .archive
  else match MachO.encoding? leading with
    | some e => MachO.object? image e
    | none => some .other

/-- **What an image says about itself**, as `Object.read?` finds it. -/
def Container.identify : Container.Parser := Container.recognize Object.read?

end LinearSweep
