import LinearSweep.PseudoCode

/-! # Listings

* **`Listing`** is the outcome of a sweep: where it began and ended, and the entries between.
* **`Listing.instructions`** and **`Listing.skipped`** count its entries by kind.
* **`Listing.assembly`** and **`Listing.pseudoCode`** are its two views. -/

namespace LinearSweep

/-- **The entries of one sweep** from `start` to `stop`, in the order of the image. -/
structure Listing where
  /-- The offset where the sweep began. -/
  start : Nat
  /-- The address of offset 0, as it was given. -/
  base : Address
  /-- The entries, skipped bytes included. -/
  entries : List Entry
  /-- The offset where the sweep stopped. -/
  stop : Nat
deriving DecidableEq

namespace Listing

/-- The address of the first byte, `Address.ofOffset l.base l.start`. -/
def startAddress (l : Listing) : Address := Address.ofOffset l.base l.start

/-- **The instructions of a listing**: its entries that are `.recognized`, in order. -/
def instructions (l : Listing) : List Instruction := l.entries.filterMap Entry.instruction?

/-- **The number of skipped bytes**: of the entries that are `.skipped`, each of which covers one.
-/
def skipped (l : Listing) : Nat := l.entries.countP Entry.isSkipped

/-- The number of bytes from the start to the stop, `l.stop - l.start`. -/
def consumed (l : Listing) : Nat := l.stop - l.start

/-- **The lines of the assembly view**: `Instruction.line` of each instruction. Skipped bytes have
none. -/
def assembly (l : Listing) : List String := l.instructions.map Instruction.line

/-- **The pseudo-code view**, named after `l.startAddress`. -/
def pseudoCode (l : Listing) : PseudoCode := PseudoCode.ofEntries l.startAddress l.entries

/-- The body of the pseudo-code view depends on `l.entries` alone. -/
@[simp] theorem body_pseudoCode (l : Listing) :
    l.pseudoCode.body = PseudoCode.statements l.entries := rfl

end Listing

end LinearSweep
