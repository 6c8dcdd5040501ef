import LinearSweep.Csv
import LinearSweep.Listing

/-! # Reports as tables

* **`Instruction.toRow`** is the row of one instruction.
* **`Listing.csvText`** is the table of a listing. Its line of column names comes from the first
  row, or is written on its own if there is no row. -/

namespace LinearSweep

open Text

/-- The names of the columns, for a table without rows; they are those of `Instruction.toRow`. -/
def tableHeader : List String := ["address", "size", "bytes", "mnemonic", "operands"]

/-- **The row of an instruction.** -/
def Instruction.toRow (i : Instruction) : List (String × String) :=
  [("address", Hex.marked i.address.toNat),
   ("size", toString i.size),
   ("bytes", i.rawHex),
   ("mnemonic", i.mnemonic),
   ("operands", i.operands)]

/-- **A listing as a table**: a `Csv.Writer.row` for each instruction, or the record of the column
names alone. -/
def Listing.csvText (l : Listing) : String :=
  let opened : Csv.Writer := if l.instructions.isEmpty then Csv.Writer.record {} tableHeader else {}
  (l.instructions.foldl (fun writer i => writer.row i.toRow) opened).text

end LinearSweep
