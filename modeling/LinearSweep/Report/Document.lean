import LinearSweep.Json
import LinearSweep.Listing

/-! # JSON reports

* **`Instruction.toJson`** is the object of one instruction, **`Listing.toJson`** the document of
  a listing.
* **`Listing.jsonText`** is the document with a line for each item, **`Listing.jsonLinesText`** a
  line for each instruction. -/

namespace LinearSweep

open Text

/-- **The object of an instruction.** It has the key `target` exactly if the instruction has a
target. -/
def Instruction.toJson (i : Instruction) : Json :=
  .object
    ([("address", .string (Hex.marked i.address.toNat)),
      ("size", .number i.size),
      ("bytes", .string i.rawHex),
      ("mnemonic", .string i.mnemonic),
      ("operands", .string i.operands)] ++
     (i.target.map fun t => ("target", Json.string (Hex.marked t.toNat))).toList ++
     [("line", .string i.line)])

/-- **The document of a listing.** -/
def Listing.toJson (l : Listing) : Json :=
  .object
    [("start_offset", .string (Hex.marked l.start)),
     ("base_address", .string (Hex.marked l.base.toNat)),
     ("end_offset", .string (Hex.marked l.stop)),
     ("skipped_bytes", .number l.skipped),
     ("instructions", .array (l.instructions.map Instruction.toJson)),
     ("pseudo_code", .array (l.pseudoCode.lines.map Json.string))]

/-- **A listing as one JSON document**, `l.toJson` with a line for each item. -/
def Listing.jsonText (l : Listing) : String := l.toJson.indented

/-- **A listing as JSON lines**: `i.toJson` of each instruction on a line of its own. -/
def Listing.jsonLinesText (l : Listing) : String :=
  String.join (l.instructions.map fun i => i.toJson.compact ++ "\n")

end LinearSweep
