/-! # Tables of comma-separated values

A table is written record by record. A row has a name for each of its fields, and the first row
writes a header of these names in front of itself; a record has no names and writes no header.

* **`Csv.writeField`** writes one field, between quotes where it holds a separator, and
  **`Csv.writeRecord`** the fields of one record and the end of its line.
* **`Csv.Writer`** is what was written so far, **`Csv.Writer.record`** and **`Csv.Writer.row`** go
  on. -/

namespace LinearSweep.Csv

/-- The characters that a field may hold only between quotes: comma, quote, `\r` and `\n`. -/
def isSpecial (c : Char) : Bool := c = ',' || c = '\"' || c = '\r' || c = '\n'

/-- One character between quotes: a quote is written twice. -/
def double (c : Char) : List Char := if c = '\"' then ['\"', '\"'] else [c]

/-- **One field**, as it is or between quotes, which it needs if a character of it `isSpecial`. -/
def writeField (field : String) : List Char :=
  if field.toList.any isSpecial then '\"' :: field.toList.flatMap double ++ ['\"']
  else field.toList

/-- **One record**: its fields by `writeField` with commas between, and a newline. -/
def writeRecord (fields : List String) : List Char :=
  [','].intercalate (fields.map writeField) ++ ['\n']

/-- **What was written of a table.** -/
structure Writer where
  /-- The text so far. -/
  text : String := ""
  /-- Whether the next row is the first one. -/
  headerDue : Bool := true
deriving DecidableEq, Repr

namespace Writer

/-- **Write a record.** Also behind one, a header stays due: `headerDue` is not changed. -/
def record (w : Writer) (fields : List String) : Writer :=
  { w with text := w.text ++ String.ofList (writeRecord fields) }

/-- **Write a row** of named fields, with the record of their names in front of it if a header is
due. -/
def row (w : Writer) (fields : List (String × String)) : Writer :=
  -- only a row knows the names of its fields
  let headed :=
    if w.headerDue then { w.record (fields.map Prod.fst) with headerDue := false } else w
  headed.record (fields.map Prod.snd)

end Writer

end LinearSweep.Csv
