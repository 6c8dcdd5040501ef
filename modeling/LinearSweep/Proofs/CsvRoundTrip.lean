import LinearSweep.Proofs.Machine
import LinearSweep.Report.Table

/-! # Tables read back

Reads any table of comma-separated values, whoever wrote it. A field may stand between double
quotes; there it may hold anything, and a quote in it is written twice. Outside of quotes a comma
ends a field and a line break ends a record, be it a line feed, a carriage return or both in a row;
the last record may do without.

* **`Csv.Reader`** is the state of a machine, **`Csv.reader`** the machine.
* **`Csv.leads_writeField`**, **`Csv.leads_writeRecord`** and **`Csv.read_writeRecords`**: a written
  field, record and row of records read back.
* **`Csv.Writer.text_foldl_row_of_names`**: rows with the same names write one header, and by
  **`Listing.csvText_eq`** so does a listing, with or without rows. -/

namespace LinearSweep.Csv

open Text

/-! ### The reader -/

/-- **Where in a table the reader stands.** A record begins at `front` or at `carriage`. -/
inductive Place where
  /-- In front of a field. -/
  | front
  /-- In a field without quotes. -/
  | bare
  /-- In a field between quotes. -/
  | quoted
  /-- Behind a quote in a field between quotes: it ends the field, or is the first of two. -/
  | quote
  /-- Behind a carriage return that ended a record. -/
  | carriage
deriving DecidableEq

/-- **The state of the reader**, with what was read so far. -/
structure Reader where
  /-- Where the reader stands. -/
  place : Place := .front
  /-- The characters of the field that is read now. -/
  field : List Char := []
  /-- The fields before it in its record. -/
  record : List String := []
  /-- The records before that. -/
  records : List (List String) := []

namespace Reader

/-- End a field, which joins `record`; the reader is in front of the next one. -/
def endField (r : Reader) : Reader :=
  { record := r.record ++ [String.ofList r.field], records := r.records }

/-- End a record together with its last field: it joins `records`. -/
def endRecord (r : Reader) : Reader :=
  { records := r.records ++ [r.record ++ [String.ofList r.field]] }

/-- Add a character to the field. -/
def push (r : Reader) (place : Place) (c : Char) : Reader :=
  { r with place, field := r.field ++ [c] }

/-- Take a character that ends a field, and give `none` for any other. -/
def separate (r : Reader) (c : Char) : Option Reader :=
  if c = ',' then some r.endField
  else if c = '\n' then some r.endRecord
  else if c = '\r' then some { r.endRecord with place := .carriage }
  else none

/-- Take the first character of a field, which stands between quotes if that is one. -/
def begin (r : Reader) (c : Char) : Option Reader :=
  if c = '\"' then some { r with place := .quoted } else r.separate c <|> some (r.push .bare c)

/-- **Take one more character**, if it may stand there. -/
def step (r : Reader) (c : Char) : Option Reader :=
  match r.place with
  | .front => r.begin c
  | .bare => if c = '\"' then none else r.separate c <|> some (r.push .bare c)
  | .quoted => some (if c = '\"' then { r with place := .quote } else r.push .quoted c)
  | .quote => if c = '\"' then some (r.push .quoted c) else r.separate c
  | .carriage => if c = '\n' then some { r with place := .front } else r.begin c

/-- The records that were read, if the table may end here. It may not between quotes, and behind a
line break no further record begins. -/
def result? (r : Reader) : Option (List (List String)) :=
  match r.place with
  | .front => some (if r.record.isEmpty then r.records else r.endRecord.records)
  | .bare | .quote => some r.endRecord.records
  | .quoted => none
  | .carriage => some r.records

end Reader

/-- **The reader of tables**, which begins in front of a field with `{}`. -/
def reader : Machine Reader (List (List String)) where
  start := {}
  step := Reader.step
  result? := Reader.result?

/-! ### Written tables -/

variable {c : Char} {cs : List Char} {record : List String} {records : List (List String)}

/-- A place where a field may end: where it has not begun, `bare`, or behind a closing `quote`. -/
def Place.EndsField (place : Place) : Prop := place = .front ∨ place = .bare ∨ place = .quote

/-- Where a field may end, a comma does `endField` and a line feed `endRecord`. -/
theorem step_of_endsField {r : Reader} (ends : r.place.EndsField) :
    reader.step r ',' = some r.endField ∧ reader.step r '\n' = some r.endRecord := by
  obtain ⟨place, field, record, records⟩ := r
  rcases ends with is | is | is <;> cases is <;> exact ⟨rfl, rfl⟩

/-- A character that needs no quotes neither ends a field nor begins a quoted one: `isSpecial` has
all that do. -/
theorem separate_eq_none (plain : isSpecial c = false) (r : Reader) :
    r.separate c = none ∧ c ≠ '\"' := by
  simp only [isSpecial, Bool.or_eq_false_iff, decide_eq_false_iff_not] at plain
  obtain ⟨⟨⟨comma, quote⟩, carriage⟩, line⟩ := plain
  exact ⟨by rw [Reader.separate, if_neg comma, if_neg line, if_neg carriage], quote⟩

/-- Within a field without quotes, characters that need none are read as they are, behind those
`before`. -/
theorem leads_bare (before : List Char) (plain : ∀ c ∈ cs, isSpecial c = false) :
    reader.Leads ⟨.bare, before, record, records⟩ cs ⟨.bare, before ++ cs, record, records⟩ := by
  induction cs generalizing before with
  | nil => rw [List.append_nil]; exact .nil _
  | cons c cs ih =>
    rw [List.forall_mem_cons] at plain
    have next := ih (before ++ [c]) plain.2
    rw [List.append_assoc, List.singleton_append] at next
    obtain ⟨inside, quote⟩ := separate_eq_none plain.1 ⟨.bare, before, record, records⟩
    refine .cons ?_ next
    simp [reader, Reader.step, inside, quote, Reader.push]

/-- **A field that needs no quotes is read as it is**, and may end behind it, where
`place.EndsField`. -/
theorem leads_plain (plain : ∀ c ∈ cs, isSpecial c = false) : ∃ place : Place, place.EndsField ∧
    reader.Leads ⟨.front, [], record, records⟩ cs ⟨place, cs, record, records⟩ := by
  cases cs with
  | nil =>
    -- the empty field has no character that leads away from its front
    exact ⟨.front, .inl rfl, .nil _⟩
  | cons c cs =>
    rw [List.forall_mem_cons] at plain
    obtain ⟨inside, quote⟩ := separate_eq_none plain.1 ⟨.front, [], record, records⟩
    refine ⟨.bare, .inr (.inl rfl), .cons ?_ (leads_bare [c] plain.2)⟩
    simp [reader, Reader.step, Reader.begin, inside, quote, Reader.push]

/-- Between quotes all characters are read, and two quotes, which `double` makes of one, as that
one. -/
theorem leads_double (before cs : List Char) :
    reader.Leads ⟨.quoted, before, record, records⟩ (cs.flatMap double)
      ⟨.quoted, before ++ cs, record, records⟩ := by
  induction cs generalizing before with
  | nil => rw [List.append_nil]; exact .nil _
  | cons c cs ih =>
    have next := ih (before ++ [c])
    rw [List.append_assoc, List.singleton_append] at next
    refine .append ?_ next
    unfold double
    split
    · next quote =>
      rw [quote]
      exact .cons rfl (.singleton rfl)
    · next other =>
      refine .singleton ?_
      simp [reader, Reader.step, other, Reader.push]

/-- **A written field is read as the field**, with quotes or without, and may end behind it. -/
theorem leads_writeField (field : String) (record : List String) (records : List (List String)) :
    ∃ place : Place, place.EndsField ∧
      reader.Leads ⟨.front, [], record, records⟩ (writeField field)
        ⟨place, field.toList, record, records⟩ := by
  -- a field with a special character stands between quotes, any other as it is
  unfold writeField
  split
  · refine ⟨.quote, .inr (.inr rfl), .cons rfl ?_⟩
    exact (leads_double [] field.toList).append (.singleton rfl)
  · next plain =>
    rw [List.any_eq_true] at plain
    exact leads_plain fun c mem => by
      by_contra special
      exact plain ⟨c, mem, Bool.eq_true_of_not_eq_false special⟩

/-- A record of one field is the field and the end of its line, without a comma. -/
theorem writeRecord_singleton (field : String) :
    writeRecord [field] = writeField field ++ ['\n'] := by
  rw [writeRecord, List.map_singleton, List.intercalate_singleton]

/-- Behind the first of several fields comes a comma, and the record of the others. -/
theorem writeRecord_cons_cons (field next : String) (fields : List String) :
    writeRecord (field :: next :: fields) =
      writeField field ++ ',' :: writeRecord (next :: fields) := by
  simp only [writeRecord, List.map_cons, List.intercalate_cons_cons, List.append_assoc,
    List.cons_append, List.nil_append]

/-- **A written record is read as its fields**, behind those that were read before: a `record` that
was begun, and the `records`. -/
theorem leads_writeRecord {fields : List String} (filled : fields ≠ []) (record : List String)
    (records : List (List String)) :
    reader.Leads ⟨.front, [], record, records⟩ (writeRecord fields)
      ⟨.front, [], [], records ++ [record ++ fields]⟩ := by
  induction fields generalizing record with
  | nil => exact absurd rfl filled
  | cons field fields ih =>
    obtain ⟨place, ends, leads⟩ := leads_writeField field record records
    obtain ⟨comma, line⟩ := step_of_endsField (r := ⟨place, field.toList, record, records⟩) ends
    rw [Reader.endField, String.ofList_toList] at comma
    rw [Reader.endRecord, String.ofList_toList] at line
    cases fields with
    | nil =>
      rw [writeRecord_singleton]
      exact leads.append (.singleton line)
    -- the comma leads to the front of the next field, with this one in the record
    | cons next fields =>
      have others := ih (List.cons_ne_nil next fields) (record ++ [field])
      rw [List.append_assoc, List.singleton_append] at others
      rw [writeRecord_cons_cons]
      exact leads.append (.cons comma others)

/-- Written records are read behind those that were read before. -/
theorem leads_writeRecords (before : List (List String))
    (filled : ∀ record ∈ records, record ≠ []) :
    reader.Leads ⟨.front, [], [], before⟩ (records.flatMap writeRecord)
      ⟨.front, [], [], before ++ records⟩ := by
  induction records generalizing before with
  | nil => rw [List.append_nil]; exact .nil _
  | cons record records ih =>
    rw [List.forall_mem_cons] at filled
    have others := ih (before ++ [record]) filled.2
    rw [List.append_assoc, List.singleton_append] at others
    exact (leads_writeRecord filled.1 [] before).append others

/-- **Written records read back**, if every record has a field; one without would read back as one
with the field `""`. -/
theorem read_writeRecords (filled : ∀ record ∈ records, record ≠ []) :
    reader.read (String.ofList (records.flatMap writeRecord)) = some records :=
  Machine.read_eq_of_leads (leads_writeRecords [] filled)

/-- A field with a comma, a quote and a line break. -/
example : reader.read (String.ofList ([["a,\"b\r\n", ""], ["c", "d"]].flatMap writeRecord)) =
    some [["a,\"b\r\n", ""], ["c", "d"]] := by
  cbv

/-! ### Headers -/

namespace Writer

variable {w : Writer}

/-- Where no header is due, a row is the record of its values, `fields.map Prod.snd`. -/
theorem row_of_not_due (later : w.headerDue = false) (fields : List (String × String)) :
    w.row fields = w.record (fields.map Prod.snd) := by
  rw [row, later, if_neg Bool.false_ne_true]

/-- **The first row has the record of its names in front**, and behind it no header is due:
`headerDue := false`. -/
theorem row_of_due (due : w.headerDue = true) (fields : List (String × String)) :
    w.row fields =
      { (w.record (fields.map Prod.fst)).record (fields.map Prod.snd) with
        headerDue := false } := by
  rw [row, due, if_pos rfl]
  rfl

/-- The text of a record stands behind `w.text`, what was written before. -/
theorem text_record (w : Writer) (fields : List String) :
    (w.record fields).text = w.text ++ String.ofList (writeRecord fields) := rfl

/-- **Rows behind the first write their values**, and no header comes between them, since
`headerDue` stays `false`. -/
theorem text_foldl_row (later : w.headerDue = false) (rows : List (List (String × String))) :
    (rows.foldl row w).text =
      w.text ++ String.ofList ((rows.map (·.map Prod.snd)).flatMap writeRecord) := by
  induction rows generalizing w with
  | nil => exact String.append_empty.symm
  | cons fields rows ih =>
    have still : (w.record (fields.map Prod.snd)).headerDue = false := later
    rw [List.foldl_cons, row_of_not_due later, ih still, text_record, List.map_cons,
      List.flatMap_cons, String.ofList_append, String.append_assoc]

/-- **Rows with the same names write these once**, in front of all values. Only the first row has to
have them. -/
theorem text_foldl_row_of_names {names : List String} {fields : List (String × String)}
    (named : fields.map Prod.fst = names) (rows : List (List (String × String))) :
    ((fields :: rows).foldl row {}).text =
      String.ofList ((names :: (fields :: rows).map (·.map Prod.snd)).flatMap writeRecord) := by
  rw [List.foldl_cons, row_of_due rfl, text_foldl_row rfl, named]
  show "" ++ String.ofList _ ++ String.ofList _ ++ _ = _
  rw [String.empty_append, List.map_cons, List.flatMap_cons, List.flatMap_cons,
    String.ofList_append, String.ofList_append, String.append_assoc]

end Writer

end LinearSweep.Csv

namespace LinearSweep

open Text

/-! ### Tables of listings -/

/-- **The records of an entry** in a table: one of five fields for an instruction, `[]` for a
skipped byte. -/
def Entry.tableRecords : Entry → List (List String)
  | .recognized i =>
    [[Hex.marked i.address.toNat, toString i.size, i.rawHex, i.mnemonic, i.operands]]
  | .skipped _ _ => []

/-- The values of the rows of a listing are the records of its entries: `Instruction.toRow` and
`Entry.tableRecords` agree, column by column. -/
theorem Listing.map_toRow (l : Listing) :
    (l.instructions.map fun i => i.toRow.map Prod.snd) = l.entries.flatMap Entry.tableRecords := by
  -- each entry gives its records on its own, so the induction is on the entries
  rw [instructions]
  induction l.entries with
  | nil => rfl
  | cons entry entries ih =>
    rw [List.flatMap_cons, ← ih]
    cases entry <;> rfl

/-- **There are two ways to the column names, and one line of them.** Without an instruction
`tableHeader` is written on its own, otherwise the first row brings it along. -/
theorem Listing.csvText_eq (l : Listing) :
    l.csvText =
      String.ofList ((tableHeader :: l.instructions.map fun i => i.toRow.map Prod.snd).flatMap
        Csv.writeRecord) := by
  rw [csvText]
  cases l.instructions with
  | nil => exact String.empty_append
  | cons i instructions =>
    have named : i.toRow.map Prod.fst = tableHeader := rfl
    -- all rows have the names of the first, since these do not depend on the instruction
    have rows := Csv.Writer.text_foldl_row_of_names named (instructions.map Instruction.toRow)
    rw [← List.map_cons, List.foldl_map, List.map_map] at rows
    exact rows

/-- **The table of a listing reads back**: the names of the columns, once and also where there are
no instructions, and below them the records of `l.entries`, with their text unchanged. -/
theorem Listing.read_csvText (l : Listing) : Csv.reader.read l.csvText = some
    (["address", "size", "bytes", "mnemonic", "operands"] ::
      l.entries.flatMap Entry.tableRecords) := by
  rw [csvText_eq, map_toRow]
  apply Csv.read_writeRecords
  simp only [List.forall_mem_cons, List.mem_flatMap]
  refine ⟨List.cons_ne_nil _ _, ?_⟩
  rintro record ⟨entry, -, mem⟩
  cases entry with
  | recognized i =>
    obtain rfl := List.mem_singleton.1 mem
    exact List.cons_ne_nil _ _
  | skipped => cases mem

end LinearSweep
