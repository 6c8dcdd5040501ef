import LinearSweep.Proofs.JsonRoundTrip
import LinearSweep.Report.Document
import LinearSweep.Text.Lines

/-! # JSON reports read back

What a reader finds in the two JSON reports of a listing, whatever text its instructions hold.

* **`Json.admits_write`**: a control character of a written value comes from the layout, so the text
  of a value without any space is one line.
* **`Instruction.ShownBy`** and **`Listing.ShownBy`** say field by field what the object of an
  instruction and the document of a listing hold, **`Entry.ShownBy`** which entries have objects. -/

namespace LinearSweep

open Text

/-! ### Control characters -/

namespace Json

variable {c : Char} {layout : Layout}

/-- **A character that may stand in a text of some layout**: one that is no control character, or
one that the layout puts between tokens. -/
def Layout.Admits (layout : Layout) (c : Char) : Prop :=
  0x20 ≤ c.toNat ∨ c ∈ layout.afterColon ∨ ∃ depth, c ∈ layout.newLine depth

/-- The written form of a character holds no control character, whatever the character is. -/
theorem le_of_mem_escape {d : Char} (mem : d ∈ escape c) : 0x20 ≤ d.toNat := by
  unfold escape at mem
  split at mem
  · next letter h =>
    rcases List.mem_cons.1 mem with rfl | mem
    · decide
    · obtain rfl := List.mem_singleton.1 mem
      unfold letter? at h
      split at h <;> cases h <;> decide
  · split at mem
    -- a backslash, the letter `u`, zeros that fill, and digits
    · have hexDigit : ∀ k < 16, 0x20 ≤ (Hex.digit .lower k).toNat := by decide
      rcases List.mem_append.1 mem with mem | mem
      · rcases List.mem_cons.1 mem with rfl | mem
        · decide
        · rw [List.mem_singleton.1 mem]
          decide
      · rcases List.mem_append.1 mem with mem | mem
        · rw [List.eq_of_mem_replicate mem]
          decide
        · obtain ⟨k, small, rfl⟩ := Hex.exists_of_mem_digits .lower mem
          exact hexDigit k small
    · next large =>
      obtain rfl := List.mem_singleton.1 mem
      omega

/-- A written string holds no control character, so each `layout.Admits` all of it. -/
theorem admits_writeString (text : String) : ∀ c ∈ writeString text, layout.Admits c := by
  simp only [writeString, List.cons_append, List.forall_mem_cons, List.forall_mem_append,
    List.mem_flatMap]
  refine ⟨.inl (by decide), ?_, .inl (by decide), List.forall_mem_nil _⟩
  rintro c ⟨d, -, mem⟩
  exact .inl (le_of_mem_escape mem)

/-- A written number holds no control character. -/
theorem admits_writeNumber (n : Nat) : ∀ c ∈ writeNumber n, layout.Admits c := by
  intro c mem
  have digit := Nat.isDigit_of_mem_toDigits (by decide) (by decide) mem
  exact .inl (Nat.le_trans (by decide) (Char.isDigit_iff_toNat.1 digit).1)

/-- What the layout puts in front of items may stand there. -/
theorem Layout.admits_newLine (depth : Nat) : ∀ c ∈ layout.newLine depth, layout.Admits c :=
  fun _ mem => .inr (.inr ⟨depth, mem⟩)

/-- What the layout puts behind colons may stand there. -/
theorem Layout.admits_afterColon : ∀ c ∈ layout.afterColon, layout.Admits c :=
  fun _ mem => .inr (.inl mem)

mutual

/-- **A control character of a written value comes from the layout**, by recursion on the value as
in `write`. -/
theorem admits_write : ∀ (j : Json) (depth : Nat), ∀ c ∈ write layout depth j, layout.Admits c
  | .number n, depth => by
    rw [write]
    exact admits_writeNumber n
  | .string text, depth => by
    rw [write]
    exact admits_writeString text
  | .array [], depth => by
    rw [write]
    simp only [List.forall_mem_cons]
    exact ⟨.inl (by decide), .inl (by decide), List.forall_mem_nil _⟩
  | .array (item :: items), depth => by
    simp only [write, List.cons_append, List.append_assoc, List.forall_mem_cons,
      List.forall_mem_append]
    exact ⟨.inl (by decide), layout.admits_newLine _, admits_write item _,
      admits_writeItems items _, layout.admits_newLine _, .inl (by decide), List.forall_mem_nil _⟩
  | .object [], depth => by
    rw [write]
    simp only [List.forall_mem_cons]
    exact ⟨.inl (by decide), .inl (by decide), List.forall_mem_nil _⟩
  | .object ((key, item) :: fields), depth => by
    simp only [write, List.cons_append, List.append_assoc, List.forall_mem_cons,
      List.forall_mem_append]
    exact ⟨.inl (by decide), layout.admits_newLine _, admits_writeString key, .inl (by decide),
      layout.admits_afterColon, admits_write item _, admits_writeFields fields _,
      layout.admits_newLine _, .inl (by decide), List.forall_mem_nil _⟩

/-- The same of the items behind the first of an array. -/
theorem admits_writeItems : ∀ (items : List Json) (depth : Nat),
    ∀ c ∈ writeItems layout depth items, layout.Admits c
  | [], depth => by
    rw [writeItems]
    exact List.forall_mem_nil _
  | item :: items, depth => by
    simp only [writeItems, List.cons_append, List.append_assoc, List.forall_mem_cons,
      List.forall_mem_append]
    exact ⟨.inl (by decide), layout.admits_newLine _, admits_write item _,
      admits_writeItems items _⟩

/-- The same of the fields behind the first of an object. -/
theorem admits_writeFields : ∀ (fields : List (String × Json)) (depth : Nat),
    ∀ c ∈ writeFields layout depth fields, layout.Admits c
  | [], depth => by
    rw [writeFields]
    exact List.forall_mem_nil _
  | (key, item) :: fields, depth => by
    simp only [writeFields, List.cons_append, List.append_assoc, List.forall_mem_cons,
      List.forall_mem_append]
    exact ⟨.inl (by decide), layout.admits_newLine _, admits_writeString key, .inl (by decide),
      layout.admits_afterColon, admits_write item _, admits_writeFields fields _⟩

end

/-- **The text of a value without any space is one line**: `Layout.compact` has no control
characters to put in. -/
theorem newline_not_mem_compact (j : Json) : '\n' ∉ j.compact.toList := by
  rw [compact, String.toList_ofList]
  intro mem
  rcases admits_write j 0 '\n' mem with control | behind | ⟨_, front⟩
  · revert control
    decide
  · cases behind
  · cases front

end Json

/-! ### What the reports show -/

/-- **An object shows an instruction**: under exactly these keys it has the instruction's data, and
it has a `"target"` exactly if the instruction has one. -/
structure Instruction.ShownBy (i : Instruction) (object : Json.Value) : Prop where
  /-- There are no other keys. -/
  keys_eq : object.keys = ["address", "size", "bytes", "mnemonic", "operands"] ++
    (if i.target.isSome then ["target"] else []) ++ ["line"]
  /-- The address in hexadecimal. -/
  address_eq : object.field? "address" = some (.string (Hex.marked i.address.toNat))
  /-- The size as a number. -/
  size_eq : object.field? "size" = some (.number i.size 0)
  /-- The bytes in hexadecimal. -/
  bytes_eq : object.field? "bytes" = some (.string i.rawHex)
  /-- The mnemonic, unchanged. -/
  mnemonic_eq : object.field? "mnemonic" = some (.string i.mnemonic)
  /-- The operands, unchanged. -/
  operands_eq : object.field? "operands" = some (.string i.operands)
  /-- The target in hexadecimal, where there is one. -/
  target_eq : object.field? "target" = i.target.map fun t => .string (Hex.marked t.toNat)
  /-- The line of the assembly view. -/
  line_eq : object.field? "line" = some (.string i.line)

/-- **Objects show entries**: there is one for each instruction, in order, and none for a skipped
byte. So the number of the `.recognized` entries is that of the objects. -/
inductive Entry.ShownBy : List Entry → List Json.Value → Prop where
  /-- No entry is shown by no object. -/
  | nil : ShownBy [] []
  /-- An instruction is shown by the next object. -/
  | recognized {i : Instruction} {entries : List Entry} {object : Json.Value}
      {objects : List Json.Value} (shown : i.ShownBy object) (rest : ShownBy entries objects) :
      ShownBy (.recognized i :: entries) (object :: objects)
  /-- A skipped byte is not shown. -/
  | skipped {address : Address} {byte : UInt8} {entries : List Entry} {objects : List Json.Value}
      (rest : ShownBy entries objects) : ShownBy (.skipped address byte :: entries) objects

/-- **A document shows a listing**, with its instructions as `objects`. There are six keys, and what
is under each of them is said. -/
structure Listing.ShownBy (l : Listing) (document : Json.Value) (objects : List Json.Value) :
    Prop where
  /-- There are no other keys. -/
  keys_eq : document.keys =
    ["start_offset", "base_address", "end_offset", "skipped_bytes", "instructions", "pseudo_code"]
  /-- The start in hexadecimal. -/
  start_eq : document.field? "start_offset" = some (.string (Hex.marked l.start))
  /-- The base in hexadecimal, as it was given. -/
  base_eq : document.field? "base_address" = some (.string (Hex.marked l.base.toNat))
  /-- The stop in hexadecimal. -/
  stop_eq : document.field? "end_offset" = some (.string (Hex.marked l.stop))
  /-- The number of the entries that are skipped bytes. -/
  skipped_eq : document.field? "skipped_bytes" =
    some (.number (l.entries.filter Entry.isSkipped).length 0)
  /-- The objects of the instructions. -/
  instructions_eq : document.field? "instructions" = some (.array objects)
  /-- The objects show the entries, in the order of the listing. -/
  objects_show : Entry.ShownBy l.entries objects
  /-- The lines of the pseudo-code. -/
  pseudoCode_eq : document.field? "pseudo_code" =
    some (.array (l.pseudoCode.lines.map Json.Value.string))

/-- The object that is written for an instruction shows it, with a target and without. -/
theorem Instruction.shownBy_toJson (i : Instruction) : i.ShownBy i.toJson.value := by
  cases h : i.target with
  | none =>
    constructor <;>
      simp [toJson, h, Json.value, Json.fieldValues, Json.Value.keys, Json.Value.field?]
  | some t =>
    constructor <;>
      simp [toJson, h, Json.value, Json.fieldValues, Json.Value.keys, Json.Value.field?]

/-- The objects that are written for the instructions among some entries show these entries. -/
theorem Entry.shownBy_toJson (entries : List Entry) :
    ShownBy entries ((entries.filterMap instruction?).map fun i => i.toJson.value) := by
  induction entries with
  | nil => exact .nil
  | cons entry entries ih =>
    cases entry with
    | recognized i => exact .recognized i.shownBy_toJson ih
    | skipped => exact .skipped ih

/-- The document that is written for a listing shows it, with the objects of `l.instructions`. -/
theorem Listing.shownBy_toJson (l : Listing) :
    l.ShownBy l.toJson.value (l.instructions.map fun i => i.toJson.value) where
  keys_eq := rfl
  start_eq := rfl
  base_eq := rfl
  stop_eq := rfl
  skipped_eq := by
    rw [← List.countP_eq_length_filter]
    rfl
  instructions_eq := by
    simp only [toJson, Json.value, Json.fieldValues, Json.Value.field?, Json.values_eq_map,
      List.map_map]
    rfl
  objects_show := Entry.shownBy_toJson l.entries
  pseudoCode_eq := by
    simp only [toJson, Json.value, Json.fieldValues, Json.Value.field?, Json.values_eq_map,
      List.map_map]
    rfl

/-- **The JSON reports of a listing read back.** The document shows the listing with all its text
unchanged, and the lines of the other report are the objects of its instructions, one on each line
and each with a newline at its end. -/
theorem Listing.read_json_reports (l : Listing) : ∃ document objects lines,
    Json.reader.read l.jsonText = some document ∧ l.ShownBy document objects ∧
    l.jsonLinesText.toList.splitOn '\n' = lines ++ [[]] ∧
    List.Forall₂ (fun line object => Json.reader.read (String.ofList line) = some object)
      lines objects := by
  refine ⟨l.toJson.value, l.instructions.map fun i => i.toJson.value,
    l.instructions.map fun i => i.toJson.compact.toList,
    Json.read_write Json.Layout.isBlank_indented l.toJson, l.shownBy_toJson, ?_, ?_⟩
  -- the text is cut at its newlines, and there are none within an object
  · have unbroken : ∀ line ∈ l.instructions.map fun i => i.toJson.compact,
        '\n' ∉ line.toList := by
      rw [List.forall_mem_map]
      exact fun i _ => i.toJson.newline_not_mem_compact
    have split := splitOn_join unbroken
    rw [List.map_map, List.map_map] at split
    exact split
  · rw [List.forall₂_map_left_iff, List.forall₂_map_right_iff]
    refine List.forall₂_same.2 fun i _ => ?_
    rw [String.ofList_toList]
    exact Json.read_write Json.Layout.isBlank_compact i.toJson

end LinearSweep
