import LinearSweep.Proofs.ElfReader

/-! # Section tables and the images that hold them

A section table says which parts an ELF image has. It can be laid out in fields of four bytes or of
eight, with the lowest byte first or the highest, and its pieces can stand anywhere in the image.

* **`Elf.Table`** is a section table, apart from any encoding; **`Elf.Table.container`** is what it
  says about code.
* **`Elf.Layout`** says that an image holds a table in an encoding, whatever else it holds.
* **`Elf.Table.image`** is one image that does, **`Elf.Table.layout`** shows it. -/

namespace LinearSweep.Elf

/-! ### Tables -/

/-- **The types of sections** that a table may have. -/
inductive SectionType where
  /-- Not a section, `SHT_NULL`. -/
  | null
  /-- Bytes of the program, `SHT_PROGBITS`. -/
  | program
  /-- A table of strings, `SHT_STRTAB`. -/
  | strings
  /-- Notes, `SHT_NOTE`. -/
  | note
  /-- Room in memory, without bytes in the image, `SHT_NOBITS`. -/
  | noBits
deriving DecidableEq, Repr

/-- The number of a type, as `sh_type` has it. -/
def SectionType.number : SectionType → Nat
  | .null => 0
  | .program => 1
  | .strings => 3
  | .note => 7
  | .noBits => 8

/-- **A section of a table**, with a name that can stand in a text of names; its address in memory
is zero. -/
structure Listed where
  /-- The name, which `sh_name` finds. -/
  name : String
  /-- The type, `sh_type`. -/
  type : SectionType
  /-- The flags, `sh_flags`. -/
  flags : UInt32
  /-- The offset of the first byte in the image, `sh_offset`. -/
  offset : UInt32
  /-- The number of bytes, `sh_size`. -/
  size : UInt32
  /-- The name does not hold the character that ends it. -/
  closed : '\x00' ∉ name.toList

namespace Listed

/-- **Whether code is executed from the section**: bit 1 of `flags` says that it is loaded, bit 2
that it is executable. A section without bytes in the image has no code. -/
def holdsCode (s : Listed) : Bool :=
  s.flags.toNat.testBit 1 && s.flags.toNat.testBit 2 && s.type ≠ .noBits

/-- The range of the section, under its name. -/
def region (s : Listed) : Region := ⟨s.name, s.offset.toNat, s.size.toNat⟩

/-- The section in front of all others, which is none; all of its header is zero. -/
def absent : Listed := ⟨"", .null, 0, 0, 0, by decide⟩

end Listed

/-- **A section table**, without the absent section in front. -/
structure Table where
  /-- The number of the machine, `e_machine`. -/
  machine : UInt16
  /-- The sections. -/
  sections : List Listed
  /-- The section that holds the names, `e_shstrndx` without the absent section. -/
  names : Fin sections.length
  /-- It is a table of strings. -/
  type_names : sections[names].type = .strings
  /-- With the absent section there are no more than the header can count. -/
  length_lt : sections.length + 1 < 2 ^ 16

namespace Table

/-- The section at an index, which counts from `0` without the absent section. -/
def listed (t : Table) (k : Fin t.sections.length) : Listed := t.sections[k]

/-- The section that holds the names. -/
def strings (t : Table) : Listed := t.listed t.names

/-- **What a table says about code**: the machine, and the sections with `holdsCode` in the order of
the table. -/
def container (t : Table) : Container where
  kind := .elf
  machine := if t.machine = 3 then .x86 else if t.machine = 62 then .x86wide else .other
  regions := (t.sections.filter Listed.holdsCode).map Listed.region

end Table

/-! ### Headers -/

namespace Encoding

/-- The size of the header of the image, with the first 16 bytes. -/
def headerSize (e : Encoding) : Nat := if e.wide then 64 else 52

end Encoding

/-- **What the header of an image holds beside the table.** Nothing of it is used. -/
structure Front (e : Encoding) where
  /-- The rest of the first 16 bytes, `e_ident` behind the encoding. -/
  ident : Vector UInt8 10
  /-- The type of the image, `e_type`. -/
  type : UInt16
  /-- The version of the format, `e_version`. -/
  version : UInt32
  /-- The address where the program begins, `e_entry`. -/
  entry : Fin (256 ^ e.word)
  /-- The offset of the program headers, `e_phoff`, of which there are none. -/
  programOffset : Fin (256 ^ e.word)
  /-- The flags of the machine, `e_flags`. -/
  flags : UInt32
  /-- The size of the header, `e_ehsize`. -/
  headerSize : UInt16
  /-- The size of a program header, `e_phentsize`. -/
  programSize : UInt16
  /-- The size of a section header, `e_shentsize`. -/
  sectionSize : UInt16

/-- **What the header of a section holds beside the section.** Of this, only `name` is used. -/
structure Place (e : Encoding) where
  /-- Where the name begins in the table of names, `sh_name`. -/
  name : UInt32
  /-- The index of another section, `sh_link`. -/
  link : UInt32
  /-- More about the section, `sh_info`. -/
  information : UInt32
  /-- The alignment in memory, `sh_addralign`. -/
  alignment : Fin (256 ^ e.word)
  /-- The size of an entry of a table, `sh_entsize`. -/
  entrySize : Fin (256 ^ e.word)

/-- Zero in a field of `e.word` bytes. -/
def Encoding.zero (e : Encoding) : Fin (256 ^ e.word) := ⟨0, Nat.pow_pos (by decide)⟩

/-- Nothing beside the section: all numbers are `0`. -/
def Place.blank (e : Encoding) : Place e := ⟨0, 0, 0, e.zero, e.zero⟩

namespace Encoding

/-- The fields of the header of an image behind its first 16 bytes. There are `count` section
headers from `start` on, and the section at `names` holds the names. -/
def headerFields (e : Encoding) (machine : UInt16) (start count names : Nat) (f : Front e) :
    List (Nat × Nat) :=
  [(2, f.type.toNat), (2, machine.toNat), (4, f.version.toNat), (e.word, f.entry),
    (e.word, f.programOffset), (e.word, start), (4, f.flags.toNat), (2, f.headerSize.toNat),
    (2, f.programSize.toNat), (2, 0), (2, f.sectionSize.toNat), (2, count), (2, names)]

/-- **The header of an image** that has a table: the bytes in front, and the record of
`e.headerFields`. -/
def header (e : Encoding) (t : Table) (start : Nat) (f : Front e) : List UInt8 :=
  [0x7F, 0x45, 0x4C, 0x46] ++ [e.widthByte, e.orderByte] ++ f.ident.toList ++
    e.order.record (e.headerFields t.machine start (t.sections.length + 1) (t.names.val + 1) f)

/-- The fields of the header of a section, in the order of `e.sectionWidths`. -/
def sectionFields (e : Encoding) (s : Listed) (p : Place e) : List (Nat × Nat) :=
  [(4, p.name.toNat), (4, s.type.number), (e.word, s.flags.toNat), (e.word, 0),
    (e.word, s.offset.toNat), (e.word, s.size.toNat), (4, p.link.toNat),
    (4, p.information.toNat), (e.word, p.alignment), (e.word, p.entrySize)]

/-- **The header of a section**, the record of `e.sectionFields`. -/
def sectionHeader (e : Encoding) (s : Listed) (p : Place e) : List UInt8 :=
  e.order.record (e.sectionFields s p)

variable (e : Encoding) (t : Table) (start : Nat) (f : Front e) (s : Listed) (p : Place e)

/-- The header of an image has `e.headerSize` bytes. -/
@[simp] theorem length_header : (e.header t start f).length = e.headerSize := by
  -- 16 bytes stand in front of the fields in either width
  have widths : 16 + ((e.headerFields t.machine start (t.sections.length + 1)
      (t.names.val + 1) f).map Prod.fst).sum = e.headerSize := by
    cases e with
    | mk wide order => cases wide <;> rfl
  rw [header, List.length_append, ByteOrder.length_record, ← widths]
  simp

/-- The header of a section has `e.sectionSize` bytes. -/
@[simp] theorem length_sectionHeader : (e.sectionHeader s p).length = e.sectionSize := by
  rw [sectionHeader, ByteOrder.length_record]
  cases e with
  | mk wide order => cases wide <;> rfl

/-- A number of four bytes fits the field of an offset, since `4 ≤ e.word`. -/
theorem lt_word {n : Nat} (small : n < 2 ^ 32) : n < 256 ^ e.word := by
  have wider : 4 ≤ e.word := by
    rw [word]
    split <;> decide
  exact small.trans_le (Nat.pow_le_pow_right (by decide : 0 < 256) wider)

/-- **The numbers of a section header fit their fields**: each is below `256 ^ width`. -/
theorem sectionFields_fit : ∀ field ∈ e.sectionFields s p, field.2 < 256 ^ field.1 := by
  have type_lt : s.type.number < 256 ^ 4 := by
    cases s.type <;> decide
  simp only [sectionFields, List.forall_mem_cons]
  exact ⟨p.name.toNat_lt, type_lt, e.lt_word s.flags.toNat_lt, e.lt_word (by decide),
    e.lt_word s.offset.toNat_lt, e.lt_word s.size.toNat_lt, p.link.toNat_lt,
    p.information.toNat_lt, p.alignment.isLt, p.entrySize.isLt, List.forall_mem_nil _⟩

/-- **The numbers of the header of an image fit their fields**, if the section headers begin within
the first `2 ^ 32` bytes. -/
theorem headerFields_fit (small : start < 2 ^ 32) :
    ∀ field ∈ e.headerFields t.machine start (t.sections.length + 1) (t.names.val + 1) f,
      field.2 < 256 ^ field.1 := by
  have count_lt := t.length_lt
  have names_lt : t.names.val + 1 < 256 ^ 2 := by
    have := t.names.isLt
    omega
  simp only [headerFields, List.forall_mem_cons]
  exact ⟨f.type.toNat_lt, t.machine.toNat_lt, f.version.toNat_lt, f.entry.isLt,
    f.programOffset.isLt, e.lt_word small, f.flags.toNat_lt, f.headerSize.toNat_lt,
    f.programSize.toNat_lt, by decide, f.sectionSize.toNat_lt, count_lt, names_lt,
    List.forall_mem_nil _⟩

end Encoding

/-! ### Layouts -/

/-- **An image holds a table**, without program headers. The section headers stand in a row behind
the one of the absent section, and every name stands in `text`. Nothing is said of the other bytes
of the image. -/
structure Layout (t : Table) (e : Encoding) (image : Image) where
  /-- What the header holds beside the table. -/
  front : Front e
  /-- The offset of the section headers, `e_shoff`. -/
  start : Nat
  /-- What the section headers hold beside the sections. -/
  place : Fin t.sections.length → Place e
  /-- The table of strings. -/
  text : String
  /-- The image is shorter than `2 ^ 32` bytes. -/
  size_lt : image.size < 2 ^ 32
  /-- The header stands in front. -/
  header : image.Holds 0 (e.header t start front)
  /-- The header of the absent section is the first section header. -/
  absent : image.Holds start (e.sectionHeader .absent (.blank e))
  /-- The headers of the other sections stand behind it. -/
  headers : ∀ k : Fin t.sections.length,
    image.Holds (start + (k + 1) * e.sectionSize) (e.sectionHeader (t.listed k) (place k))
  /-- The table of strings stands where its section says, -/
  strings : image.Holds t.strings.offset.toNat (utf8 text)
  /-- and is as long as its section says. -/
  length_strings : (utf8 text).length = t.strings.size.toNat
  /-- Every name stands in it, with a zero character behind. -/
  named : ∀ k : Fin t.sections.length, ∃ before after,
    text = before ++ ((t.listed k).name ++ "\x00" ++ after) ∧
      (place k).name.toNat = (utf8 before).length

/-! ### An image of a table -/

/-- The names of some sections in a row, each with `"\x00"` behind it. -/
def namesText : List Listed → String
  | [] => ""
  | s :: sections => s.name ++ "\x00" ++ namesText sections

/-- The names of two lists of sections in a row are theirs in a row: `namesText` goes with `++`. -/
theorem namesText_append (first second : List Listed) :
    namesText (first ++ second) = namesText first ++ namesText second := by
  induction first with
  | nil => exact String.empty_append.symm
  | cons s first ih => simp only [List.cons_append, namesText, ih, String.append_assoc]

/-- A header with nothing beside the table but the sizes of headers. -/
def Front.plain (e : Encoding) : Front e where
  ident := Vector.replicate 10 0
  type := 1
  version := 1
  entry := e.zero
  programOffset := e.zero
  flags := 0
  headerSize := UInt16.ofNat e.headerSize
  programSize := UInt16.ofNat e.programSize
  sectionSize := UInt16.ofNat e.sectionSize

namespace Table

variable (t : Table) (e : Encoding)

/-- The section headers stand behind the table of strings, at the sum of its `offset` and `size`. -/
def start : Nat := t.strings.offset.toNat + t.strings.size.toNat

/-- The name of a section begins behind the names of those in front of it, `t.sections.take k`. -/
def place (k : Fin t.sections.length) : Place e :=
  { Place.blank e with
    name := UInt32.ofNat (utf8 (namesText (t.sections.take k))).length }

/-- The section headers behind the first, in the order of the table. -/
def headers : List UInt8 :=
  (List.finRange t.sections.length).flatMap fun k => e.sectionHeader (t.listed k) (t.place e k)

/-- **An image that holds a table**: the header, zeros up to the table of strings, this table, and
the section headers. It is an image of `t` only if `t.Fits e`. -/
def image : Image :=
  (e.header t t.start (.plain e) ++ List.replicate (t.strings.offset.toNat - e.headerSize) 0 ++
    utf8 (namesText t.sections) ++ (e.sectionHeader .absent (.blank e) ++ t.headers e)).toArray

/-- **There is room for a table** in an image. -/
structure Fits : Prop where
  /-- The table of strings does not begin in the header, which has `e.headerSize` bytes. -/
  behind : e.headerSize ≤ t.strings.offset.toNat
  /-- It is as long as `namesText` of all sections. -/
  length_names : (utf8 (namesText t.sections)).length = t.strings.size.toNat
  /-- The image is shorter than 2^32 bytes. -/
  end_lt : t.start + (t.sections.length + 1) * e.sectionSize < 2 ^ 32

/-- The image is its four pieces in a row, which `Image.Holds` takes apart. -/
theorem holds_image : (t.image e).Holds 0 (e.header t t.start (.plain e) ++
    List.replicate (t.strings.offset.toNat - e.headerSize) 0 ++ utf8 (namesText t.sections) ++
      (e.sectionHeader .absent (.blank e) ++ t.headers e)) :=
  ⟨[], [], by rw [image, List.nil_append, List.append_nil], rfl⟩

variable {t e}

/-- The section headers are as long as their number says, the first not counted. -/
theorem length_headers : (t.headers e).length = t.sections.length * e.sectionSize := by
  simp [headers, List.length_flatMap]

/-- The table of strings stands where its section says. -/
theorem holds_strings (fits : t.Fits e) :
    (t.image e).Holds t.strings.offset.toNat (utf8 (namesText t.sections)) := by
  have holds := (holds_image t e).left.right
  rw [List.length_append, Encoding.length_header, List.length_replicate, Nat.zero_add,
    Nat.add_sub_cancel' fits.behind] at holds
  exact holds

/-- The section headers stand behind it, from `t.start` on. -/
theorem holds_headers (fits : t.Fits e) :
    (t.image e).Holds t.start (e.sectionHeader .absent (.blank e) ++ t.headers e) := by
  have holds := (holds_image t e).right
  simp only [List.length_append, Encoding.length_header, List.length_replicate, Nat.zero_add,
    Nat.add_sub_cancel' fits.behind, fits.length_names] at holds
  exact holds

/-- The size of the image: it ends with the section headers. -/
theorem size_image (fits : t.Fits e) :
    (t.image e).size = t.start + (t.sections.length + 1) * e.sectionSize := by
  rw [image, List.size_toArray]
  simp only [List.length_append, Encoding.length_header, List.length_replicate,
    Nat.add_sub_cancel' fits.behind, fits.length_names, Encoding.length_sectionHeader,
    length_headers, start]
  ring

/-- **The image holds the table**, if there is room for it. -/
def layout (fits : t.Fits e) : Layout t e (t.image e) where
  front := .plain e
  start := t.start
  place := t.place e
  text := namesText t.sections
  size_lt := by
    rw [size_image fits]
    exact fits.end_lt
  header := (holds_image t e).left.left.left
  absent := (holds_headers fits).left
  headers k := by
    -- the header of the absent section stands in front, so each header has one more before it
    have row := (holds_headers fits).right
    rw [Encoding.length_sectionHeader] at row
    have holds := row.getElem (fun k => e.length_sectionHeader _ _) k
      (by rw [List.length_finRange]; exact k.isLt)
    rw [List.getElem_finRange] at holds
    have moved : t.start + e.sectionSize + k * e.sectionSize =
        t.start + (k + 1) * e.sectionSize := by ring
    rw [moved] at holds
    exact holds
  strings := holds_strings fits
  length_strings := fits.length_names
  named k := by
    have split_eq := List.take_append_drop k t.sections
    rw [List.drop_eq_getElem_cons k.isLt] at split_eq
    have text_eq : namesText t.sections = namesText (t.sections.take k) ++
        ((t.listed k).name ++ "\x00" ++ namesText (t.sections.drop (k + 1))) := by
      -- only the whole text is split, not the names in front of the section
      conv_lhs => rw [← split_eq, namesText_append]
      rfl
    refine ⟨_, _, text_eq, ?_⟩
    -- the table of strings has less than 2^32 bytes, so the offset of a name fits
    have length_eq := congrArg (fun text => (utf8 text).length) text_eq
    simp only [utf8_append, List.length_append, fits.length_names] at length_eq
    have := t.strings.size.toNat_lt
    have small : (utf8 (namesText (t.sections.take k))).length < 2 ^ 32 := by omega
    show (UInt32.ofNat _).toNat = _
    rw [UInt32.toNat_ofNat', Nat.mod_eq_of_lt small]

end Table

end LinearSweep.Elf
