import LinearSweep.Container.Identify
import LinearSweep.Proofs.NameTable
import LinearSweep.Proofs.Records

/-! # What is used of a reader of ELF images

An image has a plain section table if its header and its section headers stand where they should,
number by number, and nothing else in it needs to be read but the names of the sections. A reader
is only asked to give back these numbers, and to look names up.

* **`Elf.Header.StandsIn`** and **`Elf.Section.StandsAt`** say which bytes a header is made of, and
  **`Elf.Plain`** when an image has a plain section table.
* **`Elf.Reads`** is what is used of a reader.
* **`Elf.Plain.sections?_eq`** and **`Elf.Plain.stringTable?_eq`** read the pieces of such an image,
  so that by **`Elf.reads_read?`** the reader at hand does what is asked. -/

namespace LinearSweep

/-- Results for the elements of a list are results for the list, by `List.Forall₂`. -/
theorem mapM_of_forall₂ {α β : Type*} {f : α → Option β} {l : List α} {r : List β}
    (each : List.Forall₂ (fun a b => f a = some b) l r) : l.mapM f = some r := by
  induction each with
  | nil => rfl
  | cons first _ ih =>
    rw [List.mapM_cons, first, ih]
    rfl

/-- **A table whose entries are read one by one** is read in a row: `f k = some r[k]` for all `k` is
enough. -/
theorem mapM_range_eq_some {β : Type*} {f : Nat → Option β} {r : List β}
    (each : ∀ k (hk : k < r.length), f k = some r[k]) : (List.range r.length).mapM f = some r := by
  refine mapM_of_forall₂ (List.forall₂_iff_get.2 ⟨List.length_range, fun k _ hk => ?_⟩)
  rw [List.get_eq_getElem, List.getElem_range]
  exact each k hk

/-- A condition that holds is passed: `guard p` is `some ()`. -/
theorem guard_eq_some {p : Prop} [Decidable p] (holds : p) :
    (guard p : Option Unit) = some () := if_pos holds

namespace Elf

variable {image : Image} {e : Encoding} {h : Header} {sections : List Section} {names : String}

/-! ### Plain section tables -/

namespace Encoding

/-- The byte that gives the width of the fields, `EI_CLASS`. -/
def widthByte (e : Encoding) : UInt8 := if e.wide then 2 else 1

/-- The byte that gives the order of the bytes, `EI_DATA`. -/
def orderByte (e : Encoding) : UInt8 :=
  match e.order with
  | .little => 1
  | .big => 2

end Encoding

/-- **A header stands in an image**: in front the bytes of all ELF images and those of the encoding,
and at offset 16 the record of the header. There may be any numbers where nothing is used, such as
in `flags`. -/
structure Header.StandsIn (h : Header) (e : Encoding) (image : Image) : Prop where
  /-- The image begins with `7F 45 4C 46` and the encoding. -/
  front : image.Holds 0 [0x7F, 0x45, 0x4C, 0x46, e.widthByte, e.orderByte]
  /-- The record stands at offset `16`, behind the bytes that identify the image. -/
  record : ∃ type version entry flags headerSize programSize sectionSize,
    image.HoldsRecord e.order 16
      [(2, type), (2, h.machine), (4, version), (e.word, entry), (e.word, h.programOffset),
        (e.word, h.sectionOffset), (4, flags), (2, headerSize), (2, programSize),
        (2, h.programCount), (2, sectionSize), (2, h.sectionCount), (2, h.nameIndex)]

/-- **A section header stands at an offset of an image**, with any numbers where nothing is used: in
`sh_info` and `sh_addralign`. -/
def Section.StandsAt (s : Section) (e : Encoding) (image : Image) (offset : Nat) : Prop :=
  ∃ information alignment, image.HoldsRecord e.order offset
    [(4, s.name), (4, s.type), (e.word, s.flags), (e.word, s.address), (e.word, s.offset),
      (e.word, s.size), (4, s.link), (4, information), (e.word, alignment), (e.word, s.entrySize)]

/-- **An image has a plain section table**, where `names` is the text with the names. -/
structure Plain (image : Image) (e : Encoding) (h : Header) (sections : List Section)
    (names : String) : Prop where
  /-- The header stands in front. -/
  header : h.StandsIn e image
  /-- There are no program headers: `e_phnum` is zero. -/
  programCount_eq : h.programCount = 0
  /-- There is a section table, -/
  sectionOffset_ne : h.sectionOffset ≠ 0
  /-- and the header gives the number of its entries, `e_shnum`. -/
  sectionCount_eq : h.sectionCount = sections.length
  /-- Its entries stand in a row, `e.sectionSize` apart. -/
  standsAt : ∀ k (hk : k < sections.length),
    sections[k].StandsAt e image (h.sectionOffset + k * e.sectionSize)
  /-- Each of them is absent, or holds bytes of the program, strings, notes or nothing. -/
  type_mem : ∀ s ∈ sections, s.type ∈ [0, 1, 3, 7, 8]
  /-- There is a section with the names, which `e_shstrndx` selects. -/
  nameIndex_lt : h.nameIndex < sections.length
  /-- It ends in memory, -/
  address_le : sections[h.nameIndex].address + sections[h.nameIndex].size < 2 ^ 64
  /-- and its bytes are those of the names. -/
  holds_names : image.Holds sections[h.nameIndex].offset (utf8 names)
  /-- It has no others. -/
  length_names : (utf8 names).length = sections[h.nameIndex].size

/-- **What is used of a reader**: in an image with a plain section table it finds an ELF object with
the numbers that stand there, and a name that stands in `names`, with a zero character behind, is
found by the number of bytes in front of it. -/
def Reads (read : Image → Option Object) : Prop :=
  ∀ {image : Image} {e : Encoding} {h : Header} {sections : List Section} {names : String},
    Plain image e h sections names →
    ∃ name?, read image = some (.elf h.machine sections name?) ∧
      ∀ before name after, names = before ++ (name ++ "\x00" ++ after) → '\x00' ∉ name.toList →
        name? (utf8 before).length = some name

/-! ### The header -/

namespace Plain

variable (plain : Plain image e h sections names)

include plain

/-- **The encoding is read** from the two bytes behind the first four. -/
theorem encoding?_eq : encoding? image = some e := by
  have bytes_eq : ByteOrder.little.record [(1, e.widthByte.toNat), (1, e.orderByte.toNat)] =
      [e.widthByte, e.orderByte] := by
    simp [ByteOrder.bytes, ByteOrder.littleBytes]
  have front : image.Holds 0 ([0x7F, 0x45, 0x4C, 0x46] ++ [e.widthByte, e.orderByte]) :=
    plain.header.front
  have behind := front.right
  rw [← bytes_eq] at behind
  have fields := behind.fields?_eq (by
    simp only [List.forall_mem_cons]
    exact ⟨e.widthByte.toNat_lt, e.orderByte.toNat_lt, List.forall_mem_nil _⟩)
  have read : image.fields? .little 4 [1, 1] = some [e.widthByte.toNat, e.orderByte.toNat] := fields
  rw [encoding?, read]
  obtain ⟨wide, order⟩ := e
  cases wide <;> cases order <;> rfl

/-- **The header is read**: its record has the widths `e.headerWidths`. -/
theorem header?_eq : header? image e = some h := by
  obtain ⟨_, _, _, _, _, _, _, record⟩ := plain.header.record
  have fields := record.fields?_eq
  have read : image.fields? e.order 16 e.headerWidths = some _ := fields
  rw [header?, read]
  rfl

/-- No program headers are announced, so none can be missing: `programs?` reads `[]`. -/
theorem programs?_eq : programs? image e h = some [] := by
  rw [programs?, plain.programCount_eq]
  rfl

/-! ### The section headers -/

/-- **Each section header is read**: number `k` at `h.sectionOffset + k * e.sectionSize`. -/
theorem sectionAt?_eq (k : Nat) (hk : k < sections.length) :
    sectionAt? image e (h.sectionOffset + k * e.sectionSize) = some sections[k] := by
  obtain ⟨_, _, record⟩ := plain.standsAt k hk
  have fields := record.fields?_eq
  have read : image.fields? e.order (h.sectionOffset + k * e.sectionSize) e.sectionWidths =
    some _ := fields
  rw [sectionAt?, read]
  rfl

/-- All section headers lie in the image, so there are at most `image.size / e.sectionSize` of them.
-/
theorem length_mul_le : sections.length * e.sectionSize ≤ image.size := by
  -- there is a last header, since there is a section with the names
  have positive := Nat.zero_lt_of_lt plain.nameIndex_lt
  obtain ⟨_, _, record⟩ := plain.standsAt (sections.length - 1) (by omega)
  have within := record.holds.end_le
  -- the last record ends in the image, and it is as long as its fields together
  have size_eq : e.sectionSize = (e.sectionWidths).sum := by
    cases e with
    | mk wide order => cases wide <;> rfl
  have width : ∀ fields, (e.order.record fields).length = (fields.map Prod.fst).sum :=
    e.order.length_record
  rw [width] at within
  change
    h.sectionOffset + (sections.length - 1) * e.sectionSize + e.sectionWidths.sum ≤ _ at within
  rw [← size_eq, Nat.add_assoc, ← Nat.succ_mul] at within
  have last : (sections.length - 1).succ = sections.length := by omega
  rw [last] at within
  omega

/-- **The section table is read**, header by header, into `sections`. -/
theorem sections?_eq : sections? image e h = some sections := by
  have positive : 0 < e.sectionSize := by
    rw [Encoding.sectionSize]
    split <;> decide
  have counted : sections.length ≤ image.size / e.sectionSize :=
    (Nat.le_div_iff_mul_le positive).2 plain.length_mul_le
  have several : sections.length ≠ 0 := Nat.ne_zero_of_lt plain.nameIndex_lt
  have each := plain.sectionAt?_eq
  obtain ⟨first, rest, rfl⟩ := List.exists_cons_of_ne_nil (List.ne_nil_of_length_pos
    (Nat.pos_of_ne_zero several))
  have first_eq : sectionAt? image e h.sectionOffset = some first := by
    have := each 0 (Nat.zero_lt_succ _)
    rwa [Nat.zero_mul] at this
  -- the first header is read on its own, since it might have to give the number of the others
  have rest_eq : (List.range ((first :: rest).length - 1)).mapM (fun i =>
      sectionAt? image e (h.sectionOffset + (i + 1) * e.sectionSize)) = some rest :=
    mapM_range_eq_some fun k hk => each (k + 1) (Nat.succ_lt_succ hk)
  rw [sections?, if_neg plain.sectionOffset_ne, first_eq, plain.sectionCount_eq]
  simp only [Option.bind_eq_bind, Option.bind_some, if_neg several, guard_eq_some counted, rest_eq]
  rfl

/-! ### The names -/

/-- **The table of strings is read**: the bytes of the section `h.nameIndex`, which are UTF-8 since
they are those of a text. -/
theorem stringTable?_eq : stringTable? image sections h.nameIndex = some (utf8 names) := by
  have index_lt := plain.nameIndex_lt
  -- an index below the number of headers is never taken for the mark of one that stands elsewhere,
  -- since this number has a field of two bytes
  have direct : h.nameIndex ≠ indirectIndex := by
    obtain ⟨_, _, _, _, _, _, _, record⟩ := plain.header.record
    have counted : h.sectionCount < 256 ^ 2 := record.fit (2, h.sectionCount) (by simp)
    rw [plain.sectionCount_eq] at counted
    rw [indirectIndex]
    omega
  have found : sections[h.nameIndex]? = some sections[h.nameIndex] :=
    List.getElem?_eq_getElem index_lt
  have within := plain.holds_names.end_le
  rw [plain.length_names] at within
  have fits : sections[h.nameIndex].fits image = true := by
    rw [Section.fits, Bool.or_eq_true, Bool.and_eq_true, decide_eq_true_eq, decide_eq_true_eq]
    exact Or.inr ⟨within, Nat.le_of_lt_succ plain.address_le⟩
  have there : image.slice? sections[h.nameIndex].offset sections[h.nameIndex].size =
      some (utf8 names) := by
    rw [← plain.length_names]
    exact plain.holds_names.slice?_eq
  rw [stringTable?]
  simp only [if_neg direct, found, guard_eq_some fits]
  show ((image.slice? _ _).bind fun table =>
    (String.fromUTF8? table.toByteArray).bind fun _ => some table) = _
  rw [there, Option.bind_some, fromUTF8?_utf8, Option.bind_some]

/-! ### What need not be read -/

/-- No section has a type other than the five of `plain.type_mem`. -/
theorem type_ne {type : Nat} (other : type ∉ [0, 1, 3, 7, 8]) : ∀ s ∈ sections, s.type ≠ type := by
  rintro s mem rfl
  exact other (plain.type_mem s mem)

/-- So no section is found by another type, and a filter leaves `[]`. -/
theorem filter_type_eq_nil {type : Nat} (other : type ∉ [0, 1, 3, 7, 8]) :
    sections.filter (fun s => decide (s.type = type)) = [] := by
  rw [List.filter_eq_nil_iff]
  exact fun s mem is => plain.type_ne other s mem (of_decide_eq_true is)

/-- **There are no symbols**, so no table of them has to lie in the image. -/
theorem symbolsFit_eq : symbolsFit image e sections = true := by
  rw [symbolsFit, plain.filter_type_eq_nil (by decide)]
  rfl

/-- **There are no relocations** either. -/
theorem relocationsFit_eq : relocationsFit image sections = true := by
  rw [relocationsFit, List.all_eq_true]
  intro s mem
  have addend : s.type ≠ typeRelocationsAddend := plain.type_ne (by decide) s mem
  have relocations : s.type ≠ typeRelocations := plain.type_ne (by decide) s mem
  rw [decide_eq_true addend, decide_eq_true relocations]
  rfl

/-- **Nor are there any versions.** -/
theorem versionsFit_eq : versionsFit image sections = true := by
  have absent : ∀ type ∈ typesVersions,
      sections.find? (fun s => decide (s.type = type)) = none := by
    intro type mem
    -- what is found first is the first that a filter leaves
    rw [← List.head?_filter, plain.filter_type_eq_nil, List.head?_nil]
    revert type
    decide
  rw [versionsFit, List.all_eq_true]
  intro type mem
  rw [absent type mem]

/-! ### The object -/

/-- **The object of the image is read**: all pieces are there, and all checks are passed. -/
theorem object?_eq : object? image = some (.elf h.machine sections (stringAt? (utf8 names))) := by
  have dynamic : dynamicFits image [] = true := rfl
  rw [object?, plain.encoding?_eq]
  simp only [Option.bind_eq_bind, Option.bind_some, plain.header?_eq, plain.programs?_eq,
    plain.sections?_eq, plain.stringTable?_eq, guard_eq_some plain.symbolsFit_eq,
    guard_eq_some dynamic, guard_eq_some plain.relocationsFit_eq,
    guard_eq_some plain.versionsFit_eq]
  rfl

/-- The reader at hand takes the image for an ELF image, by its first four bytes. -/
theorem read?_eq : Object.read? image = object? image := by
  have long : Container.minimalSize ≤ image.size := by
    obtain ⟨_, _, _, _, _, _, _, record⟩ := plain.header.record
    exact Nat.le_trans (Nat.le_add_right 16 _) record.holds.end_le
  have front : image.Holds 0 (magic ++ [e.widthByte, e.orderByte]) := plain.header.front
  have leading : (image.extract 0 4).toList = magic := by
    have bytes := front.left.slice?_eq
    rw [Image.slice?, if_pos front.left.end_le] at bytes
    exact Option.some.inj bytes
  rw [Object.read?, if_neg (Nat.not_lt_of_le long), if_pos leading]

end Plain

/-- **The reader at hand does what is asked of a reader**, so `Elf.Reads` can be met. -/
theorem reads_read? : Reads Object.read? := by
  intro image e h sections names plain
  refine ⟨_, plain.read?_eq.trans plain.object?_eq, ?_⟩
  rintro before name after rfl closed
  exact stringAt?_utf8 closed before after

end Elf

end LinearSweep
