import LinearSweep.Proofs.ElfTable

/-! # Section tables are read back

What an image says about code does not depend on the encoding of its section table, nor on where
the pieces of the table stand. An image that holds a table has a plain section table, so a reader
that does what is asked of it finds its sections and their names, and the container is made of them.

* **`Elf.Layout.plain`**: the headers of an image that holds a table stand where they should.
* **`Elf.Layout.regions_eq`**: the sections that hold code are those of the table.
* **`Container.recognize_layout`**: all images that hold the table say what the table says, whatever
  reader is used. -/

namespace LinearSweep

namespace Elf

variable {t : Table} {e : Encoding} {image : Image}

/-! ### Sections -/

/-- The header of a section as it is read, where `p` has the numbers that do not come from the
table. -/
def Listed.read (s : Listed) (p : Place e) : Section where
  name := p.name.toNat
  type := s.type.number
  flags := s.flags.toNat
  address := 0
  offset := s.offset.toNat
  size := s.size.toNat
  link := p.link.toNat
  entrySize := p.entrySize

/-- The bytes of the header of a section are those of what is read, so `s.read p` stands where they
do. -/
theorem Listed.standsAt_read {offset : Nat} {s : Listed} {p : Place e}
    (holds : image.Holds offset (e.sectionHeader s p)) : (s.read p).StandsAt e image offset :=
  ⟨p.information.toNat, p.alignment, holds, e.sectionFields_fit s p⟩

/-- The types of a table are such that nothing more needs to be read, as `Plain.type_mem` asks. -/
theorem SectionType.number_mem (type : SectionType) : type.number ∈ [0, 1, 3, 7, 8] := by
  cases type <;> decide

/-- A number has the flags of code exactly if its bits `1` and `2` are set. -/
theorem and_flagsCode_iff (n : Nat) :
    n &&& flagsCode = flagsCode ↔ n.testBit 1 ∧ n.testBit 2 := by
  -- only the lowest three bits matter
  have small : ∀ m < 2 ^ 3, m &&& flagsCode = flagsCode ↔ m.testBit 1 ∧ m.testBit 2 := by decide
  have lowest := small (n % 2 ^ 3) (Nat.mod_lt _ (by decide))
  -- the flags have no other bits than these
  have masked : n % 2 ^ 3 &&& flagsCode = n &&& flagsCode := by
    rw [← Nat.and_two_pow_sub_one_eq_mod, Nat.and_assoc]
    rfl
  rw [masked, Nat.testBit_mod_two_pow, Nat.testBit_mod_two_pow] at lowest
  simpa using lowest

/-- **A section holds code by its header if it does by the table**: `isCode` on the one side,
`holdsCode` on the other. -/
theorem Listed.isCode_read (s : Listed) (p : Place e) : (s.read p).isCode = s.holdsCode := by
  have bits := and_flagsCode_iff s.flags.toNat
  have there : s.type.number = typeNoBits ↔ s.type = .noBits := by
    cases s.type <;> decide
  rw [Bool.eq_iff_iff, Section.isCode, holdsCode]
  simp only [Bool.and_eq_true, decide_eq_true_eq, ne_eq]
  rw [← bits, ← there]
  rfl

/-! ### Layouts -/

namespace Layout

variable (layout : Layout t e image)

/-- The section headers as they are read: that of the absent section, and behind it those of the
table. -/
def sections : List Section :=
  Listed.absent.read (.blank e) ::
    (List.finRange t.sections.length).map fun k => (t.listed k).read (layout.place k)

/-- The header as it is read; the absent section counts, so there are `t.sections.length + 1`. -/
def read : Header where
  machine := t.machine.toNat
  programOffset := layout.front.programOffset
  programCount := 0
  sectionOffset := layout.start
  sectionCount := t.sections.length + 1
  nameIndex := t.names.val + 1

include layout

/-- The section headers of the table stand behind that of the absent section: number `k` has index
`k + 1`. -/
theorem getElem_sections_succ (k : Fin t.sections.length)
    (hk : k.val + 1 < layout.sections.length) :
    layout.sections[k.val + 1] = (t.listed k).read (layout.place k) := by
  simp [sections]

/-- With the absent section there is one header more than `t.sections` has. -/
theorem length_sections : layout.sections.length = t.sections.length + 1 := by
  simp [sections]

/-- The section headers begin in the image, and so below `2 ^ 32`, as narrow fields need it. -/
theorem start_lt : layout.start < 2 ^ 32 := by
  have within := layout.absent.end_le
  have := layout.size_lt
  omega

/-- The image begins with the bytes that all ELF images begin with, and with the encoding. -/
theorem holds_front : image.Holds 0 [0x7F, 0x45, 0x4C, 0x46, e.widthByte, e.orderByte] :=
  layout.header.left.left

/-- The section headers do not begin with the header, since that of the absent section begins with a
zero byte, and that of the image with `0x7F`. -/
theorem start_ne_zero : layout.start ≠ 0 := by
  intro zero
  have absent := layout.absent
  rw [zero] at absent
  -- the first field of the absent section is the offset of its name, in four bytes
  have name := absent.left
  have zeros : e.order.bytes 4 0 = [0, 0, 0, 0] := by
    cases e.order <;> decide
  change image.Holds 0 (e.order.bytes 4 0) at name
  rw [zeros] at name
  have same : (0x7F : UInt8) = 0 := layout.holds_front.head_eq name
  exact absurd same (by decide)

/-- **The header stands in the image**: `layout.read` has the numbers that its record has. -/
theorem standsIn_read : layout.read.StandsIn e image where
  front := layout.holds_front
  record := by
    have holds := layout.header.right
    have length_eq : ([0x7F, 0x45, 0x4C, 0x46] ++ [e.widthByte, e.orderByte] ++
        layout.front.ident.toList).length = 16 := by simp
    rw [length_eq] at holds
    exact ⟨_, _, _, _, _, _, _, holds, e.headerFields_fit t _ layout.front layout.start_lt⟩

/-- **An image that holds a table has a plain section table**, with the numbers of `layout.read` and
`layout.sections`. -/
theorem plain : Plain image e layout.read layout.sections layout.text := by
  have index_lt : layout.read.nameIndex < layout.sections.length := by
    rw [length_sections]
    exact Nat.succ_lt_succ t.names.isLt
  have strings_eq : layout.sections[layout.read.nameIndex] =
      t.strings.read (layout.place t.names) := layout.getElem_sections_succ t.names index_lt
  exact {
    header := layout.standsIn_read
    programCount_eq := rfl
    sectionOffset_ne := layout.start_ne_zero
    sectionCount_eq := layout.length_sections.symm
    standsAt := by
      intro k hk
      cases k with
      | zero =>
        rw [Nat.zero_mul]
        exact Listed.standsAt_read layout.absent
      | succ k =>
        have small : k < t.sections.length := by
          rw [length_sections] at hk
          exact Nat.lt_of_succ_lt_succ hk
        rw [layout.getElem_sections_succ ⟨k, small⟩ hk]
        exact Listed.standsAt_read (layout.headers ⟨k, small⟩)
    type_mem := by
      rw [sections, List.forall_mem_cons, List.forall_mem_map]
      exact ⟨SectionType.number_mem .null, fun k _ => SectionType.number_mem (t.listed k).type⟩
    nameIndex_lt := index_lt
    address_le := by
      rw [strings_eq]
      show 0 + t.strings.size.toNat < 2 ^ 64
      have := t.strings.size.toNat_lt
      omega
    holds_names := by
      rw [strings_eq]
      exact layout.strings
    length_names := by
      rw [strings_eq]
      exact layout.length_strings }

/-- **The sections that hold code are those of the table**, with their names and ranges, if `name?`
finds the names. -/
theorem regions_eq {name? : Nat → Option String}
    (found : ∀ k, name? (layout.place k).name.toNat = some (t.listed k).name) :
    (layout.sections.filter (·.isCode)).map
      (fun s => (⟨(name? s.name).getD "", s.offset, s.size⟩ : Region)) =
        (t.sections.filter Listed.holdsCode).map Listed.region := by
  -- the absent section is no code, so it drops out in front of the others
  have first : ((Listed.absent.read (.blank e)).isCode) = false := by
    rw [Listed.isCode_read]
    decide
  have all : (List.finRange t.sections.length).map t.listed = t.sections :=
    List.map_get_finRange t.sections
  have code : (fun k : Fin t.sections.length => ((t.listed k).read (layout.place k)).isCode) =
      fun k : Fin t.sections.length => (t.listed k).holdsCode := by
    funext k
    exact Listed.isCode_read _ _
  -- both sides go through the sections by their index
  conv_rhs => rw [← all]
  rw [sections, List.filter_cons_of_neg (by rw [first]; decide), List.filter_map, List.map_map,
    List.filter_map, List.map_map]
  show ((List.finRange t.sections.length).filter
      (fun k => ((t.listed k).read (layout.place k)).isCode)).map _ =
    ((List.finRange t.sections.length).filter (fun k => (t.listed k).holdsCode)).map _
  rw [code]
  refine List.map_congr_left fun k _ => ?_
  show (⟨(name? (layout.place k).name.toNat).getD "", _, _⟩ : Region) = _
  rw [found k]
  rfl

end Layout

/-- **The object of a table says what the table says**, which is `t.container`. -/
theorem Layout.container_eq (layout : Layout t e image) {name? : Nat → Option String}
    (found : ∀ k, name? (layout.place k).name.toNat = some (t.listed k).name) :
    (Object.elf layout.read.machine layout.sections name?).container = .ok t.container := by
  have machine : Container.Machine.ofNumber machineX86 machineX86Wide t.machine.toNat =
      if t.machine = 3 then .x86 else if t.machine = 62 then .x86wide else .other := by
    simp only [Container.Machine.ofNumber, machineX86, machineX86Wide, ← UInt16.toNat_inj]
    rfl
  rw [Object.container, layout.regions_eq found]
  show Except.ok (⟨.elf, Container.Machine.ofNumber machineX86 machineX86Wide t.machine.toNat, _⟩ :
    Container) = .ok ⟨.elf, _, _⟩
  rw [machine]

end Elf

namespace Container

variable {read : Image → Option Object}

/-- **A reader that does what is asked of it** finds the object of a table, so the image says what
the table says. -/
theorem recognize_eq_of_layout {t : Elf.Table} {e : Elf.Encoding} {image : Image}
    (reads : Elf.Reads read) (layout : Elf.Layout t e image) :
    recognize read image = .ok t.container := by
  obtain ⟨name?, found, named⟩ := reads layout.plain
  have names (k : Fin t.sections.length) :
      name? (layout.place k).name.toNat = some (t.listed k).name := by
    -- the layout says where each name stands in the text of names
    obtain ⟨before, after, text_eq, name_eq⟩ := layout.named k
    rw [name_eq]
    exact named before _ after text_eq (t.listed k).closed
  rw [recognize, found]
  exact layout.container_eq names

/-- **Section tables are read back**, by every reader that finds the numbers of plain section tables
and looks names up. An image that holds a section table, in whatever encoding and with its pieces
wherever they are, is an ELF image with the machine of the table, and its code regions are the
sections of the table that hold code. So two images that hold one table say the same. There is such
an image in each encoding that has room for the table. -/
theorem recognize_layout (reads : Elf.Reads read) :
    (∀ (t : Elf.Table) (e : Elf.Encoding) (image : Image), Elf.Layout t e image →
      recognize read image = .ok t.container) ∧
    (∀ (t : Elf.Table) (e f : Elf.Encoding) (first second : Image), Elf.Layout t e first →
      Elf.Layout t f second → recognize read first = recognize read second) ∧
    ∀ (t : Elf.Table) (e : Elf.Encoding), t.Fits e →
      (t.image e).size < 2 ^ 32 ∧ recognize read (t.image e) = .ok t.container := by
  refine ⟨fun t e image => recognize_eq_of_layout reads, ?_, ?_⟩
  · intro t e f first second layout layout'
    rw [recognize_eq_of_layout reads layout, recognize_eq_of_layout reads layout']
  · intro t e fits
    exact ⟨(t.layout fits).size_lt, recognize_eq_of_layout reads (t.layout fits)⟩

/-- A table with a section of code, one that is executable but without bytes in the image, and the
one with the names. The name `.code é` has more bytes than characters. -/
def sampleTable : Elf.Table where
  machine := 62
  sections := [⟨".code é", .program, 6, 0x2000, 5, by decide +kernel⟩,
    ⟨".room", .noBits, 7, 0x2005, 0x100, by decide +kernel⟩,
    ⟨".names", .strings, 0, 0x80, 22, by decide +kernel⟩]
  names := 2
  type_names := rfl
  length_lt := by decide

/-- The two encodings that differ most, `⟨false, .little⟩` and `⟨true, .big⟩`, with the reader at
hand. -/
theorem recognize_layout_sample :
    Elf.Reads Object.read? ∧
    sampleTable.Fits ⟨false, .little⟩ ∧ sampleTable.Fits ⟨true, .big⟩ ∧
    (sampleTable.image ⟨false, .little⟩).size = 310 ∧
    (sampleTable.image ⟨true, .big⟩).size = 406 ∧
    recognize Object.read? (sampleTable.image ⟨false, .little⟩) =
      .ok ⟨.elf, .x86wide, [⟨".code é", 0x2000, 5⟩]⟩ ∧
    recognize Object.read? (sampleTable.image ⟨true, .big⟩) =
      recognize Object.read? (sampleTable.image ⟨false, .little⟩) := by
  have narrow : sampleTable.Fits ⟨false, .little⟩ :=
    ⟨by decide, by decide +kernel, by decide⟩
  have wide : sampleTable.Fits ⟨true, .big⟩ := ⟨by decide, by decide +kernel, by decide⟩
  have container_eq : sampleTable.container =
      ⟨.elf, .x86wide, [⟨".code é", 0x2000, 5⟩]⟩ := by
    decide +kernel
  -- the second image says what the first one does, without being read on its own
  obtain ⟨-, same, written⟩ := recognize_layout Elf.reads_read?
  obtain ⟨-, read⟩ := written _ _ narrow
  rw [container_eq] at read
  exact ⟨Elf.reads_read?, narrow, wide, Elf.Table.size_image narrow, Elf.Table.size_image wide,
    read, same _ _ _ _ _ (sampleTable.layout wide) (sampleTable.layout narrow)⟩

end Container

end LinearSweep
