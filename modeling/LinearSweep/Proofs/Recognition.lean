import LinearSweep.Container.Identify
import Mathlib.Data.List.Forall2
import Mathlib.Data.Option.Basic

/-! # Images that are refused

What is said of an image follows from the object that a reader finds in it, so whether an image is
refused is a question about the reader alone. Two things are used of it: it rejects tiny images, and
it tells archives by their first bytes.

* **`Object.container_eq_error_iff`** and **`Object.consistent_of_container`**: what may be said of
  an object.
* **`Container.Classifies`** is what is used of a reader, and **`Container.Recognized`** what is
  promised of `Container.recognize read` in return.
* **`Object.Whole`** says that an object has all headers that its image announces, and
  **`Object.whole_of_read?`** that the reader at hand finds no others.
* **`Container.identify_refuses_archives_only`** says which images are refused, and what is said of
  the others. -/

namespace LinearSweep

/-! ### What is said of objects -/

/-- **Only archives are refused**, for this one reason. -/
theorem Object.container_eq_error_iff {o : Object} {fault : Fault} :
    o.container = .error fault ↔ o = archive ∧ fault = .severalMachines := by
  cases o with
  | archive =>
    constructor
    · intro refused
      exact ⟨rfl, (Except.error.inj refused).symm⟩
    · rintro ⟨-, rfl⟩
      rfl
  | _ => exact ⟨nofun, nofun⟩

namespace Container

/-- **A container agrees with itself** about whether there is a header. -/
structure Consistent (c : Container) : Prop where
  /-- There is a machine exactly if there is a header. -/
  raw_iff : c.kind = .raw ↔ c.machine = .unknown
  /-- Without a header there are no regions. -/
  regions_eq : c.kind = .raw → c.regions = []
  /-- So no region is found in an image of any length. -/
  region?_eq : c.kind = .raw → ∀ length, c.region? length = none
  /-- Segments without bytes are no regions. -/
  size_ne_zero : c.kind = .machO → ∀ r ∈ c.regions, r.size ≠ 0

/-- A number stands for some machine, be it `.other`. -/
theorem Machine.ofNumber_ne_unknown (narrow wide number : Nat) :
    ofNumber narrow wide number ≠ .unknown := by
  rw [ofNumber]
  split
  · nofun
  · split <;> nofun

/-- An image without a header has a consistent description. -/
theorem consistent_raw : raw.Consistent where
  raw_iff := ⟨fun _ => rfl, fun _ => rfl⟩
  regions_eq _ := rfl
  region?_eq _ _ := rfl
  size_ne_zero := nofun

/-- So has an image with one, if its segments of code have bytes; the other kinds need no such
condition. -/
theorem consistent_of_ne_raw {kind : Kind} (header : kind ≠ .raw) (narrow wide number : Nat)
    {regions : List Region} (bytes : kind = .machO → ∀ r ∈ regions, r.size ≠ 0) :
    Consistent ⟨kind, .ofNumber narrow wide number, regions⟩ where
  raw_iff := iff_of_false header (Machine.ofNumber_ne_unknown narrow wide number)
  regions_eq raw := absurd raw header
  region?_eq raw := absurd raw header
  size_ne_zero := bytes

end Container

/-- **What is said of an object is consistent**, one format after the other. -/
theorem Object.consistent_of_container {o : Object} {c : Container} (said : o.container = .ok c) :
    c.Consistent := by
  cases o with
  | elf machine sections name? =>
    obtain rfl := Except.ok.inj said
    apply Container.consistent_of_ne_raw <;> nofun
  | pe machine sections =>
    obtain rfl := Except.ok.inj said
    apply Container.consistent_of_ne_raw <;> nofun
  | machO machine segments =>
    obtain rfl := Except.ok.inj said
    apply Container.consistent_of_ne_raw
    · nofun
    · intro _ r mem
      obtain ⟨s, code, rfl⟩ := List.mem_map.1 mem
      -- a region comes from a segment that passed the test for code, which asks for bytes
      have isCode := (List.mem_filter.1 code).2
      rw [MachO.Segment.isCode, Bool.and_eq_true, decide_eq_true_eq, decide_eq_true_eq] at isCode
      exact isCode.2
  | archive => cases said
  | other =>
    obtain rfl := Except.ok.inj said
    exact Container.consistent_raw

/-! ### No header is left out -/

/-- The number of section headers that an image announces, in its header or in the `size` of the
first of them. The first is there whenever there are any. -/
def Elf.Header.announced (h : Header) (sections : List Section) : Nat :=
  if h.sectionOffset = 0 then 0
  else if h.sectionCount = 0 then max 1 ((sections.head?.map (·.size)).getD 0)
  else h.sectionCount

/-- **An object has all headers that its image announces**: there are as many as it says, and each
is the one that stands at its place. For `archive` and `other` there is nothing to say. -/
def Object.Whole (image : Image) : Object → Prop
  | elf machine sections _ => ∃ e h, Elf.encoding? image = some e ∧
      Elf.header? image e = some h ∧ h.machine = machine ∧
      sections.length = h.announced sections ∧
      ∀ k (hk : k < sections.length),
        Elf.sectionAt? image e (h.sectionOffset + k * e.sectionSize) = some sections[k]
  | pe machine sections => ∃ pointer count date symbols symbolCount optionalSize flags,
      image.fields? .little Pe.pointerOffset [4] = some [pointer] ∧
      image.fields? .little (pointer + 4) [2, 2, 4, 4, 4, 2, 2] =
        some [machine, count, date, symbols, symbolCount, optionalSize, flags] ∧
      sections.length = count ∧
      ∀ k (hk : k < sections.length),
        Pe.sectionAt? image (symbols + Pe.symbolSize * symbolCount)
          (pointer + 4 + Pe.headerSize + optionalSize + k * Pe.sectionSize) = some sections[k]
  | machO machine segments => ∃ e subtype type count size flags commands,
      MachO.encoding? (image.extract 0 4).toList = some e ∧
      image.fields? e.order 4 [4, 4, 4, 4, 4, 4] =
        some [machine, subtype, type, count, size, flags] ∧
      MachO.commands? image e.order count e.headerSize = some commands ∧
      commands.length = count ∧ segments = commands.filterMap MachO.Command.segment? ∧
      ∀ s ∈ segments, s.fits image = true
  | archive | other => True

/-- A list of results has the result for each element of a list. -/
theorem forall₂_of_mapM {α β : Type*} {f : α → Option β} {l : List α} {r : List β}
    (all : l.mapM f = some r) : List.Forall₂ (fun a b => f a = some b) l r := by
  induction l generalizing r with
  | nil =>
    obtain rfl : [] = r := Option.some.inj all
    exact .nil
  | cons a l ih =>
    rw [List.mapM_cons] at all
    obtain ⟨b, first, rest⟩ := Option.bind_eq_some_iff.1 all
    obtain ⟨s, later, eq⟩ := Option.bind_eq_some_iff.1 rest
    obtain rfl : b :: s = r := Option.some.inj eq
    exact .cons first (ih later)

/-- **A table that is read in a row** has as many entries as were asked for, entry `k` from its
place. -/
theorem getElem_of_mapM_range {β : Type*} {f : Nat → Option β} {n : Nat} {r : List β}
    (all : (List.range n).mapM f = some r) :
    r.length = n ∧ ∀ k (hk : k < r.length), f k = some r[k] := by
  obtain ⟨length_eq, each⟩ := List.forall₂_iff_get.1 (forall₂_of_mapM all)
  rw [List.length_range] at length_eq
  refine ⟨length_eq.symm, fun k hk => ?_⟩
  have at_k := each k (by rwa [List.length_range, length_eq]) hk
  rwa [List.get_eq_getElem, List.getElem_range] at at_k

namespace Elf

variable {image : Image} {e : Encoding} {h : Header} {sections : List Section}

/-- **A section table that is read is whole**: it has `h.announced sections` headers, each as it
stands. -/
theorem sections_of_sections? (read : sections? image e h = some sections) :
    sections.length = h.announced sections ∧
    ∀ k (hk : k < sections.length),
      sectionAt? image e (h.sectionOffset + k * e.sectionSize) = some sections[k] := by
  rw [sections?] at read
  split at read
  · next none =>
    obtain rfl : [] = sections := Option.some.inj read
    exact ⟨(if_pos none).symm, fun k hk => absurd hk (Nat.not_lt_zero k)⟩
  · next there =>
    obtain ⟨first, first_eq, read⟩ := Option.bind_eq_some_iff.1 read
    obtain ⟨_, _, read⟩ := Option.bind_eq_some_iff.1 read
    obtain ⟨rest, rest_eq, read⟩ := Option.bind_eq_some_iff.1 read
    obtain rfl : first :: rest = sections := Option.some.inj read
    obtain ⟨length_eq, each⟩ := getElem_of_mapM_range rest_eq
    constructor
    · rw [List.length_cons, length_eq, Header.announced, if_neg there]
      -- without a number in the header of the image, the first section header gives it
      split
      · show first.size - 1 + 1 = max 1 first.size
        omega
      · omega
    · intro k hk
      cases k with
      | zero => rw [Nat.zero_mul]; exact first_eq
      | succ k => exact each k (Nat.lt_of_succ_lt_succ hk)

/-- **What the reader of ELF images finds** rests on the encoding, the header and the section table;
what it reads besides is only checked. -/
theorem exists_of_object? {o : Object} (found : object? image = some o) :
    ∃ e h sections name?, encoding? image = some e ∧ header? image e = some h ∧
      sections? image e h = some sections ∧ o = .elf h.machine sections name? := by
  obtain ⟨e, encoding, found⟩ := Option.bind_eq_some_iff.1 found
  obtain ⟨h, header, found⟩ := Option.bind_eq_some_iff.1 found
  obtain ⟨programs, -, found⟩ := Option.bind_eq_some_iff.1 found
  obtain ⟨sections, read, found⟩ := Option.bind_eq_some_iff.1 found
  obtain ⟨names, -, found⟩ := Option.bind_eq_some_iff.1 found
  -- four guards stand in front of the result
  obtain ⟨_, _, found⟩ := Option.bind_eq_some_iff.1 found
  obtain ⟨_, _, found⟩ := Option.bind_eq_some_iff.1 found
  obtain ⟨_, _, found⟩ := Option.bind_eq_some_iff.1 found
  obtain ⟨_, _, found⟩ := Option.bind_eq_some_iff.1 found
  exact ⟨e, h, sections, _, encoding, header, read, (Option.some.inj found).symm⟩

/-- **The object in an ELF image has all section headers.** -/
theorem whole_of_object? {o : Object} (found : object? image = some o) : o.Whole image := by
  obtain ⟨e, h, sections, name?, encoding, header, read, rfl⟩ := exists_of_object? found
  exact ⟨e, h, encoding, header, rfl, sections_of_sections? read⟩

end Elf

/-- **What the reader of PE images finds** rests on the pointer to the main header, on this header
and on as many section headers as it says. -/
theorem Pe.exists_of_object? {image : Image} {o : Object} (found : object? image = some o) :
    ∃ pointer machine count date symbols symbolCount optionalSize flags sections,
      image.fields? .little pointerOffset [4] = some [pointer] ∧
      image.fields? .little (pointer + 4) [2, 2, 4, 4, 4, 2, 2] =
        some [machine, count, date, symbols, symbolCount, optionalSize, flags] ∧
      ((List.range count).mapM fun i => sectionAt? image (symbols + symbolSize * symbolCount)
        (pointer + 4 + headerSize + optionalSize + i * sectionSize)) = some sections ∧
      o = .pe machine sections := by
  obtain ⟨first, pointer_eq, found⟩ := Option.bind_eq_some_iff.1 found
  split at found
  · next pointer =>
    obtain ⟨_, _, found⟩ := Option.bind_eq_some_iff.1 found
    obtain ⟨_, _, found⟩ := Option.bind_eq_some_iff.1 found
    obtain ⟨_, _, found⟩ := Option.bind_eq_some_iff.1 found
    obtain ⟨second, header_eq, found⟩ := Option.bind_eq_some_iff.1 found
    split at found
    · obtain ⟨_, _, found⟩ := Option.bind_eq_some_iff.1 found
      obtain ⟨_, _, found⟩ := Option.bind_eq_some_iff.1 found
      obtain ⟨sections, read, found⟩ := Option.bind_eq_some_iff.1 found
      exact ⟨_, _, _, _, _, _, _, _, sections, pointer_eq, header_eq, read,
        (Option.some.inj found).symm⟩
    · cases found
  · cases found

/-- **The object in a PE image has all section headers.** -/
theorem Pe.whole_of_object? {image : Image} {o : Object} (found : object? image = some o) :
    o.Whole image := by
  obtain ⟨pointer, machine, count, date, symbols, symbolCount, optionalSize, flags, sections,
    pointer_eq, header_eq, read, rfl⟩ := exists_of_object? found
  exact ⟨pointer, count, date, symbols, symbolCount, optionalSize, flags, pointer_eq, header_eq,
    getElem_of_mapM_range read⟩

namespace MachO

variable {image : Image}

/-- As many commands are read as were asked for, or none at all. -/
theorem length_of_commands? {order : ByteOrder} {count offset : Nat} {commands : List Command}
    (read : commands? image order count offset = some commands) : commands.length = count := by
  induction count generalizing offset commands with
  | zero =>
    obtain rfl : [] = commands := Option.some.inj read
    rfl
  | succ count ih =>
    obtain ⟨⟨command, size⟩, -, read⟩ := Option.bind_eq_some_iff.1 read
    obtain ⟨rest, rest_eq, read⟩ := Option.bind_eq_some_iff.1 read
    obtain rfl : command :: rest = commands := Option.some.inj read
    rw [List.length_cons, ih rest_eq]

/-- **What the reader of Mach-O images finds** rests on the header and on as many commands as it
says; their segments must lie in the image. -/
theorem exists_of_object? {e : Encoding} {o : Object} (found : object? image e = some o) :
    ∃ machine subtype type count size flags commands,
      image.fields? e.order 4 [4, 4, 4, 4, 4, 4] =
        some [machine, subtype, type, count, size, flags] ∧
      commands? image e.order count e.headerSize = some commands ∧
      ((commands.filterMap Command.segment?).all (·.fits image)) = true ∧
      o = .machO machine (commands.filterMap Command.segment?) := by
  obtain ⟨_, _, found⟩ := Option.bind_eq_some_iff.1 found
  obtain ⟨fields, header_eq, found⟩ := Option.bind_eq_some_iff.1 found
  split at found
  · obtain ⟨_, _, found⟩ := Option.bind_eq_some_iff.1 found
    obtain ⟨_, _, found⟩ := Option.bind_eq_some_iff.1 found
    obtain ⟨commands, read, found⟩ := Option.bind_eq_some_iff.1 found
    obtain ⟨_, fit, found⟩ := Option.bind_eq_some_iff.1 found
    obtain ⟨_, _, found⟩ := Option.bind_eq_some_iff.1 found
    exact ⟨_, _, _, _, _, _, commands, header_eq, read, (Option.guard_eq_some' ()).1 fit,
      (Option.some.inj found).symm⟩
  · cases found

/-- **The object in a Mach-O image has the segments of all commands.** -/
theorem whole_of_object? {e : Encoding} {o : Object}
    (encoding : encoding? (image.extract 0 4).toList = some e) (found : object? image e = some o) :
    o.Whole image := by
  obtain ⟨machine, subtype, type, count, size, flags, commands, header_eq, read, fit, rfl⟩ :=
    exists_of_object? found
  exact ⟨e, subtype, type, count, size, flags, commands, encoding, header_eq, read,
    length_of_commands? read, rfl, List.all_eq_true.1 fit⟩

end MachO

/-- **The reader at hand leaves out no header** that an image announces: what it finds is `Whole`.
-/
theorem Object.whole_of_read? {image : Image} {o : Object} (found : read? image = some o) :
    o.Whole image := by
  -- one branch of the reader after the other, of which the first is that of tiny images
  rw [read?] at found
  split at found
  · cases found
  split at found
  · exact Elf.whole_of_object? found
  split at found
  · exact Pe.whole_of_object? found
  split at found
  · obtain rfl := Option.some.inj found
    trivial
  split at found
  · next e encoding => exact MachO.whole_of_object? encoding found
  · obtain rfl := Option.some.inj found
    trivial

namespace Container

variable {read : Image → Option Object} {image : Image}

/-! ### The search for a container -/

/-- **What is used of a reader**: it rejects images of less than `16` bytes, and of the others it
takes those for archives that begin with the bytes of one. -/
structure Classifies (read : Image → Option Object) : Prop where
  /-- Tiny images are rejected. -/
  reject : ∀ image : Image, image.size < 16 → read image = none
  /-- Archives are told by their first bytes. -/
  archive_iff : ∀ image : Image, 16 ≤ image.size →
    (read image = some .archive ↔ (image.extract 0 4).toList = [0xCA, 0xFE, 0xBA, 0xBE])

/-- The search fails for archives, with `.severalMachines`. -/
theorem recognize_eq_error_iff {fault : Fault} :
    recognize read image = .error fault ↔
      read image = some .archive ∧ fault = .severalMachines := by
  rw [recognize]
  cases read image with
  | none => exact ⟨nofun, nofun⟩
  | some o =>
    show o.container = _ ↔ _
    rw [Object.container_eq_error_iff, Option.some.injEq]

/-- It succeeds if `read` rejects the image, or if it finds an object of which something is said. -/
theorem recognize_eq_ok_iff {c : Container} :
    recognize read image = .ok c ↔
      read image = none ∧ c = raw ∨ ∃ o, read image = some o ∧ o.container = .ok c := by
  rw [recognize]
  cases read image with
  | none => simp [eq_comm]
  | some o => simp

/-- **What is promised of the search** in an image with some reader, where `found` is the outcome.
-/
structure Recognized (read : Image → Option Object) (image : Image)
    (found : Except Fault Container) : Prop where
  /-- It fails for images of at least 16 bytes that begin as archives do, and only for these. -/
  error_iff : (∃ fault, found = .error fault) ↔
    16 ≤ image.size ∧ (image.extract 0 4).toList = [0xCA, 0xFE, 0xBA, 0xBE]
  /-- The failure is that there are several machines. -/
  fault_eq : ∀ fault, found = .error fault → fault = .severalMachines
  /-- What is said of an image is consistent. -/
  consistent : ∀ c, found = .ok c → c.Consistent
  /-- An image that is rejected is one without a header. -/
  rejected : read image = none → found = .ok raw
  /-- What is said of a header is what the reader finds. -/
  described : ∀ c, found = .ok c → c.kind ≠ .raw →
    ∃ o, read image = some o ∧ o.container = .ok c

/-- **The promises are kept** with every reader that `Classifies` images. -/
theorem Classifies.recognized (classifies : Classifies read) (image : Image) :
    Recognized read image (recognize read image) where
  error_iff := by
    simp only [recognize_eq_error_iff, exists_and_left, exists_eq, and_true]
    constructor
    · intro archive
      -- a tiny image would have been rejected
      have long : 16 ≤ image.size := by
        by_contra short
        rw [classifies.reject image (Nat.lt_of_not_le short)] at archive
        cases archive
      exact ⟨long, (classifies.archive_iff image long).1 archive⟩
    · rintro ⟨long, leading⟩
      exact (classifies.archive_iff image long).2 leading
  fault_eq _ refused := (recognize_eq_error_iff.1 refused).2
  consistent c found := by
    obtain ⟨-, rfl⟩ | ⟨o, -, said⟩ := recognize_eq_ok_iff.1 found
    · exact consistent_raw
    · exact o.consistent_of_container said
  rejected none := recognize_eq_ok_iff.2 (.inl ⟨none, rfl⟩)
  described c found header := by
    obtain ⟨-, rfl⟩ | object := recognize_eq_ok_iff.1 found
    · exact absurd rfl header
    · exact object

/-! ### The reader at hand -/

/-- **The reader at hand classifies images**: it looks at the size first, and then at the first four
bytes. -/
theorem classifies_read? : Classifies Object.read? where
  reject image short := if_pos short
  archive_iff image long := by
    have looked : ¬image.size < minimalSize := Nat.not_lt_of_le long
    rw [Object.read?, if_neg looked]
    constructor
    · intro archive
      -- of the five branches only one finds an archive, since each format has its own constructor
      split at archive
      · obtain ⟨_, _, _, _, _, _, _, elf⟩ := Elf.exists_of_object? archive
        cases elf
      split at archive
      · obtain ⟨_, _, _, _, _, _, _, _, _, _, _, _, pe⟩ := Pe.exists_of_object? archive
        cases pe
      split at archive
      · assumption
      split at archive
      · obtain ⟨_, _, _, _, _, _, _, _, _, _, machO⟩ := MachO.exists_of_object? archive
        cases machO
      · cases archive
    · intro leading
      rw [leading]
      rfl

/-- **Only archives are refused.** The search for a container fails exactly for images of at least
16 bytes that begin with `CA FE BA BE`, since they hold programs for several machines. Any other
image has a consistent description; one that the reader rejects, as it does when any part of a
header is broken, is an image without a header. The reader leaves out no header that an image
announces, so no list of regions is partial. The same is promised with any other reader that rejects
tiny images and tells archives by those bytes. -/
theorem identify_refuses_archives_only (image : Image) :
    Recognized Object.read? image (identify image) ∧
    (∀ o, Object.read? image = some o → o.Whole image) ∧
    ∀ read, Classifies read → Recognized read image (recognize read image) := by
  exact ⟨classifies_read?.recognized image, fun o found => Object.whole_of_read? found,
    fun read classifies => classifies.recognized image⟩

/-- The smallest archive, of `16` bytes, is refused, with the reader at hand as the other one too;
an ELF image that breaks off behind its first bytes is one without a header. -/
theorem identify_refuses_archives_only_smallest :
    Classifies Object.read? ∧
    identify (#[0xCA, 0xFE, 0xBA, 0xBE] ++ Array.replicate 12 0) = .error .severalMachines ∧
    recognize Object.read? (#[0xCA, 0xFE, 0xBA, 0xBE] ++ Array.replicate 12 0) =
      .error .severalMachines ∧
    identify (#[0x7F, 0x45, 0x4C, 0x46] ++ Array.replicate 12 0) = .ok raw := by
  obtain ⟨promised, -, others⟩ :=
    identify_refuses_archives_only (#[0xCA, 0xFE, 0xBA, 0xBE] ++ Array.replicate 12 0)
  obtain ⟨fault, refused⟩ := promised.error_iff.2 ⟨by decide, by decide⟩
  obtain rfl := promised.fault_eq fault refused
  have other := others Object.read? classifies_read?
  obtain ⟨fault, refused'⟩ := other.error_iff.2 ⟨by decide, by decide⟩
  obtain rfl := other.fault_eq fault refused'
  obtain ⟨broken, -, -⟩ :=
    identify_refuses_archives_only (#[0x7F, 0x45, 0x4C, 0x46] ++ Array.replicate 12 0)
  have rejected : (Object.read? (#[0x7F, 0x45, 0x4C, 0x46] ++ Array.replicate 12 0)).isNone := by
    decide +kernel
  exact ⟨classifies_read?, refused, refused',
    broken.rejected (Option.isNone_iff_eq_none.1 rejected)⟩

end Container

end LinearSweep
