import LinearSweep.Proofs.Lossless

/-! # What a ceiling leaves over

A sweep of the opcode table looks ahead in the whole image, and its limit only keeps out the
entries that would cross it. So it stops at most two bytes short of the limit, in front of an
instruction that is complete in the image; at the end of the image nothing is left over.

* **`Decoder.Swept.crossing`** is the instruction before which a sweep stops short of its limit.
* **`Image.cut`** is the beginning of an image.
* **`decode_cut_eq`**: an entry that ends before the cut is decoded as in the whole image.
* **`decode_cut_eq_skipped`**: the first byte of an instruction that is cut off is skipped.
* **`Decoder.Path.cut`**: a path that ends before the cut is one of the cut image. -/

namespace LinearSweep

variable {image : Image} {base : Address} {limit length offset start stop : Nat}
  {entries : List Entry}

/-! ### The end of a sweep -/

namespace Decoder.Swept

/-- **A sweep stops short of its limit only in front of an instruction** that lies in the image as a
whole and would cross the limit: `limit < stop + rule.encodedLength`. -/
theorem crossing (swept : Swept decode image base limit start entries stop) (short : stop < limit) :
    ∃ (h : stop < image.size) (rule : Rule), Rule.ofOpcode? (image.byte ⟨stop, h⟩) = some rule ∧
      stop + rule.encodedLength ≤ image.size ∧ limit < stop + rule.encodedLength := by
  rcases swept.halts with reached | ⟨h, crosses⟩
  · omega
  · rw [next_decode] at crosses
    obtain ⟨rule, operand, hrule, within, -, eq⟩ | ⟨-, eq⟩ := decode_cases image ⟨stop, h⟩ base
    · rw [eq] at crosses
      exact ⟨h, rule, hrule, within, crosses⟩
    · -- a skipped byte would not cross the limit
      rw [eq, Entry.size] at crosses
      omega

/-- A sweep leaves over less than the longest instruction, which has `Instruction.maxSize` bytes. -/
theorem limit_sub_stop_le (swept : Swept decode image base limit start entries stop) :
    limit - stop ≤ Instruction.maxSize - 1 := by
  by_cases short : stop < limit
  · obtain ⟨h, rule, -, -, crosses⟩ := swept.crossing short
    -- the instruction begins at the stop and ends behind the limit, so less than all of it is left
    -- over
    have le := rule.encodedLength_le
    omega
  · omega

/-- **A sweep of all that is left of an image reaches its end**, since nothing can lie in the image
and cross its end. -/
theorem stop_eq_size (swept : Swept decode image base image.size start entries stop) :
    stop = image.size := by
  by_contra ne
  obtain ⟨h, rule, -, within, crosses⟩ :=
    -- the instruction in front of which it stops would have to end behind the image, where it
    -- cannot lie
    swept.crossing (Nat.lt_of_le_of_ne swept.stop_le ne)
  omega

end Decoder.Swept

/-- **No tail is lost.** A session leaves over two bytes at most before its limit, and none before
the end of the image; where it leaves any, there stands an instruction that is complete in the image
and would cross the limit. -/
theorem Session.run_decode_tail (s : Session) (image : Image) (short : image.size < 2 ^ 64)
    (h : s.start ≤ image.size) :
    let limit := min (min (s.start + s.ceiling) (2 ^ 64 - 1)) image.size
    ∃ l, s.run decode image = .ok l ∧ l.stop ≤ limit ∧ limit - l.stop ≤ 2 ∧
      (limit = image.size → l.stop = image.size) ∧
      (l.stop < limit → ∃ (h : l.stop < image.size) (rule : Rule),
        Rule.ofOpcode? (image.byte ⟨l.stop, h⟩) = some rule ∧
        l.stop + rule.encodedLength ≤ image.size ∧ limit < l.stop + rule.encodedLength) := by
  intro limit
  obtain ⟨l, ran, -, -, swept⟩ := exists_swept decode short h
  refine ⟨l, ran, swept.stop_le, swept.limit_sub_stop_le, ?_, swept.crossing⟩
  intro limit_eq
  replace limit_eq : s.limit image = image.size := limit_eq
  rw [limit_eq] at swept
  exact swept.stop_eq_size

/-- A ceiling of `3` that goes through a call at offset 1, and one of `9` that is past the end of
the image. -/
theorem Session.run_decode_tail_call :
    (#[0x90, 0xE8, 0x00, 0x00] : Image).size < 2 ^ 64 ∧
    0 ≤ (#[0x90, 0xE8, 0x00, 0x00] : Image).size ∧
    (∃ l, run ⟨0, 7, 3⟩ decode #[0x90, 0xE8, 0x00, 0x00] = .ok l ∧ l.stop = 1 ∧
      ∃ (h : l.stop < 4) (rule : Rule),
        Rule.ofOpcode? (Image.byte #[0x90, 0xE8, 0x00, 0x00] ⟨l.stop, h⟩) = some rule ∧
        l.stop + rule.encodedLength ≤ 4 ∧ 3 < l.stop + rule.encodedLength) ∧
    ∃ l, run ⟨0, 7, 9⟩ decode #[0x90, 0xE8, 0x00, 0x00] = .ok l ∧ l.stop = 4 := by
  refine ⟨by decide, by decide, ?_, ?_⟩
  · obtain ⟨l, ran, -, -, -, crossing⟩ :=
      run_decode_tail ⟨0, 7, 3⟩ #[0x90, 0xE8, 0x00, 0x00] (by decide) (by decide)
    have stop : (run ⟨0, 7, 3⟩ decode #[0x90, 0xE8, 0x00, 0x00]).map (·.stop) = .ok 1 := by
      decide +kernel
    rw [ran] at stop
    have stop_eq : l.stop = 1 := Except.ok.inj stop
    exact ⟨l, ran, stop_eq, crossing (by simp [stop_eq])⟩
  · obtain ⟨l, ran, -, -, ends, -⟩ :=
      run_decode_tail ⟨0, 7, 9⟩ #[0x90, 0xE8, 0x00, 0x00] (by decide) (by decide)
    exact ⟨l, ran, ends (by decide)⟩

/-! ### Images that are cut off -/

/-- **The beginning of an image**, up to some length: all of it, if it is no longer. -/
def Image.cut (image : Image) (length : Nat) : Image := image.extract 0 length

namespace Image

@[simp] theorem toList_cut (image : Image) (length : Nat) :
    (image.cut length).toList = image.toList.take length := by
  rw [cut, Array.toList_extract, List.extract_eq_take_drop, List.drop_zero, Nat.sub_zero]

/-- A cut image ends at the cut, if it went as far: `min length image.size`. -/
theorem size_cut (image : Image) (length : Nat) :
    (image.cut length).size = min length image.size := by
  rw [cut, Array.size_extract, Nat.sub_zero]

/-- A byte before the cut stays: `Image.byte` gives the same at the same offset. -/
theorem byte_cut (image : Image) {length offset : Nat} (h : offset < (image.cut length).size)
    (h' : offset < image.size) : (image.cut length).byte ⟨offset, h⟩ = image.byte ⟨offset, h'⟩ := by
  simp [byte, cut]

/-- Bytes before the cut stay: those behind an offset, if `offset + 1 + count ≤ length`. -/
theorem following_cut (image : Image) {length offset count : Nat}
    (le : offset + 1 + count ≤ length) :
    (image.cut length).following offset count = image.following offset count := by
  rw [following_eq, following_eq, toList_cut, List.drop_take, List.take_take]
  congr 1
  omega

end Image

/-- **An entry that ends before the cut is decoded as in the whole image**: the decoder looks no
further than the entry that it gives. -/
theorem decode_cut_eq (h : offset < image.size)
    (within : offset + (decode image ⟨offset, h⟩ base).size ≤ length) :
    ∃ h' : offset < (image.cut length).size,
      decode (image.cut length) ⟨offset, h'⟩ base = decode image ⟨offset, h⟩ base := by
  have size_eq := image.size_cut length
  have pos := size_decode_pos image ⟨offset, h⟩ base
  have h' : offset < (image.cut length).size := by omega
  have byte_eq := image.byte_cut h' h
  refine ⟨h', ?_⟩
  obtain ⟨rule, operand, hrule, inside, hread, eq⟩ | ⟨past, eq⟩ :=
    decode_cases image ⟨offset, h⟩ base
  · -- the same rule applies, and all of its bytes lie before the cut
    rw [eq] at within
    replace within : offset + rule.encodedLength ≤ length := within
    have following_eq : (image.cut length).following offset rule.form.length =
        image.following offset rule.form.length := by
      apply image.following_cut
      rw [Rule.encodedLength] at within
      omega
    obtain ⟨rule', operand', hrule', -, hread', eq'⟩ | ⟨past', -⟩ :=
      decode_cases (image.cut length) ⟨offset, h'⟩ base
    · rw [byte_eq] at hrule' hread' eq'
      obtain rfl : rule' = rule := Option.some.inj (hrule'.symm.trans hrule)
      rw [following_eq] at hread' eq'
      obtain rfl : operand' = operand := Option.some.inj (hread'.symm.trans hread)
      rw [eq, eq']
    · have short := past' rule (byte_eq ▸ hrule)
      dsimp only at inside short
      omega
  · -- what the end of the image cuts off, a cut before it cuts off too
    obtain ⟨rule, operand, hrule, inside, -⟩ | ⟨-, eq'⟩ :=
      decode_cases (image.cut length) ⟨offset, h'⟩ base
    · have short := past rule (byte_eq ▸ hrule)
      dsimp only at inside short
      omega
    · rw [eq, eq', byte_eq]

/-- **The first byte of an instruction that is cut off is skipped**, in the sense that the entry is
`.skipped` with the address and the byte. -/
theorem decode_cut_eq_skipped (h : offset < image.size) (h' : offset < (image.cut length).size)
    {rule : Rule} (hrule : Rule.ofOpcode? (image.byte ⟨offset, h⟩) = some rule)
    (crosses : length < offset + rule.encodedLength) :
    decode (image.cut length) ⟨offset, h'⟩ base =
      .skipped (Address.ofOffset base offset) (image.byte ⟨offset, h⟩) := by
  have byte_eq := image.byte_cut h' h
  have size_eq := image.size_cut length
  obtain ⟨rule', operand, hrule', inside, -⟩ | ⟨-, eq⟩ :=
    decode_cases (image.cut length) ⟨offset, h'⟩ base
  · rw [byte_eq] at hrule'
    obtain rfl : rule' = rule := Option.some.inj (hrule'.symm.trans hrule)
    dsimp only at inside
    omega
  · rw [eq, byte_eq]

/-- **A path that ends before the cut is one of the cut image**, with the same entries. -/
theorem Decoder.Path.cut (path : Path decode image base start entries stop) (le : stop ≤ length) :
    Path decode (image.cut length) base start entries stop := by
  -- every entry of the path ends before the path does, and so before the cut
  induction path with
  | nil => exact .nil _
  | @cons offset stop entries h rest ih =>
    have within := Nat.le_trans rest.start_le_stop le
    rw [next_decode] at within
    obtain ⟨h', eq⟩ := decode_cut_eq h within
    rw [path_cons_iff, next_decode]
    refine ⟨h', ?_, ?_⟩
    · rw [next_decode, eq]
    · have onward := ih le
      rwa [next_decode] at onward

namespace Decoder.Swept

variable {all : List Entry}

/-- **A sweep of the cut image begins with the sweep up to the cut**: `all = entries ++ tail`. It
goes on to the cut. -/
theorem exists_eq_append_cut (swept : Swept decode image base limit start entries stop)
    (whole : Swept decode (image.cut limit) base (image.cut limit).size start all length)
    (limit_le : limit ≤ image.size) :
    length = limit ∧ ∃ tail, all = entries ++ tail ∧
      Path decode (image.cut limit) base stop tail limit := by
  have reached : length = limit := by
    -- the limit of the second sweep is the end of its image, so it leaves nothing over
    rw [whole.stop_eq_size, Image.size_cut, Nat.min_eq_left limit_le]
  obtain ⟨tail, all_eq, onward⟩ := (swept.path.cut swept.stop_le).exists_eq_append whole.path
    (reached ▸ swept.stop_le)
  rw [reached] at onward
  exact ⟨reached, tail, all_eq, onward⟩

/-- **Behind a sweep that stops short of its limit, the cut image goes on with a skipped byte**, for
the instruction there is cut off. -/
theorem exists_cons_cut {tail : List Entry}
    (swept : Swept decode image base limit start entries stop)
    (onward : Path decode (image.cut limit) base stop tail limit) (short : stop < limit) :
    ∃ first rest, tail = first :: rest ∧ first.isSkipped := by
  cases tail with
  | nil =>
    have stop_eq := onward.stop_eq
    rw [Entry.total_nil] at stop_eq
    omega
  | cons first rest =>
    obtain ⟨h, rule, hrule, -, crosses⟩ := swept.crossing short
    obtain ⟨h', rfl, -⟩ := path_cons_iff.1 onward
    refine ⟨_, rest, rfl, ?_⟩
    rw [next_decode, decode_cut_eq_skipped h h' hrule crosses]
    rfl

end Decoder.Swept

/-- The bytes along a path that ends at the cut are those of the whole image, `image.extract start
limit`. -/
theorem Decoder.Path.flatMap_bytes_cut
    (path : Path decode (image.cut limit) base start entries limit) :
    entries.flatMap Entry.bytes = (image.extract start limit).toList := by
  have stop_eq := path.stop_eq
  rw [path.flatMap_bytes, Image.toList_cut, List.drop_take, List.take_take, Array.toList_extract,
    List.extract_eq_take_drop]
  congr 1
  omega

/-- **A ceiling against a cut.** The session of a cut image goes on where a ceiling stops: it has
the same entries first, and no others if the ceiling was met exactly. Otherwise it also goes
through the one or two bytes that the ceiling leaves over, and skips the first of them. Any
ceiling will do for it that reaches the cut. -/
theorem Session.run_decode_cut (image : Image) (start ceiling unlimited : Nat) (base : Address)
    (short : image.size < 2 ^ 64) (h : start ≤ image.size) :
    let limit := min (min (start + ceiling) (2 ^ 64 - 1)) image.size
    limit - start ≤ unlimited → ∃ l m, run ⟨start, base, ceiling⟩ decode image = .ok l ∧
      run ⟨start, base, unlimited⟩ decode (image.cut limit) = .ok m ∧
      l.entries <+: m.entries ∧
      m.stop = limit ∧
      (m.entries = l.entries ↔ l.stop = limit) ∧
      (l.stop ≠ limit → ∃ first rest, m.entries = l.entries ++ first :: rest ∧
        first.isSkipped ∧
        m.offset l.entries.length = l.stop ∧
        (first :: rest).flatMap Entry.bytes = (image.extract l.stop limit).toList ∧
        (limit - l.stop = 1 ∨ limit - l.stop = 2)) := by
  intro limit enough
  have limit_le : limit ≤ image.size := Nat.min_le_right ..
  have start_le : start ≤ limit := start_le_limit (s := ⟨start, base, ceiling⟩) short h
  have size_eq : (image.cut limit).size = limit := by
    rw [Image.size_cut, Nat.min_eq_left limit_le]
  have shortCut : (image.cut limit).size < 2 ^ 64 := by omega
  obtain ⟨l, ran, -, -, swept⟩ := exists_swept (s := ⟨start, base, ceiling⟩) decode short h
  obtain ⟨m, ranCut, startCut, -, sweptCut⟩ :=
    exists_swept (s := ⟨start, base, unlimited⟩) decode shortCut (by rw [size_eq]; exact start_le)
  -- a ceiling that reaches the cut leaves only the end of the cut image for a limit
  have unlimited_eq : Session.limit ⟨start, base, unlimited⟩ (image.cut limit) =
      (image.cut limit).size := by
    simp only [Session.limit, Offset.add, Offset.largest]
    omega
  rw [unlimited_eq] at sweptCut
  -- the cut image has the entries up to the ceiling, and a tail that goes on to the cut
  obtain ⟨ends, tail, entries_eq, onward⟩ := swept.exists_eq_append_cut sweptCut limit_le
  refine ⟨l, m, ran, ranCut, ⟨tail, entries_eq.symm⟩, ends, ?_, ?_⟩
  · -- the tail is empty exactly if there is nothing left to go through
    rw [entries_eq, List.append_right_eq_self]
    constructor
    · rintro rfl
      exact onward.stop_eq.symm
    · intro reached
      exact (Decoder.Halts.eq_nil (Or.inl reached) onward le_rfl).1
  · intro unreached
    have stop_lt : l.stop < limit := Nat.lt_of_le_of_ne swept.stop_le unreached
    obtain ⟨first, rest, rfl, skipped⟩ := swept.exists_cons_cut onward stop_lt
    refine ⟨first, rest, entries_eq, skipped, ?_, onward.flatMap_bytes_cut, ?_⟩
    · rw [Listing.offset, startCut, entries_eq, List.take_left]
      exact swept.path.stop_eq.symm
    · have le : limit - l.stop ≤ 2 := swept.limit_sub_stop_le
      omega

/-- A ceiling of `3` goes through a call and leaves two of its bytes over, which the session of the
cut image goes through; a ceiling behind the call leaves nothing over. -/
theorem Session.run_decode_cut_call :
    (#[0x90, 0xE8, 0x00, 0x00, 0xC3] : Image).size < 2 ^ 64 ∧
    0 ≤ (#[0x90, 0xE8, 0x00, 0x00, 0xC3] : Image).size ∧
    4 - 0 ≤ 2 ^ 64 - 1 ∧
    (∃ l m, run ⟨0, 7, 3⟩ decode #[0x90, 0xE8, 0x00, 0x00, 0xC3] = .ok l ∧
      run ⟨0, 7, 2 ^ 64 - 1⟩ decode (Image.cut #[0x90, 0xE8, 0x00, 0x00, 0xC3] 3) = .ok m ∧
      l.stop = 1 ∧
      ∃ first rest, m.entries = l.entries ++ first :: rest ∧ first.isSkipped ∧
        (first :: rest).flatMap Entry.bytes = [0xE8, 0x00]) ∧
    ∃ l m, run ⟨0, 7, 4⟩ decode #[0x90, 0xE8, 0x00, 0x00, 0xC3] = .ok l ∧
      run ⟨0, 7, 2 ^ 64 - 1⟩ decode (Image.cut #[0x90, 0xE8, 0x00, 0x00, 0xC3] 4) = .ok m ∧
      l.stop = 4 ∧ m.entries = l.entries := by
  refine ⟨by decide, by decide, by decide, ?_, ?_⟩
  · obtain ⟨l, m, ran, ranCut, -, -, -, unreached⟩ :=
      run_decode_cut #[0x90, 0xE8, 0x00, 0x00, 0xC3] 0 3 (2 ^ 64 - 1) 7 (by decide) (by decide)
        (by decide)
    have stop : (run ⟨0, 7, 3⟩ decode #[0x90, 0xE8, 0x00, 0x00, 0xC3]).map (·.stop) = .ok 1 := by
      decide +kernel
    rw [ran] at stop
    have stop_eq : l.stop = 1 := Except.ok.inj stop
    obtain ⟨first, rest, entries_eq, skipped, -, bytes_eq, -⟩ := unreached (by simp [stop_eq])
    rw [stop_eq] at bytes_eq
    exact ⟨l, m, ran, ranCut, stop_eq, first, rest, entries_eq, skipped, bytes_eq⟩
  · obtain ⟨l, m, ran, ranCut, -, -, entries_eq_iff, -⟩ :=
      run_decode_cut #[0x90, 0xE8, 0x00, 0x00, 0xC3] 0 4 (2 ^ 64 - 1) 7 (by decide) (by decide)
        (by decide)
    have stop : (run ⟨0, 7, 4⟩ decode #[0x90, 0xE8, 0x00, 0x00, 0xC3]).map (·.stop) = .ok 4 := by
      decide +kernel
    rw [ran] at stop
    have stop_eq : l.stop = 4 := Except.ok.inj stop
    exact ⟨l, m, ran, ranCut, stop_eq, entries_eq_iff.2 stop_eq⟩

end LinearSweep
