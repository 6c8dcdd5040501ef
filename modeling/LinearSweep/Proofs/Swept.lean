import LinearSweep.Proofs.Path

/-! # The extent of a sweep

A sweep is a path that cannot go on: it stays within its limit, and it ends at the limit or in
front of an entry that would cross it. These two conditions single the sweep out, so a statement
about a session can be drawn from its path.

* **`Decoder.Halts`** is the stop condition, **`Decoder.Swept`** a path that meets it.
* **`Decoder.Swept.unique`**: no other path from the same start is swept.
* **`Session.run_eq_ok_iff`**: the listing of a session is the swept path from its start.
* **`Listing.Follows`** says the same of a listing without paths, entry by entry; every session that
  starts in the image has such a listing. -/

namespace LinearSweep

/-! ### Swept paths -/

/-- **A sweep stops at an offset**: at the limit, or where the next entry would cross it. An entry
that ends at the limit does not cross it. -/
def Decoder.Halts (decoder : Decoder) (image : Image) (base : Address) (limit offset : Nat) :
    Prop :=
  offset = limit ∨
    ∃ h : offset < image.size, limit < offset + (decoder.next image base ⟨offset, h⟩).size

/-- **A path within a limit that cannot go on.** -/
structure Decoder.Swept (decoder : Decoder) (image : Image) (base : Address) (limit start : Nat)
    (entries : List Entry) (stop : Nat) : Prop where
  /-- The entries lie one behind the other. -/
  path : decoder.Path image base start entries stop
  /-- The limit is not passed. -/
  stop_le : stop ≤ limit
  /-- There is a reason to stop. -/
  halts : decoder.Halts image base limit stop

namespace Decoder

variable {decoder : Decoder} {image : Image} {base : Address} {limit start middle stop : Nat}
  {entries first second : List Entry}

/-- Where a sweep stops, no path within the limit goes on: it has no `entries`. -/
theorem Halts.eq_nil (halts : Halts decoder image base limit start)
    (path : Path decoder image base start entries stop) (le : stop ≤ limit) :
    entries = [] ∧ stop = start := by
  cases path with
  | nil => exact ⟨rfl, rfl⟩
  | cons h rest =>
    exfalso
    have forward := decoder.size_next_pos image base ⟨start, h⟩
    have onward := rest.start_le_stop
    rcases halts with rfl | ⟨_, crosses⟩ <;> omega

namespace Swept

/-- **There is one swept path from a start**: entries and stop are determined by `start` and
`limit`. -/
theorem unique (swept : Swept decoder image base limit start first middle)
    (other : Swept decoder image base limit start second stop) :
    first = second ∧ middle = stop := by
  -- whichever path is shorter, the other one prolongs it, and the shorter one has halted
  rcases Nat.le_total middle stop with le | le
  · obtain ⟨rest, rfl, path⟩ := swept.path.exists_eq_append other.path le
    obtain ⟨rfl, rfl⟩ := swept.halts.eq_nil path other.stop_le
    exact ⟨(List.append_nil _).symm, rfl⟩
  · obtain ⟨rest, rfl, path⟩ := other.path.exists_eq_append swept.path le
    obtain ⟨rfl, rfl⟩ := other.halts.eq_nil path swept.stop_le
    exact ⟨List.append_nil _, rfl⟩

/-- **A path that leads to a swept path is swept with it**, since only the end of a path tells
whether it is swept. -/
theorem prepend (path : Path decoder image base start first middle)
    (swept : Swept decoder image base limit middle second stop) :
    Swept decoder image base limit start (first ++ second) stop :=
  ⟨path.append swept.path, swept.stop_le, swept.halts⟩

/-- **A swept path can be entered at any of its entries**, for the same reason. -/
theorem drop (swept : Swept decoder image base limit start entries stop) (i : Nat) :
    Swept decoder image base limit (start + Entry.total (entries.take i)) (entries.drop i) stop :=
  ⟨swept.path.drop i, swept.stop_le, swept.halts⟩

end Swept

end Decoder

/-! ### The loop of a session -/

namespace Session

variable {s : Session} {decoder : Decoder} {image : Image} {l : Listing}

/-- **The loop adds a swept path** to what was `collected` before. This is all that is said of the
loop; what follows is drawn from the path. -/
theorem exists_swept_sweep (decoder : Decoder) (image : Image) (base : Address) (limit : Nat)
    (limit_le : limit ≤ image.size) (collected : Array Entry) (cursor : Nat)
    (le : cursor ≤ limit) :
    ∃ entries,
      (sweep decoder image base limit limit_le collected cursor).1.toList =
        collected.toList ++ entries ∧
      decoder.Swept image base limit cursor entries
        (sweep decoder image base limit limit_le collected cursor).2 := by
  induction collected, cursor using sweep.induct decoder image base limit limit_le with
  | case1 collected cursor h entry within ih =>
    -- the entry fits and the loop goes on behind it
    obtain ⟨entries, collects, swept⟩ := ih within
    rw [sweep, dif_pos h]
    dsimp only
    rw [if_pos within]
    refine ⟨entry :: entries, ?_, ?_⟩
    · rw [collects, Array.toList_push, List.append_assoc, List.singleton_append]
    · exact ⟨.cons (Nat.lt_of_lt_of_le h limit_le) swept.path, swept.stop_le, swept.halts⟩
  | case2 collected cursor h entry crosses =>
    -- the entry would cross the limit
    rw [sweep, dif_pos h]
    dsimp only
    rw [if_neg crosses]
    refine ⟨[], (List.append_nil _).symm, .nil cursor, le, ?_⟩
    exact Or.inr ⟨Nat.lt_of_lt_of_le h limit_le, Nat.lt_of_not_le crosses⟩
  | case3 collected cursor h =>
    -- the limit is reached
    rw [sweep, dif_neg h]
    exact ⟨[], (List.append_nil _).symm, .nil cursor, le, Or.inl (by omega)⟩

/-- A session has a listing exactly if it starts in the image, or at its end. -/
theorem exists_run_eq_ok_iff : (∃ l, s.run decoder image = .ok l) ↔ s.start ≤ image.size := by
  rw [run]
  split
  · next h => exact ⟨fun _ => h, fun _ => ⟨_, rfl⟩⟩
  · next h =>
    constructor
    · rintro ⟨l, ran⟩
      cases ran
    · exact fun le => absurd le h

/-- **The only fault of a session is a start behind the image**, `.startPastEnd`. -/
theorem run_eq_error_iff {fault : Fault} :
    s.run decoder image = .error fault ↔
      image.size < s.start ∧ fault = .startPastEnd s.start image.size := by
  rw [run]
  split
  · next h =>
    constructor
    · intro failed
      cases failed
    · rintro ⟨past, _⟩
      exact absurd h (Nat.not_le_of_lt past)
  · next h =>
    constructor
    · intro failed
      cases failed
      exact ⟨Nat.lt_of_not_le h, rfl⟩
    · rintro ⟨_, rfl⟩
      rfl

/-- A listing has the start address of its session, whatever the decoder does. -/
theorem startAddress_of_run (ran : s.run decoder image = .ok l) :
    l.startAddress = s.startAddress := by
  rw [run] at ran
  split at ran
  · cases ran
    rfl
  · cases ran

/-- A session that starts in the image starts within its limit, since `image.size < 2 ^ 64` keeps
the limit from being held below it. -/
theorem start_le_limit (short : image.size < 2 ^ 64) (h : s.start ≤ image.size) :
    s.start ≤ s.limit image := by
  rw [limit, Offset.add, Offset.largest]
  omega

/-- **The listing of a session is the swept path from its start**: this holds of one listing and of
no other. -/
theorem run_eq_ok_iff (short : image.size < 2 ^ 64) :
    s.run decoder image = .ok l ↔
      s.start ≤ image.size ∧ l.start = s.start ∧ l.base = s.base ∧
        decoder.Swept image s.base (s.limit image) s.start l.entries l.stop := by
  by_cases h : s.start ≤ image.size
  · obtain ⟨entries, collects, swept⟩ := exists_swept_sweep decoder image s.base (s.limit image)
      (s.limit_le_size image) #[] s.start (start_le_limit short h)
    rw [Array.toList_empty, List.nil_append] at collects
    rw [run, if_pos h]
    constructor
    · intro ran
      cases ran
      exact ⟨h, rfl, rfl, collects ▸ swept⟩
    · -- another listing with such a path is the same one
      obtain ⟨start, base, listed, stop⟩ := l
      rintro ⟨_, rfl, rfl, other⟩
      obtain ⟨rfl, rfl⟩ := swept.unique other
      rw [← collects]
  · rw [run, if_neg h]
    constructor
    · intro ran
      cases ran
    · rintro ⟨le, _⟩
      exact absurd le h

/-- **A session that starts in the image has a listing**, whose entries are the swept path. -/
theorem exists_swept (decoder : Decoder) (short : image.size < 2 ^ 64)
    (h : s.start ≤ image.size) :
    ∃ l, s.run decoder image = .ok l ∧ l.start = s.start ∧ l.base = s.base ∧
      decoder.Swept image s.base (s.limit image) s.start l.entries l.stop := by
  obtain ⟨l, ran⟩ : ∃ l, s.run decoder image = .ok l := by
    rw [run, if_pos h]
    exact ⟨_, rfl⟩
  exact ⟨l, ran, ((run_eq_ok_iff short).1 ran).2⟩

/-- **The entries of a session lie one behind the other** from the start of its listing to the stop,
whatever its ceiling: they are a `Decoder.Path`. -/
theorem exists_path (decoder : Decoder) (short : image.size < 2 ^ 64)
    (h : s.start ≤ image.size) :
    ∃ l, s.run decoder image = .ok l ∧ l.base = s.base ∧
      decoder.Path image l.base l.start l.entries l.stop := by
  obtain ⟨l, ran, start_eq, base_eq, swept⟩ := exists_swept decoder short h
  refine ⟨l, ran, base_eq, ?_⟩
  rw [start_eq, base_eq]
  exact swept.path

/-- A ceiling of `3` bytes lets two instructions of one byte pass and stops in front of one of three
bytes. -/
example : (run ⟨0, 0, 3⟩ decode #[0x90, 0x90, 0xB8, 0x34, 0x12, 0xC3]).map (·.stop) = .ok 2 := by
  cbv

end Session

/-! ### Listings entry by entry -/

/-- **The offset where an entry of a listing begins**: the start, and the sizes of the entries
before it. Behind the last entry this is where they all end. -/
def Listing.offset (l : Listing) (i : Nat) : Nat := l.start + Entry.total (l.entries.take i)

@[simp] theorem Listing.offset_zero (l : Listing) : l.offset 0 = l.start := rfl

/-- An entry ends where the next one begins: `l.offset (i + 1)` lies `l.entries[i].size` behind
`l.offset i`. -/
theorem Listing.offset_succ (l : Listing) (i : Nat) (h : i < l.entries.length) :
    l.offset (i + 1) = l.offset i + l.entries[i].size := by
  rw [offset, offset, Entry.total_take_succ l.entries i h, Nat.add_assoc]

/-- **Later entries begin further on**: `l.offset` is strictly ascending along the entries. -/
theorem Decoder.Path.offset_lt_offset {decoder : Decoder} {image : Image} {base : Address}
    {l : Listing} (path : decoder.Path image base l.start l.entries l.stop) {i j : Nat} (lt : i < j)
    (hj : j ≤ l.entries.length) : l.offset i < l.offset j := by
  induction j with
  | zero => exact absurd lt (Nat.not_lt_zero i)
  | succ j ih =>
    obtain ⟨h, eq⟩ := path.getElem_eq j hj
    have pos := decoder.size_next_pos image base ⟨_, h⟩
    rw [← eq] at pos
    rw [l.offset_succ j hj]
    rcases Nat.lt_succ_iff_lt_or_eq.1 lt with before | rfl
    · have le := ih before (Nat.le_of_lt hj)
      omega
    · omega

/-- **A listing follows a decoder up to a limit.** -/
structure Listing.Follows (l : Listing) (decoder : Decoder) (image : Image) (base : Address)
    (start limit : Nat) : Prop where
  /-- It begins at the start. -/
  start_eq : l.start = start
  /-- Its addresses count from the base. -/
  base_eq : l.base = base
  /-- Every entry covers a byte. -/
  size_pos : ∀ entry ∈ l.entries, 1 ≤ entry.size
  /-- Every entry begins before the limit. -/
  offset_lt : ∀ i < l.entries.length, l.offset i < limit
  /-- Every entry is the decoder's at its offset; in place of one of size zero, the byte there is
  skipped. -/
  entry_eq : ∀ (i : Nat) (hi : i < l.entries.length), ∃ h : l.offset i < image.size,
    let given := decoder image ⟨l.offset i, h⟩ base
    l.entries[i] =
      if given.size = 0 then .skipped given.address (image.byte ⟨l.offset i, h⟩) else given
  /-- The listing ends where its last entry does. -/
  offset_length : l.offset l.entries.length = l.stop
  /-- It does not pass the limit. -/
  stop_le : l.stop ≤ limit
  /-- It ends at the limit, or in front of an entry that would cross it, where one of size zero
  counts as the byte that is skipped for it. -/
  halts : l.stop = limit ∨ ∃ h : l.stop < image.size,
    limit < l.stop + max 1 (decoder image ⟨l.stop, h⟩ base).size

/-- The entry that a sweep meets covers as many bytes as the decoder says, and at least `1`. -/
theorem Decoder.size_next (decoder : Decoder) (image : Image) (base : Address)
    (offset : Fin image.size) :
    (decoder.next image base offset).size = max 1 (decoder image offset base).size := by
  rw [next, Entry.covering]
  split
  · next h => rw [h, Entry.size, Nat.max_zero]
  · omega

/-- A listing whose entries are a swept path follows the decoder: each field of `Follows` is one of
the path. -/
theorem Decoder.Swept.follows {decoder : Decoder} {image : Image} {base : Address}
    {start limit : Nat} {l : Listing} (start_eq : l.start = start) (base_eq : l.base = base)
    (swept : decoder.Swept image base limit start l.entries l.stop) :
    l.Follows decoder image base start limit where
  start_eq := start_eq
  base_eq := base_eq
  size_pos entry mem := by
    obtain ⟨offset, rfl⟩ := swept.path.exists_eq_next mem
    exact decoder.size_next_pos image base offset
  offset_lt i hi := by
    rw [Listing.offset, start_eq]
    exact Nat.lt_of_lt_of_le (swept.path.offset_lt_stop i hi) swept.stop_le
  entry_eq i hi := by
    rw [Listing.offset, start_eq]
    exact swept.path.getElem_eq i hi
  offset_length := by
    -- behind the last entry there is nothing left to take
    rw [Listing.offset, List.take_length, start_eq]
    exact swept.path.stop_eq.symm
  stop_le := swept.stop_le
  halts := by
    rcases swept.halts with eq | ⟨h, crosses⟩
    · exact Or.inl eq
    · rw [Decoder.size_next] at crosses
      exact Or.inr ⟨h, crosses⟩

/-- **A session follows its decoder, whatever that is.** It fails exactly when it starts behind the
image. -/
theorem Session.run_follows_decoder (s : Session) (decoder : Decoder) (image : Image)
    (short : image.size < 2 ^ 64) :
    (image.size < s.start →
      s.run decoder image = .error (.startPastEnd s.start image.size)) ∧
    (s.start ≤ image.size → ∃ l, s.run decoder image = .ok l ∧
      l.Follows decoder image s.base s.start
        (min (min (s.start + s.ceiling) (2 ^ 64 - 1)) image.size)) := by
  constructor
  · intro past
    rw [run, if_neg (Nat.not_le_of_lt past)]
  · intro h
    obtain ⟨l, ran, start_eq, base_eq, swept⟩ := exists_swept decoder short h
    exact ⟨l, ran, swept.follows start_eq base_eq⟩

/-- A decoder whose instructions cover none to three bytes, `offset % 4` of them. -/
def Decoder.striding : Decoder := fun _ offset _ =>
  .recognized
    { address := 0
      size := offset % 4
      mnemonic := "hlt"
      operands := ""
      target := none
      stored := #v[0, 0, 0]
      size_le := Nat.le_of_lt_succ (Nat.mod_lt offset (by decide)) }

/-- A start behind the image, and a sweep that stops at offset 2, where an entry of two bytes would
cross the limit 3. -/
theorem Session.run_follows_striding :
    (#[7, 7, 7, 7, 7, 7, 7] : Image).size < 2 ^ 64 ∧
    (⟨8, 0, 2⟩ : Session).run Decoder.striding #[7, 7, 7, 7, 7, 7, 7] =
      .error (.startPastEnd 8 7) ∧
    ∃ l, (⟨1, 0, 2⟩ : Session).run Decoder.striding #[7, 7, 7, 7, 7, 7, 7] = .ok l ∧
      l.Follows Decoder.striding #[7, 7, 7, 7, 7, 7, 7] 0 1 3 :=
  ⟨by decide, (run_follows_decoder ⟨8, 0, 2⟩ _ _ (by decide)).1 (by decide),
    (run_follows_decoder ⟨1, 0, 2⟩ _ _ (by decide)).2 (by decide)⟩

end LinearSweep
