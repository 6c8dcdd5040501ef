import LinearSweep.Proofs.Lossless

/-! # Decoding entry by entry

An image can be decoded without a session, by one entry after the other for as long as the cursor
is in the image. This comes to an end, and it meets the same entries as a session that starts at the
same offset with base 0 and a ceiling that reaches the end of the image.

* **`advance`** is one step of the loop, taken at a cursor; **`lt_advance`** and **`advance_le`**
  say that it goes forward and not too far, and **`iterate_advance_le`** says the latter of any
  number of steps.
* **`path_walk`**: the walk from an offset is a path to the end of the image.
* **`getElem?_walk`**, **`iterate_advance_length_walk`**: the walk consists of the steps that the
  loop takes in the image, and after them the end is reached.
* **`walk_sweeps_rest`** compares the loop with a session. -/

namespace LinearSweep

variable {image : Image} {cursor start ceiling : Nat}

/-! ### Steps -/

/-- **One step of the loop**: the cursor moves behind the entry where it stands. At the end of the
image it stays. -/
def advance (image : Image) (cursor : Nat) : Nat :=
  if h : cursor < image.size then (decodeNext image ⟨cursor, h⟩).2 else cursor

/-- In the image, a step goes where `decodeNext` says. -/
theorem advance_of_lt (h : cursor < image.size) :
    advance image cursor = (decodeNext image ⟨cursor, h⟩).2 :=
  dif_pos h

/-- At the end of the image no step is taken: the cursor is fixed. -/
theorem advance_of_le (le : image.size ≤ cursor) : advance image cursor = cursor :=
  dif_neg (Nat.not_lt_of_le le)

/-- **A step goes forward**, as long as `cursor < image.size`. -/
theorem lt_advance (h : cursor < image.size) : cursor < advance image cursor := by
  rw [advance_of_lt h]
  exact lt_decodeNext image ⟨cursor, h⟩

/-- **A step does not pass the end of the image**, since an entry ends in it. -/
theorem advance_le (le : cursor ≤ image.size) : advance image cursor ≤ image.size := by
  rcases Nat.lt_or_eq_of_le le with h | rfl
  · rw [advance_of_lt h]
    exact decode_end_le image ⟨cursor, h⟩ 0
  · rw [advance_of_le (Nat.le_refl _)]

/-- **No number of steps passes the end of the image**, which `cursor ≤ image.size` carries from
step to step. -/
theorem iterate_advance_le (le : start ≤ image.size) (n : Nat) :
    (advance image)^[n] start ≤ image.size := by
  induction n with
  | zero => exact le
  | succ n ih =>
    rw [Function.iterate_succ_apply']
    exact advance_le ih

/-! ### The walk -/

/-- A walk in the image begins with the step at its start, and goes on from `advance image start`.
-/
theorem walk_of_lt (h : start < image.size) :
    walk image start = decodeNext image ⟨start, h⟩ :: walk image (advance image start) := by
  rw [walk, dif_pos h, advance_of_lt h]

/-- There is nothing to walk at the end of the image. -/
theorem walk_of_le (le : image.size ≤ start) : walk image start = [] := by
  rw [walk, dif_neg (Nat.not_lt_of_le le)]

/-- **The walk from an offset is a path to the end of the image**, with base `0`. -/
theorem path_walk (le : start ≤ image.size) :
    Decoder.Path decode image 0 start ((walk image start).map Prod.fst) image.size := by
  induction start using walk.induct image with
  | case1 start h ih =>
    rw [← advance_of_lt h] at ih
    rw [walk_of_lt h, List.map_cons, Decoder.path_cons_iff]
    refine ⟨h, (next_decode ..).symm, ?_⟩
    -- what the walk does from the next cursor on is known, since that lies in the image or at its
    -- end
    have onward := ih (advance_le le)
    rwa [advance_of_lt h] at onward ⊢
  | case2 start h =>
    obtain rfl : start = image.size := Nat.le_antisymm le (Nat.le_of_not_lt h)
    rw [walk_of_le (Nat.le_refl _)]
    exact .nil _

/-- **A walk has an entry for every step that is taken in the image**, decoded where the steps
before it lead, and no others: number `n` stands at `(advance image)^[n] start`. -/
theorem getElem?_walk (image : Image) (start n : Nat) :
    (walk image start)[n]? =
      if h : (advance image)^[n] start < image.size then
        some (decodeNext image ⟨(advance image)^[n] start, h⟩)
      else none := by
  induction n generalizing start with
  | zero =>
    rw [Function.iterate_zero_apply]
    by_cases h : start < image.size
    · rw [walk_of_lt h, List.getElem?_cons_zero, dif_pos h]
    · rw [walk_of_le (Nat.le_of_not_lt h), List.getElem?_nil, dif_neg h]
  | succ n ih =>
    by_cases h : start < image.size
    · rw [walk_of_lt h, List.getElem?_cons_succ, ih]
      rfl
    · -- at the end the cursor stays, however many steps are taken
      have stays : (advance image)^[n + 1] start = start :=
        Function.iterate_fixed (advance_of_le (Nat.le_of_not_lt h)) (n + 1)
      rw [walk_of_le (Nat.le_of_not_lt h), List.getElem?_nil, dif_neg (stays.symm ▸ h)]

/-- **The walk ends at the end of the image**, after as many steps as it has entries. -/
theorem iterate_advance_length_walk (le : start ≤ image.size) :
    (advance image)^[(walk image start).length] start = image.size := by
  induction start using walk.induct image with
  | case1 start h ih =>
    rw [← advance_of_lt h] at ih
    rw [walk_of_lt h, List.length_cons, Function.iterate_succ_apply]
    exact ih (advance_le le)
  | case2 start h =>
    rw [walk_of_le (Nat.le_of_not_lt h)]
    exact Nat.le_antisymm le (Nat.le_of_not_lt h)

/-- A walk takes no more steps than there are bytes, `image.size - start`. -/
theorem length_walk_le (le : start ≤ image.size) :
    (walk image start).length ≤ image.size - start := by
  have covered := (path_walk le).add_length_le
  rw [List.length_map] at covered
  omega

/-- **A session that may go to the end of the image meets the entries of the walk**, and stops
there. -/
theorem Session.exists_run_eq_walk (short : image.size < 2 ^ 64) (le : start ≤ image.size)
    (enough : image.size - start ≤ ceiling) :
    ∃ l, run ⟨start, 0, ceiling⟩ decode image = .ok l ∧
      l.entries = (walk image start).map Prod.fst ∧ l.stop = image.size := by
  obtain ⟨l, ran, -, -, swept⟩ := exists_swept (s := ⟨start, 0, ceiling⟩) decode short le
  have limit_eq : limit ⟨start, 0, ceiling⟩ image = image.size := by
    simp only [limit, Offset.add, Offset.largest]
    omega
  rw [limit_eq] at swept
  -- the walk ends at the limit as well, and there is one swept path
  obtain ⟨entries_eq, stop_eq⟩ := swept.unique ⟨path_walk le, Nat.le_refl _, Or.inl rfl⟩
  exact ⟨l, ran, entries_eq, stop_eq⟩

/-- **Decoding entry by entry equals a sweep without a limit.** From an offset of the image the
cursor goes forward with every step that is taken in the image and never passes the end. After as
many steps as the walk has entries, which are no more than there are bytes, it is at the end of the
image and not before; the entries are those at the cursors in between. Every session with base 0 and
a ceiling that reaches the end has these entries and stops there. -/
theorem walk_sweeps_rest (image : Image) (start : Nat) (short : image.size < 2 ^ 64)
    (h : start ≤ image.size) :
    (∀ n, (advance image)^[n] start ≤ image.size ∧
      ((advance image)^[n] start < image.size →
        (advance image)^[n] start < (advance image)^[n + 1] start)) ∧
    (walk image start).length ≤ image.size - start ∧
    (advance image)^[(walk image start).length] start = image.size ∧
    (∀ n (hn : n < (walk image start).length), ∃ h : (advance image)^[n] start < image.size,
      (walk image start)[n] = decodeNext image ⟨(advance image)^[n] start, h⟩ ∧
      (walk image start)[n].2 = (advance image)^[n + 1] start) ∧
    ∀ ceiling, image.size - start ≤ ceiling →
      ∃ l, Session.run ⟨start, 0, ceiling⟩ decode image = .ok l ∧
        l.entries = (walk image start).map Prod.fst ∧ l.stop = image.size := by
  refine ⟨?_, length_walk_le h, iterate_advance_length_walk h, ?_, ?_⟩
  · intro n
    refine ⟨iterate_advance_le h n, fun before => ?_⟩
    rw [Function.iterate_succ_apply']
    exact lt_advance before
  · intro n hn
    have step := getElem?_walk image start n
    rw [List.getElem?_eq_getElem hn] at step
    split at step
    · next before =>
      have eq := Option.some.inj step
      refine ⟨before, eq, ?_⟩
      rw [eq, Function.iterate_succ_apply', advance_of_lt before]
    · cases step
  · intro ceiling enough
    exact Session.exists_run_eq_walk short h enough

/-- A move and a jump that the image cuts off: two steps lead from offset `1` to the end at `5`. -/
theorem walk_sweeps_rest_cut :
    (#[0xFF, 0xB8, 0x34, 0x12, 0x74] : Image).size < 2 ^ 64 ∧
    1 ≤ (#[0xFF, 0xB8, 0x34, 0x12, 0x74] : Image).size ∧
    (walk #[0xFF, 0xB8, 0x34, 0x12, 0x74] 1).length ≤ 4 ∧
    (advance #[0xFF, 0xB8, 0x34, 0x12, 0x74])^[2] 1 = 5 ∧
    ∃ l, Session.run ⟨1, 0, 4⟩ decode #[0xFF, 0xB8, 0x34, 0x12, 0x74] = .ok l ∧
      l.entries = (walk #[0xFF, 0xB8, 0x34, 0x12, 0x74] 1).map Prod.fst ∧ l.stop = 5 := by
  obtain ⟨-, length_le, -, -, sweeps⟩ :=
    walk_sweeps_rest #[0xFF, 0xB8, 0x34, 0x12, 0x74] 1 (by decide) (by decide)
  exact ⟨by decide, by decide, length_le, by decide +kernel, sweeps 4 (by decide)⟩

end LinearSweep
