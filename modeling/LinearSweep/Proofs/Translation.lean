import LinearSweep.Proofs.Reading
import LinearSweep.Proofs.Swept

/-! # Position independence

The same bytes at another place give the same entries, moved by the distance of the two places:
addresses and branch targets are shifted modulo 2^32, and all else stays.

* **`Address.MovedBy`**, **`Instruction.MovedBy`**, **`Entry.MovedBy`** say that one thing is
  another one moved by a distance.
* **`Entry.movedBy_read`**: reading the same bytes at a moved address gives the moved entry.
* **`Image.Aligned`** relates two places with the same bytes behind them, and
  **`Image.Aligned.exists_swept`** moves a sweep from the one to the other. -/

namespace LinearSweep

/-! ### Moved addresses, instructions and entries -/

/-- **An address moved by a distance**, in the 32-bit space: modulo `2 ^ 32`, and so for negative
distances too. -/
def Address.MovedBy (distance : Int) (first second : Address) : Prop :=
  (second.toNat : Int) = (first.toNat + distance) % 2 ^ 32

/-- **An instruction moved by a distance.** -/
structure Instruction.MovedBy (distance : Int) (first second : Instruction) : Prop where
  /-- The address is moved. -/
  address : first.address.MovedBy distance second.address
  /-- A target is moved too; where there is none, there is none. -/
  target : Option.Rel (Address.MovedBy distance) first.target second.target
  /-- The size stays. -/
  size_eq : second.size = first.size
  /-- The mnemonic stays. -/
  mnemonic_eq : second.mnemonic = first.mnemonic
  /-- The bytes stay, and so do those in the room behind them. -/
  stored_eq : second.stored = first.stored
  /-- Without a target the operands stay. -/
  operands_eq : first.target = none → second.operands = first.operands
  /-- With a target they are the digits of the moved one. -/
  operands_of_target : ∀ target, second.target = some target →
    second.operands = "0x" ++ Text.Hex.upper target.toNat

/-- **An entry moved by a distance** is of the same kind; a skipped byte is the same byte. -/
inductive Entry.MovedBy (distance : Int) : Entry → Entry → Prop where
  /-- A moved instruction. -/
  | recognized {first second : Instruction} (h : first.MovedBy distance second) :
    MovedBy distance (.recognized first) (.recognized second)
  /-- A skipped byte at a moved address. -/
  | skipped {first second : Address} (byte : UInt8) (h : first.MovedBy distance second) :
    MovedBy distance (.skipped first byte) (.skipped second byte)

/-- An operand moved by a distance: only a destination changes. -/
inductive Operand.MovedBy (distance : Int) : Operand → Operand → Prop where
  /-- A moved destination. -/
  | destination {first second : Address} (h : first.MovedBy distance second) :
    MovedBy distance (.destination first) (.destination second)
  /-- Any other operand stays. -/
  | fixed (operand : Operand) (h : operand.target? = none) : MovedBy distance operand operand

variable {distance : Int} {first second : Address} {opcode : UInt8} {following : List UInt8}

/-- A moved entry covers as many bytes, so the entries behind it are as far away. -/
theorem Entry.MovedBy.size_eq {e f : Entry} (moved : e.MovedBy distance f) : f.size = e.size := by
  cases moved with
  | recognized h => exact h.size_eq
  | skipped => rfl

/-- A moved branch goes to the moved address, for the displacement stays. -/
theorem Address.MovedBy.branchTarget (moved : first.MovedBy distance second) (length : Nat)
    (displacement : Int) :
    (Address.branchTarget first length displacement).MovedBy distance
      (Address.branchTarget second length displacement) := by
  rw [MovedBy] at moved ⊢
  -- both targets are sums modulo 2^32, and the summands differ by the distance
  rw [toNat_branchTarget, toNat_branchTarget, count, moved]
  omega

/-- The address of an offset that is moved by `0` is the same word, since both are wrapped. -/
theorem Address.MovedBy.eq_of_zero {b c : Address} {o p : Nat}
    (moved : (ofOffset b o).MovedBy 0 (ofOffset c p)) : ofOffset b o = ofOffset c p := by
  rw [MovedBy, toNat_ofOffset, toNat_ofOffset, count] at moved
  apply UInt64.toNat_inj.1
  rw [toNat_ofOffset, toNat_ofOffset, count]
  omega

/-- **The same bytes at a moved address are read as the moved operand.** -/
theorem OperandForm.movedBy_read? (moved : first.MovedBy distance second) (form : OperandForm)
    {operand : Operand} (h : form.read? first opcode following = some operand) :
    ∃ operand', form.read? second opcode following = some operand' ∧
      operand.MovedBy distance operand' := by
  -- only the two forms of branches look at the address
  match form, following, h with
  | .shortBranch, [_], rfl | .nearBranch, [_, _], rfl =>
    exact ⟨_, rfl, .destination (moved.branchTarget ..)⟩
  | .bare, [], rfl | .register, [], rfl | .moveByte, [_], rfl | .moveWord, [_, _], rfl
  | .immediate, [_], rfl =>
    exact ⟨_, rfl, .fixed _ rfl⟩

/-- An instruction with a moved operand at a moved address is the moved instruction: `rule` gives
both. -/
theorem Rule.movedBy_instruction (rule : Rule) (moved : first.MovedBy distance second)
    {operand operand' : Operand} (h : operand.MovedBy distance operand') :
    (rule.instruction first opcode following operand).MovedBy distance
      (rule.instruction second opcode following operand') where
  address := moved
  target := by
    cases h with
    | destination h => exact .some h
    | fixed operand h =>
      show Option.Rel _ operand.target? operand.target?
      rw [h]
      exact .none
  size_eq := rfl
  mnemonic_eq := rfl
  stored_eq := rfl
  operands_eq := by
    intro none
    cases h with
    | destination => cases none
    | fixed => rfl
  operands_of_target := by
    intro target is
    cases h with
    | destination =>
      cases is
      rfl
    | fixed operand h => exact absurd (h.symm.trans is) (Option.some_ne_none target).symm

/-- **The same bytes at a moved address are read as the moved entry**, whether it is `.recognized`
or `.skipped`. -/
theorem Entry.movedBy_read (moved : first.MovedBy distance second) (opcode : UInt8)
    (following : List UInt8) :
    (read first opcode following).MovedBy distance (read second opcode following) := by
  obtain ⟨rule, operand, hrule, enough, hread, eq⟩ | ⟨short, eq⟩ :=
    read_cases first opcode following
  · obtain ⟨operand', hread', h⟩ := rule.form.movedBy_read? moved hread
    have eq' : read second opcode following = .recognized
        (rule.instruction second opcode (following.take rule.form.length) operand') := by
      rw [read, hrule, Option.bind_some, Rule.instruction?, hread', Option.map_some]
    rw [eq, eq']
    exact .recognized (rule.movedBy_instruction moved h)
  · obtain ⟨rule, _, hrule, enough, _⟩ | ⟨_, eq'⟩ := read_cases second opcode following
    -- whether bytes are missing does not depend on the address
    · exact absurd (short rule hrule) (Nat.not_lt_of_le enough)
    · rw [eq, eq']
      exact .skipped opcode moved

/-! ### Two places with the same bytes -/

/-- **Two images hold the same bytes from two offsets on**, and the addresses of these offsets have
a distance. -/
structure Image.Aligned (X Y : Image) (b c : Address) (distance : Int) (o p : Nat) : Prop where
  /-- The first offset is in the first image, or at its end. -/
  left_le : o ≤ X.size
  /-- The second offset is in the second image, or at its end. -/
  right_le : p ≤ Y.size
  /-- The bytes are the same. -/
  bytes_eq : X.toList.drop o = Y.toList.drop p
  /-- The addresses are that far apart, modulo 2^32. -/
  distance_eq : ((c.toNat + p : Int) - (b.toNat + o)) % 2 ^ 32 = distance

namespace Image.Aligned

variable {X Y : Image} {b c : Address} {o p : Nat}

/-- Aligned offsets are equally far from the ends of their images, `X.size - o` bytes. -/
theorem size_sub_eq (aligned : Aligned X Y b c distance o p) : X.size - o = Y.size - p := by
  have length := congrArg List.length aligned.bytes_eq
  rwa [List.length_drop, List.length_drop, Array.length_toList, Array.length_toList] at length

/-- As many bytes further on, the offsets are still aligned, with the same distance. -/
theorem add (aligned : Aligned X Y b c distance o p) {n : Nat} (le : o + n ≤ X.size) :
    Aligned X Y b c distance (o + n) (p + n) where
  left_le := le
  right_le := by
    have size_sub_eq := aligned.size_sub_eq
    have right_le := aligned.right_le
    omega
  bytes_eq := by rw [← List.drop_drop, ← List.drop_drop, aligned.bytes_eq]
  distance_eq := by
    rw [← aligned.distance_eq]
    congr 1
    omega

/-- The addresses of aligned offsets are moved by the distance of the places. -/
theorem movedBy_ofOffset (aligned : Aligned X Y b c distance o p) :
    (Address.ofOffset b o).MovedBy distance (Address.ofOffset c p) := by
  rw [Address.MovedBy, Address.toNat_ofOffset, Address.toNat_ofOffset, ← aligned.distance_eq,
    Address.count]
  omega

/-- Where there is a byte at the first of two aligned offsets, there is one at the second. -/
theorem lt_size (aligned : Aligned X Y b c distance o p) (h : o < X.size) : p < Y.size := by
  have size_sub_eq := aligned.size_sub_eq
  omega

/-- At aligned offsets the byte and those behind it are the same, as many as are asked for. -/
theorem byte_eq (aligned : Aligned X Y b c distance o p) (h : o < X.size) :
    Y.byte ⟨p, aligned.lt_size h⟩ = X.byte ⟨o, h⟩ ∧
      ∀ count, Y.following p count = X.following o count := by
  have cons := aligned.bytes_eq
  rw [X.drop_eq_cons ⟨o, h⟩, Y.drop_eq_cons ⟨p, aligned.lt_size h⟩, List.cons.injEq] at cons
  refine ⟨cons.1.symm, fun count => ?_⟩
  rw [following_eq, following_eq]
  exact congrArg (List.take count) cons.2.symm

/-- **At aligned offsets the entries are moved**, and they are the same at the same address, where
`distance = 0`. -/
theorem movedBy_decode (aligned : Aligned X Y b c distance o p) (h : o < X.size) :
    (decode X ⟨o, h⟩ b).MovedBy distance (decode Y ⟨p, aligned.lt_size h⟩ c) ∧
      (distance = 0 → decode X ⟨o, h⟩ b = decode Y ⟨p, aligned.lt_size h⟩ c) := by
  obtain ⟨byte_eq, following_eq⟩ := aligned.byte_eq h
  have moved := aligned.movedBy_ofOffset
  rw [decode, decode, byte_eq, following_eq]
  refine ⟨Entry.movedBy_read moved .., fun zero => ?_⟩
  rw [zero] at moved
  rw [moved.eq_of_zero]

/-- **Sessions from aligned starts have limits that are equally far ahead**, since no sum of offsets
reaches its bound before the end of an image. -/
theorem limit_add {s t : Nat} (aligned : Aligned X Y b c distance s t) (ceiling : Nat)
    (shortX : X.size < 2 ^ 64) (shortY : Y.size < 2 ^ 64) :
    Session.limit ⟨s, b, ceiling⟩ X + t = Session.limit ⟨t, c, ceiling⟩ Y + s := by
  have size_sub_eq := aligned.size_sub_eq
  have left_le := aligned.left_le
  have right_le := aligned.right_le
  -- a sum that is held at the largest offset is past the end of its image
  simp only [Session.limit, Offset.add, Offset.largest]
  omega

/-- **A sweep is moved with its bytes.** Its limit and its stop are as far ahead as before, `limit -
s` and `stop - s`. -/
theorem exists_swept {s t limit limit' stop : Nat} {entries : List Entry}
    (aligned : Aligned X Y b c distance s t) (limit_eq : limit + t = limit' + s)
    (swept : Decoder.Swept decode X b limit s entries stop) :
    ∃ entries' stop', Decoder.Swept decode Y c limit' t entries' stop' ∧
      List.Forall₂ (fun e f => e.MovedBy distance f ∧ (distance = 0 → e = f)) entries entries' ∧
      stop + t = stop' + s := by
  -- alignment is what a step preserves; the offsets also stay as far apart as the starts are
  obtain ⟨entries', stop', path, moved, ends, apart⟩ := swept.path.simulate decode Y c
    (fun o p => Aligned X Y b c distance o p ∧ o + t = p + s)
    (fun e f => e.MovedBy distance f ∧ (distance = 0 → e = f))
    (by
      rintro o p ⟨aligned, apart⟩ h _
      have alike := aligned.movedBy_decode h
      refine ⟨aligned.lt_size h, ?_⟩
      rw [next_decode, next_decode, alike.1.size_eq]
      exact ⟨alike, aligned.add (decode_end_le X ⟨o, h⟩ b), by omega⟩)
    ⟨aligned, Nat.add_comm s t⟩
  refine ⟨entries', stop', ⟨path, ?_, ?_⟩, moved, apart⟩
  -- the moved path is within its limit, and it halts for the reason that the first one has
  · have stop_le := swept.stop_le
    omega
  · rcases swept.halts with eq | ⟨h, crosses⟩
    · exact Or.inl (by omega)
    · refine Or.inr ⟨ends.lt_size h, ?_⟩
      rw [next_decode] at crosses
      rw [next_decode, (ends.movedBy_decode h).1.size_eq]
      omega

end Image.Aligned

/-! ### Moved sessions -/

/-- **Sessions are position independent.** Where two images hold the same bytes from two starts on,
sessions with one ceiling consume as much of them and give entries that are moved by the distance
of the addresses; at the same address the entries and the statements are the same. -/
theorem Session.run_decode_moves (X Y : Image) (s t ceiling : Nat) (b c : Address)
    (shortX : X.size < 2 ^ 64) (shortY : Y.size < 2 ^ 64) (hs : s ≤ X.size) (ht : t ≤ Y.size)
    (same : X.toList.drop s = Y.toList.drop t) :
    let distance : Int := ((c.toNat + t : Int) - (b.toNat + s)) % 2 ^ 32
    ∃ l m, run ⟨s, b, ceiling⟩ decode X = .ok l ∧ run ⟨t, c, ceiling⟩ decode Y = .ok m ∧
      m.consumed = l.consumed ∧
      m.entries.length = l.entries.length ∧
      List.Forall₂ (Entry.MovedBy distance) l.entries m.entries ∧
      (distance = 0 → m.entries = l.entries ∧ m.pseudoCode.body = l.pseudoCode.body) := by
  intro distance
  have aligned : Image.Aligned X Y b c distance s t := ⟨hs, ht, same, rfl⟩
  obtain ⟨l, ranX, startX, _, sweptX⟩ := exists_swept (s := ⟨s, b, ceiling⟩) decode shortX hs
  obtain ⟨m, ranY, startY, _, sweptY⟩ := exists_swept (s := ⟨t, c, ceiling⟩) decode shortY ht
  obtain ⟨entries, stop, swept, moved, apart⟩ :=
    aligned.exists_swept (aligned.limit_add ceiling shortX shortY) sweptX
  -- the moved sweep has the limit of the second session, so it is that session's
  obtain ⟨rfl, rfl⟩ := swept.unique sweptY
  refine ⟨l, m, ranX, ranY, ?_, moved.length_eq.symm, moved.imp fun _ _ h => h.1, ?_⟩
  · rw [Listing.consumed, Listing.consumed, startX, startY]
    show m.stop - t = l.stop - s
    omega
  · intro zero
    have entries_eq : l.entries = m.entries := by
      have same := moved.imp fun _ _ h => h.2 zero
      rwa [List.forall₂_eq_eq_eq] at same
    refine ⟨entries_eq.symm, ?_⟩
    rw [Listing.body_pseudoCode, Listing.body_pseudoCode, entries_eq]

/-- A backward jump at `0x100000000`, moved to `0xFFFFFFFFFFFFFFFE`, and moved to another address
that is the same modulo `2 ^ 32`. -/
theorem Session.run_decode_moves_jump :
    (#[0x90, 0xE9, 0xFB, 0xFF] : Image).size < 2 ^ 64 ∧
    (#[0xE9, 0xFB, 0xFF] : Image).size < 2 ^ 64 ∧
    1 ≤ (#[0x90, 0xE9, 0xFB, 0xFF] : Image).size ∧
    0 ≤ (#[0xE9, 0xFB, 0xFF] : Image).size ∧
    (#[0x90, 0xE9, 0xFB, 0xFF] : Image).toList.drop 1 =
      (#[0xE9, 0xFB, 0xFF] : Image).toList.drop 0 ∧
    (∃ l m, run ⟨1, 0xFFFFFFFF, 512⟩ decode #[0x90, 0xE9, 0xFB, 0xFF] = .ok l ∧
      run ⟨0, 0xFFFFFFFFFFFFFFFE, 512⟩ decode #[0xE9, 0xFB, 0xFF] = .ok m ∧
      m.consumed = l.consumed ∧
      m.entries.length = l.entries.length ∧
      List.Forall₂ (Entry.MovedBy 0xFFFFFFFE) l.entries m.entries) ∧
    ∃ l m, run ⟨1, 0xFFFFFFFF, 512⟩ decode #[0x90, 0xE9, 0xFB, 0xFF] = .ok l ∧
      run ⟨0, 0x700000000, 512⟩ decode #[0xE9, 0xFB, 0xFF] = .ok m ∧
      m.entries = l.entries ∧ m.pseudoCode.body = l.pseudoCode.body := by
  refine ⟨by decide, by decide, by decide, by decide, rfl, ?_, ?_⟩
  · obtain ⟨l, m, ranX, ranY, consumed_eq, length_eq, moved, _⟩ :=
      run_decode_moves #[0x90, 0xE9, 0xFB, 0xFF] #[0xE9, 0xFB, 0xFF] 1 0 512 0xFFFFFFFF
        0xFFFFFFFFFFFFFFFE (by decide) (by decide) (by decide) (by decide) rfl
    exact ⟨l, m, ranX, ranY, consumed_eq, length_eq, moved⟩
  · obtain ⟨l, m, ranX, ranY, _, _, _, stays⟩ :=
      run_decode_moves #[0x90, 0xE9, 0xFB, 0xFF] #[0xE9, 0xFB, 0xFF] 1 0 512 0xFFFFFFFF
        0x700000000 (by decide) (by decide) (by decide) (by decide) rfl
    exact ⟨l, m, ranX, ranY, stays (by decide)⟩

end LinearSweep
