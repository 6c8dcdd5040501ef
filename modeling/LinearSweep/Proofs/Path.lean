import LinearSweep.Sweep
import Mathlib

/-! # Paths of a decoder

A decoder cuts an image into entries, each of which begins where the one before it ends. Here the
cuts are a relation, apart from the loop that finds them and from any limit.

* **`Entry.total entries`** is the number of bytes that some entries cover.
* **`Decoder.Path decoder image base start entries stop`** says that the decoder, set down at
  `start`, meets `entries` in this order and ends up at `stop`.
* **`Decoder.Path.append`** and **`Decoder.Path.drop`**: paths compose, and a path can be entered
  at any of its entries.
* **`Decoder.Path.exists_eq_append`**: of two paths from one offset, the one that ends first is
  the beginning of the other.
* **`Decoder.Path.simulate`**: where one decoder goes step by step as another does, a path of the
  one is matched by a path of the other. -/

namespace LinearSweep

/-! ### Bytes covered -/

/-- **The number of bytes that some entries cover**, the sum of their `Entry.size`. -/
def Entry.total (entries : List Entry) : Nat := (entries.map Entry.size).sum

namespace Entry

@[simp] theorem total_nil : total [] = 0 := rfl

@[simp] theorem total_cons (entry : Entry) (entries : List Entry) :
    total (entry :: entries) = entry.size + total entries := by
  simp [total]

@[simp] theorem total_append (first second : List Entry) :
    total (first ++ second) = total first + total second := by
  simp [total]

/-- With one entry more, its size comes on top: `entries.take (i + 1)` covers `entries[i].size` more
than `entries.take i`. -/
theorem total_take_succ (entries : List Entry) (i : Nat) (h : i < entries.length) :
    total (entries.take (i + 1)) = total (entries.take i) + entries[i].size := by
  rw [List.take_add_one, List.getElem?_eq_getElem h, total_append, Option.toList_some,
    total_cons, total_nil, Nat.add_zero]

end Entry

/-! ### Paths -/

/-- **The entries that a decoder meets from `start` to `stop`.** They are those of `decoder.next`,
so each covers a byte. -/
inductive Decoder.Path (decoder : Decoder) (image : Image) (base : Address) :
    Nat → List Entry → Nat → Prop where
  /-- Nothing lies between an offset and itself. -/
  | nil (offset : Nat) : Path decoder image base offset [] offset
  /-- The entry at an offset comes first, and the others from its end on. -/
  | cons {offset stop : Nat} {entries : List Entry} (h : offset < image.size)
      (rest : Path decoder image base
        (offset + (decoder.next image base ⟨offset, h⟩).size) entries stop) :
      Path decoder image base offset (decoder.next image base ⟨offset, h⟩ :: entries) stop

namespace Decoder

variable {decoder : Decoder} {image : Image} {base : Address} {start middle stop : Nat}
  {entry : Entry} {entries first second : List Entry}

/-- A path begins with the entry at its start, and goes on behind that entry. -/
theorem path_cons_iff :
    Path decoder image base start (entry :: entries) stop ↔
      ∃ h : start < image.size, entry = decoder.next image base ⟨start, h⟩ ∧
        Path decoder image base (start + entry.size) entries stop := by
  constructor
  · intro path
    cases path with
    | cons h rest => exact ⟨h, rfl, rest⟩
  · rintro ⟨h, rfl, rest⟩
    exact .cons h rest

namespace Path

/-- A path goes as far as its entries cover: `stop` is determined by `start` and `entries`. -/
theorem stop_eq (path : Path decoder image base start entries stop) :
    stop = start + Entry.total entries := by
  induction path with
  | nil => rw [Entry.total_nil, Nat.add_zero]
  | cons h rest ih => rw [ih, Entry.total_cons, Nat.add_assoc]

/-- A path does not go backward. -/
theorem start_le_stop (path : Path decoder image base start entries stop) : start ≤ stop := by
  rw [path.stop_eq]
  exact Nat.le_add_right ..

/-- A path with an entry goes forward. -/
theorem start_lt_stop (path : Path decoder image base start (entry :: entries) stop) :
    start < stop := by
  obtain ⟨h, rfl, rest⟩ := path_cons_iff.1 path
  have forward := decoder.size_next_pos image base ⟨start, h⟩
  have onward := rest.start_le_stop
  omega

/-- A path covers a byte at least with each of its entries, so it has at most `stop - start`. -/
theorem add_length_le (path : Path decoder image base start entries stop) :
    start + entries.length ≤ stop := by
  induction path with
  | nil => exact Nat.le_refl _
  | @cons offset _ _ h rest ih =>
    have forward := decoder.size_next_pos image base ⟨offset, h⟩
    rw [List.length_cons]
    omega

/-- **Paths compose**, at an offset in the `middle`. -/
theorem append (path : Path decoder image base start first middle)
    (onward : Path decoder image base middle second stop) :
    Path decoder image base start (first ++ second) stop := by
  induction path with
  | nil => exact onward
  | cons h _ ih => exact .cons h (ih onward)

/-- A path along two sequences in a row is a path along the first and then along the second. -/
theorem of_append (path : Path decoder image base start (first ++ second) stop) :
    Path decoder image base start first (start + Entry.total first) ∧
      Path decoder image base (start + Entry.total first) second stop := by
  induction first generalizing start with
  | nil => exact ⟨.nil start, path⟩
  | cons entry first ih =>
    obtain ⟨h, rfl, rest⟩ := path_cons_iff.1 path
    rw [Entry.total_cons, ← Nat.add_assoc]
    exact ⟨.cons h (ih rest).1, (ih rest).2⟩

/-- **A path can be entered at any of its entries**: `entries.drop i` is a path from where
`entries.take i` ends. -/
theorem drop (path : Path decoder image base start entries stop) (i : Nat) :
    Path decoder image base (start + Entry.total (entries.take i)) (entries.drop i) stop := by
  -- the first part is thrown away, and with it where it began
  rw [← List.take_append_drop i entries] at path
  exact path.of_append.2

/-- Each entry of a path is the one that `decoder.next` gives where the entries before it end. -/
theorem getElem_eq (path : Path decoder image base start entries stop) (i : Nat)
    (hi : i < entries.length) :
    ∃ h : start + Entry.total (entries.take i) < image.size,
      entries[i] = decoder.next image base ⟨start + Entry.total (entries.take i), h⟩ := by
  have rest := path.drop i
  rw [List.drop_eq_getElem_cons hi] at rest
  obtain ⟨h, eq, _⟩ := path_cons_iff.1 rest
  exact ⟨h, eq⟩

/-- Each entry of a path begins before the path ends, since it covers a byte. -/
theorem offset_lt_stop (path : Path decoder image base start entries stop) (i : Nat)
    (hi : i < entries.length) : start + Entry.total (entries.take i) < stop := by
  have rest := path.drop i
  rw [List.drop_eq_getElem_cons hi] at rest
  exact rest.start_lt_stop

/-- Whatever lies on a path, the decoder gave it somewhere. -/
theorem exists_eq_next (path : Path decoder image base start entries stop)
    (mem : entry ∈ entries) : ∃ offset, entry = decoder.next image base offset := by
  obtain ⟨i, hi, rfl⟩ := List.getElem_of_mem mem
  obtain ⟨h, eq⟩ := path.getElem_eq i hi
  exact ⟨_, eq⟩

/-- **Of two paths from one offset, the one that ends first begins the other**, and what is left of
that is a `rest` from where it ends. -/
theorem exists_eq_append (path : Path decoder image base start first middle)
    (longer : Path decoder image base start second stop) (le : middle ≤ stop) :
    ∃ rest, second = first ++ rest ∧ Path decoder image base middle rest stop := by
  induction path generalizing second with
  | nil => exact ⟨second, rfl, longer⟩
  | @cons offset middle first h onward ih =>
    cases longer with
    | nil =>
      -- the shorter path already lies past the end of the longer one
      have forward := (Path.cons h onward).start_lt_stop
      omega
    | cons _ longer =>
      obtain ⟨rest, rfl, path⟩ := ih longer le
      exact ⟨rest, rfl, path⟩

/-- **A path is matched by another, entry by entry**, if each of its steps is: from offsets that
correspond, the two decoders give entries that correspond and end at corresponding offsets. -/
theorem simulate {start' : Nat} (decoder' : Decoder) (image' : Image) (base' : Address)
    (corresponds : Nat → Nat → Prop) (alike : Entry → Entry → Prop)
    (step : ∀ offset offset', corresponds offset offset' → ∀ h : offset < image.size,
      offset + (decoder.next image base ⟨offset, h⟩).size ≤ stop →
      ∃ h' : offset' < image'.size,
        alike (decoder.next image base ⟨offset, h⟩) (decoder'.next image' base' ⟨offset', h'⟩) ∧
        corresponds (offset + (decoder.next image base ⟨offset, h⟩).size)
          (offset' + (decoder'.next image' base' ⟨offset', h'⟩).size))
    (path : Path decoder image base start entries stop) (starts : corresponds start start') :
    ∃ entries' stop', Path decoder' image' base' start' entries' stop' ∧
      List.Forall₂ alike entries entries' ∧ corresponds stop stop' := by
  induction path generalizing start' with
  | nil => exact ⟨[], start', .nil start', .nil, starts⟩
  | cons h rest ih =>
    -- the first step is matched, and leads to offsets that correspond
    obtain ⟨h', first, onward⟩ := step _ _ starts h rest.start_le_stop
    obtain ⟨entries', stop', path', others, ends⟩ := ih step onward
    exact ⟨_, stop', .cons h' path', .cons first others, ends⟩

end Path

end Decoder

end LinearSweep
