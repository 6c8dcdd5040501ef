import LinearSweep.Proofs.Records
import LinearSweep.Proofs.Window
import Mathlib.Order.Interval.Set.Basic

/-! # The first region that fits

A header may claim any numbers for its regions: a region may lie behind the image, it may reach out
of it, and its end may pass the largest offset. The choice of a region compares two numbers, and the
window that follows from it ends at a sum that is held at the largest offset. Both come out as if
the bytes of a region were counted without a bound.

* **`Region.bytes`** are the bytes that a region claims, **`Region.Meets`** says that an image has
  one of them; **`Region.inter_bytes`** are all that it has, **`Region.meets_iff`** is the test for
  one.
* **`Container.FirstFit`** is the first region that meets an image. By
  **`Container.region?_eq_some_iff`** and **`Container.region?_eq_none_iff`** it is the one chosen.
* **`CommandLine.Window.Covers`** says that a window is the part of a region in an image, as
  **`CommandLine.Window.covers_ofRegion`** shows of a region that meets it.
* **`Container.chooses_first_fit`** is all of this for the choice that a call makes. -/

namespace LinearSweep

/-! ### The bytes of a region -/

namespace Region

variable {r : Region} {length : Nat}

/-- **The bytes that a region claims**, counted without a bound: from `r.offset` on, `r.size` of
them. -/
def bytes (r : Region) : Set Nat := Set.Ico r.offset (r.offset + r.size)

/-- **A region meets an image** of `length` bytes if the image has a byte that the region claims, so
`r.bytes ∩ Set.Ico 0 length` is not empty. -/
def Meets (r : Region) (length : Nat) : Prop := (r.bytes ∩ Set.Ico 0 length).Nonempty

/-- **What an image has of a region** begins with the region and ends with the first of the two, at
`min (r.offset + r.size) length`. -/
theorem inter_bytes (r : Region) (length : Nat) :
    r.bytes ∩ Set.Ico 0 length = Set.Ico r.offset (min (r.offset + r.size) length) := by
  rw [bytes, Set.Ico_inter_Ico, sup_eq_left.2 (Nat.zero_le r.offset)]

/-- **A region meets an image exactly if it has bytes and begins in the image**: `0 < r.size ∧
r.offset < length`. -/
theorem meets_iff : r.Meets length ↔ 0 < r.size ∧ r.offset < length := by
  rw [Meets, inter_bytes, Set.nonempty_Ico, lt_min_iff, Nat.lt_add_right_iff_pos]

instance : Decidable (r.Meets length) := decidable_of_iff _ meets_iff.symm

/-- A region that does not meet an image claims none of its bytes, and the other way round: the
intersection is `∅`. -/
theorem not_meets_iff : ¬ r.Meets length ↔ r.bytes ∩ Set.Ico 0 length = ∅ :=
  Set.not_nonempty_iff_eq_empty

/-- **To hold the end of a region at the largest offset changes nothing in an image**, which ends
there at the latest: `r.stop` will do for `r.offset + r.size`. -/
theorem min_stop (r : Region) (short : length < 2 ^ 64) :
    min r.stop length = min (r.offset + r.size) length := by
  have held : length ≤ Offset.largest := Nat.le_of_lt_succ short
  rw [stop, Offset.add, min_assoc, min_eq_right held]

end Region

/-! ### The choice of a region -/

namespace Container

variable {c : Container} {length : Nat} {r : Region}

/-- **The first of some regions that meets an image** of `length` bytes. -/
def FirstFit (regions : List Region) (length : Nat) (r : Region) : Prop :=
  r.Meets length ∧ ∃ before after, regions = before ++ r :: after ∧
    ∀ q ∈ before, ¬ q.Meets length

/-- The test by which a region is chosen is whether it meets the image, `r.Meets length`. -/
theorem region?_eq_find? (c : Container) (length : Nat) :
    c.region? length = c.regions.find? (·.Meets length) := by
  rw [region?]
  -- both sides look for the first region that passes a test, so the tests are compared
  congr 1
  funext r
  rw [← Bool.decide_and]
  exact decide_eq_decide.2 Region.meets_iff.symm

/-- **The chosen region is the first that meets the image**, that is, `FirstFit c.regions length r`.
-/
theorem region?_eq_some_iff : c.region? length = some r ↔ FirstFit c.regions length r := by
  rw [region?_eq_find?, List.find?_eq_some_iff_append, decide_eq_true_eq]
  simp only [Bool.not_eq_true', decide_eq_false_iff_not, FirstFit]

/-- **No region is chosen exactly if none meets the image**: then `c.region? length` is `none`. -/
theorem region?_eq_none_iff :
    c.region? length = none ↔ ∀ r ∈ c.regions, ¬ r.Meets length := by
  rw [region?_eq_find?, List.find?_eq_none]
  simp only [decide_eq_true_eq]

end Container

/-! ### The window of a region -/

namespace CommandLine

namespace Window

/-- The bytes of a window, from `w.start` up to but not including `w.stop`. -/
def bytes (w : Window) : Set Nat := Set.Ico w.start w.stop

/-- **A window is the part of a region that lies in an image** of `length` bytes. -/
structure Covers (w : Window) (r : Region) (length : Nat) : Prop where
  /-- It begins with the region, at `r.offset`. -/
  start_eq : w.start = r.offset
  /-- It ends with the region, up to the largest offset `2 ^ 64 - 1`, or with the image. -/
  stop_eq : w.stop = min (min (r.offset + r.size) (2 ^ 64 - 1)) length
  /-- It has the bytes that the region claims and the image has, and no others. -/
  bytes_eq : w.bytes = r.bytes ∩ Set.Ico 0 length
  /-- It has a byte. -/
  start_lt_stop : w.start < w.stop
  /-- It lies in the image. -/
  stop_le : w.stop ≤ length

/-- **The window of a region that meets an image is the part of it in the image**, so that it
`Covers` the region. -/
theorem covers_ofRegion {r : Region} {image : Image} (short : image.size < 2 ^ 64)
    (meets : r.Meets image.size) : (ofRegion r image).Covers r image.size where
  start_eq := rfl
  stop_eq := rfl
  bytes_eq := by rw [bytes, ofRegion, r.min_stop short, r.inter_bytes]
  -- there is a byte in the window because the image has one of the region
  start_lt_stop := by
    rw [ofRegion, r.min_stop short, ← Set.nonempty_Ico, ← r.inter_bytes]
    exact meets
  stop_le := Nat.min_le_right _ _

end Window

end CommandLine

/-! ### The choice that a call makes -/

namespace Container

open CommandLine

/-- **The choice of a region is first fit, and its window can always be used.** The region that is
chosen for an image of some length is the first of which the image has a byte, and none is chosen if
the image has no byte of any. The window of a call that is asked to find a header has exactly those
bytes of the chosen region that the image has, so at least one, wherever the header says that the
region ends. -/
theorem chooses_first_fit (c : Container) {length : Nat} (short : length < 2 ^ 64) :
    (∀ r, c.region? length = some r ↔
      (r.bytes ∩ Set.Ico 0 length).Nonempty ∧ ∃ before after,
        c.regions = before ++ r :: after ∧ ∀ q ∈ before, q.bytes ∩ Set.Ico 0 length = ∅) ∧
    (c.region? length = none ↔ ∀ r ∈ c.regions, r.bytes ∩ Set.Ico 0 length = ∅) ∧
    ∀ r, c.region? length = some r → ∀ image : Image, image.size = length →
      (Window.ofContainer c image).1.Covers r length ∧
      ∀ (s : Settings) (parse : Parser), s.locateCode = true → parse image = .ok c →
        ∃ log, s.site parse image = .ok ((Window.ofContainer c image).1, log) := by
  -- a set without bytes is a region that does not meet the image
  simp only [← Region.not_meets_iff]
  refine ⟨fun r => region?_eq_some_iff, region?_eq_none_iff, ?_⟩
  rintro r chosen image rfl
  constructor
  · have meets : r.Meets image.size := (region?_eq_some_iff.1 chosen).1
    rw [Window.ofContainer_fst, chosen]
    exact Window.covers_ofRegion short meets
  · intro s parse locate identified
    exact Settings.exists_site_eq locate identified

/-- An image of `192` bytes whose header claims two regions: one that lies behind the image, and one
whose end passes the largest offset. -/
def overlongImage : Image :=
  (Elf.magic ++ [2, 1] ++ List.replicate 10 0 ++
    ByteOrder.little.record [(2, 2), (2, 62), (4, 1), (8, 0), (8, 0), (8, 64), (4, 0), (2, 64),
      (2, 56), (2, 0), (2, 64), (2, 2), (2, 255)] ++
    ByteOrder.little.record [(4, 0), (4, 1), (8, 6), (8, 0), (8, 192), (8, 16), (4, 0), (4, 0),
      (8, 0), (8, 0)] ++
    ByteOrder.little.record [(4, 0), (4, 1), (8, 6), (8, 0), (8, 48), (8, 2 ^ 64 - 1), (4, 0),
      (4, 0), (8, 0), (8, 0)]).toArray

/-- The second region is chosen, and the call goes by the part of it that is there, the bytes from
`48` on. -/
theorem chooses_first_fit_overlong :
    192 < 2 ^ 64 ∧ overlongImage.size = 192 ∧
    (let c : Container := ⟨.elf, .x86wide, [⟨"", 192, 16⟩, ⟨"", 48, 2 ^ 64 - 1⟩]⟩
     identify overlongImage = .ok c ∧
     c.region? 192 = some ⟨"", 48, 2 ^ 64 - 1⟩ ∧
     (Window.ofContainer c overlongImage).1.Covers ⟨"", 48, 2 ^ 64 - 1⟩ 192 ∧
     ∃ log, ({ locateCode := true } : Settings).site identify overlongImage =
      .ok ((Window.ofContainer c overlongImage).1, log)) := by
  have size_eq : overlongImage.size = 192 := by decide +kernel
  have identified : identify overlongImage =
      .ok ⟨.elf, .x86wide, [⟨"", 192, 16⟩, ⟨"", 48, 2 ^ 64 - 1⟩]⟩ := by
    decide +kernel
  have short : 192 < 2 ^ 64 := by decide
  obtain ⟨chosen_iff, -, window⟩ :=
    chooses_first_fit ⟨.elf, .x86wide, [⟨"", 192, 16⟩, ⟨"", 48, 2 ^ 64 - 1⟩]⟩ short
  have chosen := (chosen_iff ⟨"", 48, 2 ^ 64 - 1⟩).2
    ⟨⟨48, by simp [Region.bytes]⟩, [⟨"", 192, 16⟩], [], rfl, by
      rw [List.forall_mem_singleton, ← Region.not_meets_iff]
      decide⟩
  obtain ⟨covers, located⟩ := window _ chosen overlongImage size_eq
  exact ⟨short, size_eq, identified, chosen, covers,
    located { locateCode := true } identify rfl identified⟩

end Container

end LinearSweep
