import LinearSweep.Decode
import LinearSweep.Listing
import LinearSweep.Offset

/-! # Linear sweeps

A session walks forward through an image, entry by entry, from a start offset to the end of the
image or to a ceiling of bytes, whichever comes first.

* **`Session`** holds the parameters, **`Session.limit`** is the offset that it may not pass.
* **`Session.sweep`** collects entries up to the limit: it stops at the limit, or in front of an
  entry that would cross it.
* **`Session.run`** is the listing of a session, or the fault that it starts behind the image. -/

namespace LinearSweep

/-- The byte ceiling of a session that gives none, `512`. -/
def Session.defaultCeiling : Nat := 512

/-- **The parameters of one sweep.** -/
structure Session where
  /-- The offset where the sweep begins. -/
  start : Nat := 0
  /-- The address of offset 0. -/
  base : Address := 0
  /-- The largest number of bytes to cover. -/
  ceiling : Nat := Session.defaultCeiling
deriving DecidableEq, Repr

/-- **The entry at an offset, made to cover a byte** by `Entry.covering`, so that a sweep goes
forward whatever the decoder says. -/
def Decoder.next (decoder : Decoder) (image : Image) (base : Address)
    (offset : Fin image.size) : Entry :=
  (decoder image offset base).covering (image.byte offset)

/-- The next entry covers a byte, so `cursor + entry.size` is a step forward. -/
theorem Decoder.size_next_pos (decoder : Decoder) (image : Image) (base : Address)
    (offset : Fin image.size) : 0 < (decoder.next image base offset).size :=
  Entry.size_covering_pos ..

namespace Session

/-- The address of the first byte. -/
def startAddress (s : Session) : Address := Address.ofOffset s.base s.start

/-- **The offset that a sweep may not pass**: `start + ceiling`, held at the largest offset, or the
end of the image. -/
def limit (s : Session) (image : Image) : Nat := min (Offset.add s.start s.ceiling) image.size

/-- The limit is in the image, which makes `cursor < limit` an index of it. -/
theorem limit_le_size (s : Session) (image : Image) : s.limit image ≤ image.size :=
  Nat.min_le_right ..

/-- **Collect entries from `cursor` on** behind those `collected` before, and give the offset where
the sweep stops. It stops at `limit`, or in front of an entry that would cross it. -/
def sweep (decoder : Decoder) (image : Image) (base : Address) (limit : Nat)
    (limit_le : limit ≤ image.size) (collected : Array Entry) (cursor : Nat) :
    Array Entry × Nat :=
  if h : cursor < limit then
    let entry := decoder.next image base ⟨cursor, Nat.lt_of_lt_of_le h limit_le⟩
    -- an entry that would cross the limit is left for the next session
    if cursor + entry.size ≤ limit then
      sweep decoder image base limit limit_le (collected.push entry) (cursor + entry.size)
    else (collected, cursor)
  else (collected, cursor)
termination_by limit - cursor
decreasing_by
  have := decoder.size_next_pos image base ⟨cursor, Nat.lt_of_lt_of_le h limit_le⟩
  omega

/-- **Run a session.** The only fault is `.startPastEnd`, for a start behind the end of the image.
-/
def run (s : Session) (decoder : Decoder) (image : Image) : Except Fault Listing :=
  if s.start ≤ image.size then
    let (entries, stop) :=
      sweep decoder image s.base (s.limit image) (s.limit_le_size image) #[] s.start
    .ok { start := s.start, base := s.base, entries := entries.toList, stop := stop }
  else .error (.startPastEnd s.start image.size)

end Session

end LinearSweep
