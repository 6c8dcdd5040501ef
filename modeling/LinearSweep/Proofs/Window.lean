import LinearSweep.CommandLine.Run
import LinearSweep.Proofs.Lossless

/-! # Sessions stay in their window

The offsets of a call count from the start of a window of the image, and the ceiling of a session is
cut to what the window has left behind its start. So no entry reaches out of the window, whatever
the header says about its regions and however large the offsets are.

* **`CommandLine.Settings.region?`** is the region that a call goes by.
* **`CommandLine.Window.limit_session_le`**: a session that goes forward stops in its window.
* **`CommandLine.Settings.sessions_eq_ok`**: offsets that can be read have their sessions.
* **`CommandLine.Window.Confines`** is what a session of a window may touch. -/

namespace LinearSweep

/-- A session depends on its ceiling through `Session.limit` alone. -/
theorem Session.run_congr_limit {s t : Session} (decoder : Decoder) (image : Image)
    (start_eq : s.start = t.start) (base_eq : s.base = t.base)
    (limit_eq : s.limit image = t.limit image) : s.run decoder image = t.run decoder image := by
  simp only [run, start_eq, base_eq, limit_eq]

/-- A region that is chosen begins in the image, below `length`. -/
theorem Container.offset_lt_of_region? {c : Container} {length : Nat} {r : Region}
    (chosen : c.region? length = some r) : r.offset < length := by
  have holds := List.find?_some chosen
  rw [Bool.and_eq_true, decide_eq_true_eq, decide_eq_true_eq] at holds
  exact holds.2

namespace CommandLine

variable {w : Window} {image : Image} {base : Address} {ceiling offset : Nat} {l : Listing}

/-! ### The limit of a session -/

namespace Window

/-- Adding an offset does not lead out of a window at its start, even if the sum is held at the
largest offset. -/
theorem start_le_start_session (short : w.start < 2 ^ 64) :
    w.start ≤ (w.session base ceiling offset).start := by
  simp only [session, Offset.add, Offset.largest]
  omega

/-- **A session that goes forward stops in its window**: if there is room for an entry at all, then
the limit is no more than `w.stop`. -/
theorem limit_session_le
    (forward : (w.session base ceiling offset).start <
      (w.session base ceiling offset).limit image) :
    (w.session base ceiling offset).limit image ≤ w.stop := by
  simp only [session, Session.limit] at forward ⊢
  -- where the session starts does not matter: the cut of the ceiling alone holds it back
  generalize Offset.add w.start offset = start at forward ⊢
  simp only [Offset.add] at forward ⊢
  omega

/-- A session stops at its ceiling, if not before; the cut makes the ceiling no larger. -/
theorem limit_session_sub_le :
    (w.session base ceiling offset).limit image - (w.session base ceiling offset).start ≤
      ceiling := by
  simp only [session, Session.limit]
  generalize Offset.add w.start offset = start
  simp only [Offset.add]
  omega

/-- In the window of the whole image no ceiling is cut but by the end of the image, so the limit is
that of the uncut ceiling. -/
theorem limit_session_whole (whole : w.stop = image.size)
    (h : (w.session base ceiling offset).start ≤ image.size) :
    (w.session base ceiling offset).limit image =
      (⟨(w.session base ceiling offset).start, base, ceiling⟩ : Session).limit image := by
  simp only [session, Session.limit] at h ⊢
  generalize Offset.add w.start offset = start at h ⊢
  simp only [Offset.add]
  omega

/-! ### What a session may touch -/

/-- **A window confines a session** at an offset of it, whose ceiling was given as `ceiling`. -/
structure Confines (w : Window) (image : Image) (base : Address) (ceiling offset : Nat)
    (session : Session) : Prop where
  /-- The offset counts from the start of the window, up to the largest offset. -/
  start_eq : session.start = min (w.start + offset) (2 ^ 64 - 1)
  /-- Addresses count from the base. -/
  base_eq : session.base = base
  /-- Only a start behind the image is a fault. -/
  fault_only : ∀ fault, session.run decode image = .error fault → image.size < session.start
  /-- A listing with entries lies in the window. -/
  listing_within : ∀ l, session.run decode image = .ok l → l.entries ≠ [] →
    w.start ≤ l.start ∧ l.stop ≤ w.stop
  /-- All bytes of an entry are bytes of the window. -/
  entry_within : ∀ l, session.run decode image = .ok l →
    ∀ (i : Nat) (hi : i < l.entries.length),
      w.start ≤ l.offset i ∧ l.offset i + l.entries[i].size ≤ w.stop ∧
      l.entries[i].bytes = (image.extract (l.offset i) (l.offset i + l.entries[i].size)).toList
  /-- No more bytes are consumed than the ceiling says. -/
  consumed_le : ∀ l, session.run decode image = .ok l → l.consumed ≤ ceiling
  /-- In the window of the whole image, the ceiling might as well not be cut. -/
  run_whole : w = ⟨0, image.size⟩ →
    session.run decode image = (⟨session.start, base, ceiling⟩ : Session).run decode image

/-- A listing with entries lies between the start of its session and the limit, and in the
window. -/
theorem listing_within (small : w.start < 2 ^ 64) (short : image.size < 2 ^ 64)
    (ran : (w.session base ceiling offset).run decode image = .ok l) (some_entry : l.entries ≠ []) :
    w.start ≤ l.start ∧ l.stop ≤ w.stop := by
  obtain ⟨_, start_eq, _, swept⟩ := (Session.run_eq_ok_iff short).1 ran
  obtain ⟨entry, rest, entries_eq⟩ := List.exists_cons_of_ne_nil some_entry
  have path := swept.path
  rw [entries_eq] at path
  -- an entry is there, so the session goes forward
  have forward := Nat.lt_of_lt_of_le path.start_lt_stop swept.stop_le
  refine ⟨start_eq ▸ start_le_start_session small, ?_⟩
  exact Nat.le_trans swept.stop_le (limit_session_le forward)

/-- **A window confines the sessions at its offsets**, wherever it ends: nothing is asked of
`w.stop`. -/
theorem confines_session (small : w.start < 2 ^ 64) (short : image.size < 2 ^ 64) :
    w.Confines image base ceiling offset (w.session base ceiling offset) where
  start_eq := rfl
  base_eq := rfl
  fault_only := fun _ failed => (Session.run_eq_error_iff.1 failed).1
  listing_within := fun l ran some_entry => listing_within small short ran some_entry
  entry_within := by
    intro l ran i hi
    -- there is an entry, so the listing lies in the window
    obtain ⟨start_le, stop_le⟩ :=
      listing_within small short ran (List.ne_nil_of_length_pos (Nat.zero_lt_of_lt hi))
    obtain ⟨_, start_eq, base_eq, swept⟩ := (Session.run_eq_ok_iff short).1 ran
    have path := swept.path
    rw [← start_eq, ← base_eq] at path
    -- an entry begins behind the start, and ends where the next one begins or the listing does
    have behind : l.start ≤ l.offset i := Nat.le_add_right ..
    have before : l.offset i + l.entries[i].size ≤ l.stop := by
      rw [← l.offset_succ i hi]
      exact (path.drop (i + 1)).start_le_stop
    obtain ⟨h, eq⟩ := path.getElem_eq_decode i hi
    refine ⟨by omega, by omega, ?_⟩
    rw [Array.toList_extract, List.extract_eq_take_drop, Nat.add_sub_cancel_left, eq, decode_slice]
  consumed_le := by
    intro l ran
    obtain ⟨_, start_eq, _, swept⟩ := (Session.run_eq_ok_iff short).1 ran
    rw [Listing.consumed, start_eq]
    exact Nat.le_trans (Nat.sub_le_sub_right swept.stop_le _) limit_session_sub_le
  run_whole := by
    rintro rfl
    by_cases h : ((⟨0, image.size⟩ : Window).session base ceiling offset).start ≤ image.size
    -- a start in the image has the uncut limit, and one behind it fails with either ceiling
    · exact Session.run_congr_limit decode image rfl rfl (limit_session_whole rfl h)
    · rw [Session.run, Session.run, if_neg h, if_neg h]

end Window

/-! ### The sessions of a call -/

/-- The window that follows from a header is that of `c.region?`, or else the whole image. -/
theorem Window.ofContainer_fst (c : Container) (image : Image) :
    (ofContainer c image).1 =
      ((c.region? image.size).map (ofRegion · image)).getD (whole image) := by
  rw [ofContainer]
  cases c.region? image.size <;> rfl

/-- **The region that a call goes by**: none unless `s.locateCode` asks to find one with `parse`. -/
def Settings.region? (s : Settings) (parse : Container.Parser) (image : Image) :
    Except Fault (Option Region) :=
  if s.locateCode then (parse image).map (·.region? image.size) else .ok none

namespace Settings

variable {s : Settings} {parse : Container.Parser} {chosen : Option Region}

/-- A call that is asked to find a header goes by the window that follows from it, whatever `parse`
it was found by. -/
theorem exists_site_eq {c : Container} (locate : s.locateCode = true)
    (identified : parse image = .ok c) :
    ∃ log, s.site parse image = .ok ((Window.ofContainer c image).1, log) := by
  refine ⟨(Window.ofContainer c image).2, ?_⟩
  rw [site, if_pos locate, identified]
  rfl

/-- A region that a call goes by begins in the image, so the window starts below `2 ^ 64`. -/
theorem offset_lt_of_region? {r : Region} (found : s.region? parse image = .ok (some r)) :
    r.offset < image.size := by
  rw [region?] at found
  split at found
  · cases identified : parse image with
    | error fault => rw [identified] at found; cases found
    | ok c =>
      rw [identified] at found
      exact Container.offset_lt_of_region? (Except.ok.inj found)
  · cases found

/-- **The window of a call is the part of its region that lies in the image**, or else the whole
image, as `s.site` gives it. -/
theorem site_of_region? (found : s.region? parse image = .ok chosen) :
    ∃ log, s.site parse image =
      .ok ((chosen.map (Window.ofRegion · image)).getD (.whole image), log) := by
  rw [region?] at found
  split at found
  · next locate =>
    cases identified : parse image with
    | error fault => rw [identified] at found; cases found
    | ok c =>
      rw [identified] at found
      obtain rfl := Except.ok.inj found
      rw [← Window.ofContainer_fst]
      exact exists_site_eq locate identified
  · next whole =>
    cases found
    exact ⟨"", by rw [site, if_neg whole]; rfl⟩

/-- **Offsets that can be read have their sessions**, in the order of `s.offsetTexts`. -/
theorem sessions_eq_ok {offsets : List Nat} (base : Address) (w : Window)
    (parsed : List.Forall₂ (fun text offset => Offset.parse text = .ok offset)
      s.offsetTexts offsets) :
    s.sessions base w = .ok (offsets.map (w.session base s.ceiling)) := by
  rw [sessions]
  generalize s.offsetTexts = texts at parsed
  induction parsed with
  | nil => rfl
  | cons read _ ih =>
    rw [List.mapM_cons, read, ih]
    rfl

/-- **No session of a call leaves the window of the call**, which is the part of the chosen region
that lies in the image, or the whole image if there is none. Whichever `parse` finds the regions,
they may claim any numbers. -/
theorem sessions_confined (s : Settings) (parse : Container.Parser) (image : Image) (base : Address)
    (short : image.size < 2 ^ 64) {chosen : Option Region}
    (found : s.region? parse image = .ok chosen) {offsets : List Nat}
    (parsed : List.Forall₂ (fun text offset => Offset.parse text = .ok offset)
      s.offsetTexts offsets) :
    let w : Window := (chosen.map fun r =>
      ⟨r.offset, min (min (r.offset + r.size) (2 ^ 64 - 1)) image.size⟩).getD ⟨0, image.size⟩
    (∃ log, s.site parse image = .ok (w, log)) ∧
    ∃ sessions, s.sessions base w = .ok sessions ∧
      List.Forall₂ (w.Confines image base s.ceiling) offsets sessions := by
  intro w
  have small : w.start < 2 ^ 64 := by
    cases chosen with
    | some r => exact Nat.lt_trans (offset_lt_of_region? found) short
    | none => exact Nat.two_pow_pos 64
  constructor
  · obtain ⟨log, located⟩ := site_of_region? found
    refine ⟨log, located.trans ?_⟩
    cases chosen <;> rfl
  · refine ⟨_, sessions_eq_ok base w parsed, ?_⟩
    rw [List.forall₂_map_right_iff, List.forall₂_same]
    exact fun offset _ => Window.confines_session small short

/-- An image whose header says that its code is three bytes at offset `84`, of which the last begins
a call that goes on behind them. -/
def segmentedImage : Image := #[
  0xCE, 0xFA, 0xED, 0xFE, 7, 0, 0, 0, 3, 0, 0, 0, 2, 0, 0, 0, 1, 0, 0, 0, 56, 0, 0, 0, 0, 0, 0, 0,
  1, 0, 0, 0, 56, 0, 0, 0, 0x5F, 0x5F, 0x54, 0x45, 0x58, 0x54, 0, 0, 0, 0, 0, 0, 0, 0, 0, 0,
  0, 0, 0, 0, 0, 0, 0, 0, 84, 0, 0, 0, 3, 0, 0, 0, 7, 0, 0, 0, 5, 0, 0, 0, 0, 0, 0, 0, 0, 0, 0, 0,
  0x90, 0x90, 0xE8, 0, 0, 0xC3]

/-- Three sessions of one window: from its start, from `5` bytes behind it, and from the largest
offset. -/
theorem sessions_confined_segmented :
    segmentedImage.size < 2 ^ 64 ∧
    ({ offsets := ["0", "0x5", "ffffffffffffffff"], locateCode := true } : Settings).region?
      Container.identify segmentedImage = .ok (some ⟨"__TEXT", 84, 3⟩) ∧
    List.Forall₂ (fun text offset => Offset.parse text = .ok offset)
      ["0", "0x5", "ffffffffffffffff"] [0, 5, 0xFFFFFFFFFFFFFFFF] ∧
    (∃ log, ({ offsets := ["0", "0x5", "ffffffffffffffff"], locateCode := true } : Settings).site
      Container.identify segmentedImage = .ok (⟨84, 87⟩, log)) ∧
    ∃ sessions,
      ({ offsets := ["0", "0x5", "ffffffffffffffff"], locateCode := true } : Settings).sessions
        0x7C00 ⟨84, 87⟩ = .ok sessions ∧
      List.Forall₂ ((⟨84, 87⟩ : Window).Confines segmentedImage 0x7C00 512)
        [0, 5, 0xFFFFFFFFFFFFFFFF] sessions := by
  have parsed : List.Forall₂ (fun text offset => Offset.parse text = .ok offset)
      ["0", "0x5", "ffffffffffffffff"] [0, 5, 0xFFFFFFFFFFFFFFFF] :=
    .cons (by cbv) (.cons (by cbv) (.cons (by cbv) .nil))
  have found : ({ offsets := ["0", "0x5", "ffffffffffffffff"], locateCode := true } :
      Settings).region? Container.identify segmentedImage = .ok (some ⟨"__TEXT", 84, 3⟩) := by cbv
  exact ⟨by decide, found, parsed, sessions_confined _ _ _ 0x7C00 (by decide) found parsed⟩

end Settings

end CommandLine

end LinearSweep
