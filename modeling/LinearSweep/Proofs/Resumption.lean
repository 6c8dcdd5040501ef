import LinearSweep.Proofs.Swept

/-! # Splitting and resuming a session

A session that stops early can be taken up again where it stopped: the two listings in a row are
the one that a single session would have given. What matters is the limit of a session, and the
offsets where its entries begin.

* **`Session.limit_mono`**: a larger ceiling has a larger limit.
* **`Session.limit_of_resumed`**: the rest of a session has the limit of the whole. -/

namespace LinearSweep.Session

variable {image : Image} {base : Address} {start stop ceiling less : Nat}

/-- A larger ceiling has a larger limit, or the same if it is cut. -/
theorem limit_mono (le : less ≤ ceiling) :
    limit ⟨start, base, less⟩ image ≤ limit ⟨start, base, ceiling⟩ image := by
  simp only [limit, Offset.add]
  omega

/-- **The rest of a session has the limit of the whole**, if its ceiling is what the whole has left,
`limit - stop`. -/
theorem limit_of_resumed
    (le : stop ≤ limit ⟨start, base, ceiling⟩ image) :
    limit ⟨stop, base, limit ⟨start, base, ceiling⟩ image - stop⟩ image =
      limit ⟨start, base, ceiling⟩ image := by
  simp only [limit, Offset.add] at le ⊢
  omega

/-- **Sessions can be split, resumed and joined.** What a small ceiling leaves over is what a
session gives that starts where the small one stopped, and sessions with one limit have the same
entries behind any boundary that they share. -/
theorem run_resumes (decoder : Decoder) (image : Image) (short : image.size < 2 ^ 64) :
    (∀ (base : Address) (start less ceiling : Nat), start ≤ image.size → less ≤ ceiling →
      let limit := min (min (start + ceiling) (2 ^ 64 - 1)) image.size
      ∃ head whole rest,
        run ⟨start, base, less⟩ decoder image = .ok head ∧
        run ⟨start, base, ceiling⟩ decoder image = .ok whole ∧
        head.stop ≤ limit ∧
        run ⟨head.stop, base, limit - head.stop⟩ decoder image = .ok rest ∧
        whole.entries = head.entries ++ rest.entries ∧
        whole.stop = rest.stop ∧
        whole.pseudoCode.body = head.pseudoCode.body ++ rest.pseudoCode.body ∧
        head.entries <+: whole.entries) ∧
    (∀ s t : Session, s.start ≤ image.size → t.start ≤ image.size → s.base = t.base →
      min (min (s.start + s.ceiling) (2 ^ 64 - 1)) image.size =
        min (min (t.start + t.ceiling) (2 ^ 64 - 1)) image.size →
      ∃ l m, s.run decoder image = .ok l ∧ t.run decoder image = .ok m ∧
        ∀ i j, l.offset i = m.offset j →
          l.entries.drop i = m.entries.drop j ∧ l.stop = m.stop) := by
  constructor
  · intro base start less ceiling h le
    obtain ⟨head, ranHead, _, _, sweptHead⟩ :=
      exists_swept (s := ⟨start, base, less⟩) decoder short h
    obtain ⟨whole, ranWhole, _, _, sweptWhole⟩ :=
      exists_swept (s := ⟨start, base, ceiling⟩) decoder short h
    -- the head stops within its own limit, and the whole has a larger one
    have within : head.stop ≤ limit ⟨start, base, ceiling⟩ image :=
      Nat.le_trans sweptHead.stop_le (limit_mono le)
    obtain ⟨rest, ranRest, _, _, sweptRest⟩ :=
      exists_swept (s := ⟨head.stop, base, limit ⟨start, base, ceiling⟩ image - head.stop⟩)
        decoder short (Nat.le_trans within (limit_le_size ..))
    -- up to the limit of the whole, the head goes on as the rest does
    rw [limit_of_resumed within] at sweptRest
    obtain ⟨entries_eq, stop_eq⟩ := sweptWhole.unique (sweptRest.prepend sweptHead.path)
    refine ⟨head, whole, rest, ranHead, ranWhole, within, ranRest, entries_eq, stop_eq, ?_, ?_⟩
    · rw [Listing.body_pseudoCode, Listing.body_pseudoCode, Listing.body_pseudoCode, entries_eq,
        PseudoCode.statements_append]
    · rw [entries_eq]
      exact List.prefix_append ..
  · intro s t hs ht base_eq limit_eq
    replace limit_eq : s.limit image = t.limit image := limit_eq
    -- both sessions are swept behind the boundary, and there is one way to be so
    obtain ⟨l, ranS, sStart, _, sweptS⟩ := exists_swept decoder short hs
    obtain ⟨m, ranT, tStart, _, sweptT⟩ := exists_swept decoder short ht
    refine ⟨l, m, ranS, ranT, ?_⟩
    intro i j boundary
    rw [Listing.offset, Listing.offset, sStart, tStart] at boundary
    have behindS := sweptS.drop i
    rw [base_eq, limit_eq, boundary] at behindS
    exact behindS.unique (sweptT.drop j)

/-- A ceiling of `2` stops the strides from offset 1 in front of offset 2; with a ceiling of `4`
they go on to offset 5, and from offset 2 they are those of a session that begins there. -/
theorem run_resumes_striding :
    (#[7, 7, 7, 7, 7, 7, 7] : Image).size < 2 ^ 64 ∧
    (∃ head whole rest,
      run ⟨1, 9, 2⟩ Decoder.striding #[7, 7, 7, 7, 7, 7, 7] = .ok head ∧
      run ⟨1, 9, 4⟩ Decoder.striding #[7, 7, 7, 7, 7, 7, 7] = .ok whole ∧
      head.stop ≤ 5 ∧
      run ⟨head.stop, 9, 5 - head.stop⟩ Decoder.striding #[7, 7, 7, 7, 7, 7, 7] = .ok rest ∧
      whole.entries = head.entries ++ rest.entries ∧
      whole.stop = rest.stop ∧
      whole.pseudoCode.body = head.pseudoCode.body ++ rest.pseudoCode.body ∧
      head.entries <+: whole.entries) ∧
    ∃ l m, run ⟨1, 9, 4⟩ Decoder.striding #[7, 7, 7, 7, 7, 7, 7] = .ok l ∧
      run ⟨2, 9, 3⟩ Decoder.striding #[7, 7, 7, 7, 7, 7, 7] = .ok m ∧
      l.offset 1 = m.offset 0 ∧ l.entries.drop 1 = m.entries.drop 0 ∧ l.stop = m.stop := by
  obtain ⟨split, agree⟩ := run_resumes Decoder.striding #[7, 7, 7, 7, 7, 7, 7] (by decide)
  refine ⟨by decide, split 9 1 2 4 (by decide) (by decide), ?_⟩
  obtain ⟨l, m, ranL, ranM, behind⟩ :=
    agree ⟨1, 9, 4⟩ ⟨2, 9, 3⟩ (by decide) (by decide) rfl (by decide)
  have second : (run ⟨1, 9, 4⟩ Decoder.striding #[7, 7, 7, 7, 7, 7, 7]).map (·.offset 1) =
      (run ⟨2, 9, 3⟩ Decoder.striding #[7, 7, 7, 7, 7, 7, 7]).map (·.offset 0) := by cbv
  rw [ranL, ranM] at second
  have boundary : l.offset 1 = m.offset 0 := Except.ok.inj second
  exact ⟨l, m, ranL, ranM, boundary, behind 1 0 boundary⟩

end LinearSweep.Session
