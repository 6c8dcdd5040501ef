import LinearSweep.Proofs.BranchText
import LinearSweep.Proofs.TextView

/-! # Calls name the functions they go to

A function is named after the address where its session starts, and a call is stated by the name of
the function at its target. The two addresses are computed apart, and each is wrapped into the
32-bit space, so a call and a function have one name exactly if the call goes where the function
begins.

* **`Instruction.statement?_of_isCall`**: the statement of a decoded call calls the function that
  begins at its target.
* **`Address.ofOffset_eq_ofOffset_iff`**: two offsets have one address exactly if base plus offset
  is the same modulo 2^32.
* **`Session.run_links_calls`** puts both together. -/

namespace LinearSweep

open Text

variable {base base' : Address} {image : Image} {offset : Fin image.size} {i : Instruction}
  {stated : Option String} {decoder : Decoder} {s : Session} {l : Listing}

/-! ### Statements of calls -/

/-- **A call is stated by the name of the function at its target**, `functionName target ++ "();"`.
-/
theorem Instruction.StatedAs.eq_of_isCall (form : i.StatedAs stated) (calls : i.isCall) :
    ∃ target, i.target = some target ∧ stated = some (functionName target ++ "();") := by
  obtain ⟨target, s, goes, eq, labelled⟩ := form.exists_labelledBy (Or.inr calls)
  have mnemonic : i.mnemonic = "call" := of_decide_eq_true calls
  refine ⟨target, goes, eq.trans (congrArg some ?_)⟩
  -- a jump has another mnemonic
  cases labelled with
  | call => rfl
  | jump jumps => rw [mnemonic] at jumps; exact absurd jumps (by decide)
  | conditional jumps => rw [mnemonic] at jumps; exact absurd jumps (by decide)

/-- **The statement of a decoded call** calls the function that begins at its target, which
`i.target` has. -/
theorem Instruction.statement?_of_isCall (h : decode image offset base = .recognized i)
    (calls : i.isCall) :
    ∃ target, i.target = some target ∧ i.statement? = some (functionName target ++ "();") :=
  (statedAs_of_decode h).eq_of_isCall calls

/-- Functions have one name exactly if they begin at one address: `functionName` is injective. -/
theorem functionName_inj {first second : Address} :
    functionName first = functionName second ↔ first = second :=
  ⟨functionName_injective, congrArg functionName⟩

/-- What is written behind the names does not matter: the names with `tail` behind them are the same
only if the addresses are. -/
theorem functionName_append_inj {first second : Address} (tail : String) :
    functionName first ++ tail = functionName second ++ tail ↔ first = second := by
  rw [← functionName_inj, ← String.toList_inj, ← String.toList_inj, String.toList_append,
    String.toList_append, List.append_cancel_right_eq]

/-! ### Names of functions -/

/-- **Two offsets have one address** exactly if base plus offset is the same modulo `2 ^ 32`; the
sum in `UInt64` wraps at a multiple of that. -/
theorem Address.ofOffset_eq_ofOffset_iff (offset offset' : Nat) :
    ofOffset base offset = ofOffset base' offset' ↔
      (base.toNat + offset) % 2 ^ 32 = (base'.toNat + offset') % 2 ^ 32 := by
  rw [← UInt64.toNat_inj, toNat_ofOffset, toNat_ofOffset]
  exact Iff.rfl

/-- The function of a session is named after `s.startAddress`, whatever the decoder does. -/
theorem Session.name_of_run (ran : s.run decoder image = .ok l) :
    l.pseudoCode.name = functionName s.startAddress := by
  rw [← startAddress_of_run ran]
  rfl

/-- **Calls and functions are linked by name.** Whatever image and base a call was decoded with, and
whatever session has a listing, the call is stated by the name of the function of the session
exactly if it goes to the start of the session. Two sessions give their functions one name exactly
if base plus start is the same modulo 2^32. -/
theorem Session.run_links_calls :
    (∀ (image : Image) (offset : Fin image.size) (base : Address) (i : Instruction),
      decode image offset base = .recognized i → i.isCall →
      ∀ (s : Session) (decoder : Decoder) (other : Image) (l : Listing),
        s.run decoder other = .ok l →
        l.startAddress = s.startAddress ∧
        (i.statement? = some (l.pseudoCode.name ++ "();") ↔ i.target = some l.startAddress)) ∧
    ∀ (s s' : Session) (decoder decoder' : Decoder) (image image' : Image) (l l' : Listing),
      s.run decoder image = .ok l → s'.run decoder' image' = .ok l' →
      (l.pseudoCode.name = l'.pseudoCode.name ↔
        (s.base.toNat + s.start) % 2 ^ 32 = (s'.base.toNat + s'.start) % 2 ^ 32) := by
  constructor
  · intro image offset base i h calls s decoder other l ran
    obtain ⟨target, goes, stated⟩ := i.statement?_of_isCall h calls
    refine ⟨startAddress_of_run ran, ?_⟩
    calc i.statement? = some (l.pseudoCode.name ++ "();")
        ↔ functionName target ++ "();" = functionName l.startAddress ++ "();" := by
          rw [stated, Option.some_inj]
          exact Iff.rfl
      _ ↔ target = l.startAddress := functionName_append_inj "();"
      _ ↔ i.target = some l.startAddress := by rw [goes, Option.some_inj]
  · intro s s' decoder decoder' image image' l l' ran ran'
    rw [name_of_run ran, name_of_run ran', functionName_inj]
    exact Address.ofOffset_eq_ofOffset_iff s.start s'.start

/-- A call back over the top of the address space. It goes to the start of a session whose base lies
near `2 ^ 64`, and not to the start of the session in which it stands. -/
theorem Session.run_links_calls_wrapping :
    ∃ i l m, decode #[0x90, 0xE8, 0xFB, 0xFF] ⟨1, by decide⟩ 0xFFFFFFFF = .recognized i ∧
      i.isCall ∧
      run ⟨3, 0xFFFFFFFFFFFFFFFB, 512⟩ decode #[0x90, 0xE8, 0xFB, 0xFF] = .ok l ∧
      run ⟨0, 0xFFFFFFFF, 512⟩ decode #[0x90, 0xE8, 0xFB, 0xFF] = .ok m ∧
      i.statement? = some (l.pseudoCode.name ++ "();") ∧
      i.statement? ≠ some (m.pseudoCode.name ++ "();") ∧
      l.pseudoCode.name ≠ m.pseudoCode.name := by
  obtain ⟨linked, named⟩ := run_links_calls
  let call := (⟨"call", .nearBranch⟩ : Rule).instruction 0 0xE8 [0xFB, 0xFF]
    (.destination 0xFFFFFFFE)
  have decoded : decode #[0x90, 0xE8, 0xFB, 0xFF] ⟨1, by decide⟩ 0xFFFFFFFF =
      .recognized call := by decide +kernel
  obtain ⟨l, ran⟩ : ∃ l, run ⟨3, 0xFFFFFFFFFFFFFFFB, 512⟩ decode #[0x90, 0xE8, 0xFB, 0xFF] =
      .ok l := exists_run_eq_ok_iff.2 (by decide)
  obtain ⟨m, ran'⟩ : ∃ m, run ⟨0, 0xFFFFFFFF, 512⟩ decode #[0x90, 0xE8, 0xFB, 0xFF] = .ok m :=
    exists_run_eq_ok_iff.2 (by decide)
  obtain ⟨start, states⟩ := linked _ _ _ _ decoded (by decide) _ _ _ _ ran
  obtain ⟨start', states'⟩ := linked _ _ _ _ decoded (by decide) _ _ _ _ ran'
  refine ⟨call, l, m, decoded, by decide, ran, ran', states.2 ?_, mt states'.1 ?_,
    mt (named _ _ _ _ _ _ _ _ ran ran').1 (by decide)⟩
  · rw [start]
    decide
  · rw [start']
    decide

end LinearSweep
