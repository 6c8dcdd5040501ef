import LinearSweep.Proofs.JsonReport
import LinearSweep.Proofs.TextView

/-! # Pseudo-code is flat and complete

The body of a function holds the statements of its instructions, one for each that is stated, in the
order of the image. A statement is one line, so nothing in the body can be taken for the head of the
function or for its end, and every report shows the same lines.

* **`Decoder.Path.exists_ascending`**: instructions come in the order of the image.
* **`forall₂_statements`**: each instruction that is stated has one statement in the body.
* **`Listing.StatedFlat`** says what the pseudo-code of a listing is, and
  **`Session.run_states_flat`** that the listing of every session has it. -/

namespace LinearSweep

open Text

variable {image : Image} {base : Address} {start stop : Nat} {entries : List Entry}
  {i : Instruction} {l : Listing}

/-! ### The order of the instructions -/

/-- **The instructions on a path come in the order of the image**, each decoded at an offset that
lies behind those before it: `offsets` is strictly ascending. -/
theorem Decoder.Path.exists_ascending
    (path : Decoder.Path decode image base start entries stop) :
    ∃ offsets : List (Fin image.size), offsets.Pairwise (· < ·) ∧
      (∀ offset ∈ offsets, start ≤ offset) ∧
      List.Forall₂ (fun offset i => decode image offset base = .recognized i) offsets
        (entries.filterMap Entry.instruction?) := by
  induction path with
  | nil => exact ⟨[], .nil, List.forall_mem_nil _, .nil⟩
  | @cons offset _ _ h rest ih =>
    -- the entry at the start lies in front of all that was decoded from its end on
    obtain ⟨offsets, ascending, behind, decoded⟩ := ih
    have forward := decode.size_next_pos image base ⟨offset, h⟩
    have later : ∀ other ∈ offsets, offset < other := fun other mem =>
      Nat.lt_of_lt_of_le (Nat.lt_add_of_pos_right forward) (behind other mem)
    cases eq : decode.next image base ⟨offset, h⟩ with
    | recognized i =>
      rw [next_decode] at eq
      refine ⟨⟨offset, h⟩ :: offsets, ascending.cons later, ?_, .cons eq decoded⟩
      exact List.forall_mem_cons.2 ⟨Nat.le_refl _, fun other mem => Nat.le_of_lt (later other mem)⟩
    | skipped =>
      -- a skipped byte adds no instruction, and what lies behind it lies behind the start, too
      exact ⟨offsets, ascending, fun other mem => Nat.le_of_lt (later other mem), decoded⟩

/-! ### The statements of the body -/

/-- Whether an instruction is stated: it does not just move data on the stack or do nothing, as
`push`, `pop` and `nop` do. -/
def Instruction.isStated (i : Instruction) : Bool := i.mnemonic ∉ ["push", "pop", "nop"]

/-- Only `push`, `pop` and `nop` are not stated. -/
theorem Instruction.isStated_eq_false_iff :
    i.isStated = false ↔ i.mnemonic = "push" ∨ i.mnemonic = "pop" ∨ i.mnemonic = "nop" := by
  simp only [isStated, decide_eq_false_iff_not, not_not, List.mem_cons, List.not_mem_nil, or_false]

/-- The instructions of a listing that are stated, in order. -/
def Listing.stated (l : Listing) : List Instruction := l.instructions.filter Instruction.isStated

/-- **A statement stands for an instruction**: in the form of its mnemonic, and in one line. -/
structure Instruction.States (i : Instruction) (s : String) : Prop where
  /-- It is the statement of the instruction, `i.statement?`. -/
  statement_eq : i.statement? = some s
  /-- It has the form of the mnemonic, one of those of `StatedAs`. -/
  form : i.StatedAs (some s)
  /-- It is a line that does not begin with a space. -/
  line : IsLine s

/-- **A decoded instruction that is stated has a statement**, and the others have none: `isStated`
goes by the mnemonic, `statement?` by the code. -/
theorem Instruction.IsDecoded.statement?_cases (decoded : i.IsDecoded) :
    i.isStated = false ∧ i.statement? = none ∨
      ∃ s, i.isStated = true ∧ i.statement? = some s ∧ i.States s := by
  have form : i.StatedAs i.statement? := by
    obtain ⟨image, offset, base, h⟩ := decoded
    exact statedAs_of_decode h
  -- both sides of this go by the mnemonic
  have suppressed := form.eq_none_iff.trans isStated_eq_false_iff.symm
  cases stated : i.statement? with
  | none => exact Or.inl ⟨suppressed.1 stated, rfl⟩
  | some s =>
    have stands : i.isStated = true := by
      rw [← Bool.not_eq_false, ← suppressed, stated]
      exact Option.some_ne_none s
    rw [stated] at form
    exact Or.inr ⟨s, stands, rfl, stated, form, decoded.isLine_statement? stated⟩

/-- **The instructions that are stated have one statement each**, in the same order, which
`List.Forall₂` says. -/
theorem forall₂_statements : ∀ {instructions : List Instruction},
    (∀ i ∈ instructions, i.IsDecoded) →
      List.Forall₂ Instruction.States (instructions.filter Instruction.isStated)
        (instructions.filterMap Instruction.statement?)
  | [], _ => .nil
  | i :: instructions, decoded => by
    rw [List.forall_mem_cons] at decoded
    have behind := forall₂_statements decoded.2
    rcases decoded.1.statement?_cases with ⟨suppressed, none⟩ | ⟨s, stated, eq, states⟩
    · rw [List.filter_cons_of_neg (Bool.eq_false_iff.1 suppressed), List.filterMap_cons_none none]
      exact behind
    · rw [List.filter_cons_of_pos stated, List.filterMap_cons_some eq]
      exact .cons states behind

/-! ### The pseudo-code of a listing -/

/-- **The pseudo-code of a listing is flat and complete**, and all reports that show it show the
same lines. -/
structure Listing.StatedFlat (l : Listing) (image : Image) : Prop where
  /-- The instructions come in the order of the image. -/
  ordered : ∃ offsets : List (Fin image.size), offsets.Pairwise (· < ·) ∧
    List.Forall₂ (fun offset i => decode image offset l.base = .recognized i) offsets
      l.instructions
  /-- The body holds one statement for each instruction that is stated. -/
  body : List.Forall₂ Instruction.States l.stated l.pseudoCode.body
  /-- The body stands four spaces deep between the head and the closing brace. -/
  lines_eq : l.pseudoCode.lines =
    ("void function_" ++ String.ofList ((Nat.toDigits 16 l.startAddress.toNat).map Char.toUpper) ++
      "() \x7b") :: "" :: l.pseudoCode.body.map ("    " ++ ·) ++ ["\x7d"]
  /-- There are `3` lines besides the statements. -/
  length_eq : l.pseudoCode.lines.length = l.stated.length + 3
  /-- The text is cut into these lines by its newlines, with one at its end. -/
  split_eq : l.pseudoCode.text.toList.splitOn '\n' = l.pseudoCode.lines.map String.toList ++ [[]]
  /-- The JSON document, read back, has the same lines under `"pseudo_code"`. -/
  json_eq : ∃ document, Json.reader.read l.jsonText = some document ∧
    document.field? "pseudo_code" = some (.array (l.pseudoCode.lines.map Json.Value.string))
  /-- The plain text has the same lines below a title, alone or below the other view. -/
  plain_eq : ∀ view ∈ [View.pseudoCode, View.both], ∃ above,
    (l.plainText view).toList.splitOn '\n' =
      (above ++ pseudoCodeTitle ++ l.pseudoCode.lines).map String.toList ++ [[]]

/-- The head of the function, with the digits of `l.startAddress`, and the lines below it. -/
theorem Listing.lines_pseudoCode (l : Listing) :
    l.pseudoCode.lines = ("void function_" ++
      String.ofList ((Nat.toDigits 16 l.startAddress.toNat).map Char.toUpper) ++ "() \x7b") ::
        "" :: l.pseudoCode.body.map ("    " ++ ·) ++ ["\x7d"] := by
  have front : "void function_" = "void " ++ "function_" := rfl
  rw [Hex.map_toUpper_toDigits, front, String.append_assoc]
  rfl

/-- **A listing of decoded instructions is stated flat**, if its entries are a path of `decode`. -/
theorem Listing.statedFlat
    (path : Decoder.Path decode image l.base l.start l.entries l.stop) : l.StatedFlat image := by
  have decoded : ∀ i ∈ l.instructions, i.IsDecoded := by
    intro i mem
    obtain ⟨offset, h⟩ := path.exists_decode_eq mem
    exact ⟨image, offset, l.base, h⟩
  have body : List.Forall₂ Instruction.States l.stated l.pseudoCode.body :=
    forall₂_statements decoded
  constructor
  case ordered =>
    obtain ⟨offsets, ascending, -, at_offsets⟩ := path.exists_ascending
    exact ⟨offsets, ascending, at_offsets⟩
  case body => exact body
  case lines_eq => exact l.lines_pseudoCode
  case length_eq =>
    rw [lines_pseudoCode, body.length_eq]
    simp
  case split_eq => exact splitOn_join (newline_not_mem_pseudoCode decoded)
  case json_eq =>
    exact ⟨_, Json.read_write Json.Layout.isBlank_indented l.toJson, l.shownBy_toJson.pseudoCode_eq⟩
  case plain_eq =>
    intro view shown
    -- the other view, if it is shown, stands above the title
    rw [splitOn_plainText decoded view]
    simp only [List.mem_cons, List.not_mem_nil, or_false] at shown
    rcases shown with rfl | rfl
    · exact ⟨[], rfl⟩
    · refine ⟨assemblyTitle ++ l.assembly ++ [""], ?_⟩
      simp only [textLines, List.append_assoc, List.singleton_append]
      rfl

/-- **Pseudo-code stays flat and complete.** Every session that starts in the image has a listing.
Its pseudo-code holds the statements of the instructions in the order of the image, one for each
that is stated and none for a skipped byte. All of them stand four spaces deep on lines of their
own, and these lines are the same in the text, in the JSON document and in the plain text. -/
theorem Session.run_states_flat (s : Session) (image : Image) (short : image.size < 2 ^ 64)
    (h : s.start ≤ image.size) :
    ∃ l, s.run decode image = .ok l ∧ l.base = s.base ∧ l.startAddress = s.startAddress ∧
      l.StatedFlat image := by
  obtain ⟨l, ran, start_eq, base_eq, swept⟩ := exists_swept decode short h
  refine ⟨l, ran, base_eq, startAddress_of_run ran, ?_⟩
  have path := swept.path
  rw [← start_eq, ← base_eq] at path
  exact Listing.statedFlat path

/-- A session over a push, a byte that is skipped, a move, a breakpoint and a jump to the start. Of
the first two no line is left. -/
theorem Session.run_states_flat_breakpoint :
    ∃ l, run ⟨0, 0x7C00, 512⟩ decode #[0x50, 0x06, 0xB0, 0x41, 0xCC, 0x74, 0xF9] = .ok l ∧
      l.StatedFlat #[0x50, 0x06, 0xB0, 0x41, 0xCC, 0x74, 0xF9] ∧
      l.pseudoCode.lines = ["void function_7C00() \x7b", "", "    al = 0x41;", "    // int3 ",
        "    if (condition_jz) goto loc_7C00;", "\x7d"] := by
  have lines_eq : (run ⟨0, 0x7C00, 512⟩ decode #[0x50, 0x06, 0xB0, 0x41, 0xCC, 0x74, 0xF9]).map
      (·.pseudoCode.lines) = .ok ["void function_7C00() \x7b", "", "    al = 0x41;",
        "    // int3 ", "    if (condition_jz) goto loc_7C00;", "\x7d"] := by decide +kernel
  obtain ⟨l, ran, -, -, flat⟩ := run_states_flat ⟨0, 0x7C00, 512⟩
    #[0x50, 0x06, 0xB0, 0x41, 0xCC, 0x74, 0xF9] (by decide) (by decide)
  rw [ran] at lines_eq
  exact ⟨l, ran, flat, Except.ok.inj lines_eq⟩

end LinearSweep
