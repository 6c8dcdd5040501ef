import LinearSweep.Proofs.Columns
import LinearSweep.Proofs.Statement
import LinearSweep.Report.PlainText
import LinearSweep.Text.Lines

/-! # The lines of plain text

The plain text of a listing is made of lines, each with a newline at its end. No line is broken by a
newline of its own, so the text is cut into its lines again, and each line of the assembly view
shows one instruction.

* **`titleBox`** are the lines of a title, **`Listing.textLines`** those of a listing.
* **`Listing.plainText_eq`**: the text consists of these lines.
* **`Listing.textLines_of_plainText`**: two texts that are the same have the same lines.
* **`Session.run_assembly_lossless`**: no instruction is lost in the assembly view. -/

namespace LinearSweep

open Text

variable {l l' : Listing} {view : View}

/-! ### Lines -/

/-- **The lines of a title box**, with an empty one below. -/
def titleBox (title : String) (indent : Nat) : List String :=
  let rule := String.ofList (List.replicate bannerWidth '═')
  let inside := alignLeft bannerWidth (String.ofList (List.replicate indent ' ') ++ title)
  ["╔" ++ rule ++ "╗", "║" ++ inside ++ "║", "╚" ++ rule ++ "╝", ""]

/-- The lines above the assembly view, with its title. -/
def assemblyTitle : List String := titleBox "ASSEMBLY VIEW" 20

/-- The lines above the pseudo-code view. -/
def pseudoCodeTitle : List String := titleBox "PSEUDO-CODE VIEW" 19

/-- **The lines of a listing** in plain text. For `.both`, an empty line stands between the two
views. -/
def Listing.textLines (view : View) (l : Listing) : List String :=
  match view with
  | .assembly => assemblyTitle ++ l.assembly
  | .pseudoCode => pseudoCodeTitle ++ l.pseudoCode.lines
  | .both => assemblyTitle ++ l.assembly ++ "" :: (pseudoCodeTitle ++ l.pseudoCode.lines)

/-- A title box consists of its lines: `banner` is `titleBox` with the newlines. -/
theorem banner_eq (title : String) (indent : Nat) :
    banner title indent = String.join ((titleBox title indent).map (· ++ "\n")) := by
  have ends : "╗\n║" = "╗" ++ ("\n" ++ "║") := rfl
  have ends' : "║\n╚" = "║" ++ ("\n" ++ "╚") := rfl
  have ends'' : "╝\n\n" = "╝" ++ ("\n" ++ "\n") := rfl
  simp only [banner, titleBox, List.map_cons, List.map_nil, String.join_cons, String.join_nil,
    ends, ends', ends'', String.append_assoc, String.append_empty, String.empty_append]

/-- **The text of a listing consists of its lines**, each with a newline at its end. -/
theorem Listing.plainText_eq (view : View) (l : Listing) :
    l.plainText view = String.join ((l.textLines view).map (· ++ "\n")) := by
  cases view with
  | assembly =>
    rw [plainText, assemblyText, banner_eq, textLines, List.map_append, String.join_append]
    rfl
  | pseudoCode =>
    rw [plainText, pseudoCodeText, banner_eq, textLines, List.map_append, String.join_append]
    rfl
  | both =>
    rw [plainText, assemblyText, pseudoCodeText, banner_eq, banner_eq, textLines, List.map_append,
      List.map_append, String.join_append, String.join_append, List.map_cons, String.join_cons,
      List.map_append, String.join_append, String.empty_append, String.append_assoc]
    rfl

/-! ### Cutting a text into lines -/

/-- A title that is not broken has a box whose lines are not. -/
theorem newline_not_mem_titleBox {title : String} (unbroken : '\n' ∉ title.toList) (indent : Nat) :
    ∀ line ∈ titleBox title indent, '\n' ∉ line.toList := by
  -- the box is drawn with characters of its own, none of which is a newline
  have filling (n : Nat) {c : Char} (other : '\n' ≠ c) : '\n' ∉ List.replicate n c := fun mem =>
    other (List.eq_of_mem_replicate mem)
  intro line mem
  simp only [titleBox, List.mem_cons, List.not_mem_nil, or_false] at mem
  rcases mem with rfl | rfl | rfl | rfl
  · simp [filling]
  · simp [filling, unbroken]
  · simp [filling]
  · decide

/-- The name of a function ends with the digits of its address, behind `function_`. -/
theorem toList_functionName (start : Address) :
    (functionName start).toList = "function_".toList ++ Hex.digits .upper start.toNat := by
  rw [functionName, Hex.upper, String.toList_append]
  exact congrArg _ String.toList_ofList

/-- Functions of different addresses have different names, since the digits have one value. -/
theorem functionName_injective {first second : Address}
    (eq : functionName first = functionName second) : first = second := by
  rw [← String.toList_inj, toList_functionName, toList_functionName] at eq
  have value_eq := congrArg Hex.value? (List.append_cancel_left eq)
  rw [Hex.value?_digits, Hex.value?_digits] at value_eq
  exact UInt64.toNat_inj.1 (Option.some.inj value_eq)

/-- There is no line break in the name of a function. -/
theorem newline_not_mem_functionName (start : Address) :
    '\n' ∉ (functionName start).toList := by
  rw [toList_functionName, List.mem_append, not_or]
  refine ⟨by decide, fun mem => ?_⟩
  obtain ⟨d, small, eq⟩ := Hex.exists_of_mem_digits .upper mem
  have other : ∀ d < 16, '\n' ≠ Hex.digit .upper d := by decide
  exact other d small eq

/-- If no statement of `code.body` is broken, no line of the function is. -/
theorem PseudoCode.newline_not_mem_lines {code : PseudoCode}
    (unbroken : ∀ s ∈ code.body, '\n' ∉ s.toList) : ∀ line ∈ code.lines, '\n' ∉ line.toList := by
  intro line mem
  rw [lines, List.mem_append, List.mem_cons, List.mem_cons, List.mem_map, List.mem_singleton] at mem
  rcases mem with (rfl | rfl | ⟨s, mem, rfl⟩) | rfl
  · have name := newline_not_mem_functionName code.start
    simp [PseudoCode.name, name]
  · decide
  · have statement := unbroken s mem
    simp [indent, statement]
  · decide

/-- **The statement of a decoded instruction is a line**, in the sense of `IsLine`. -/
theorem Instruction.IsDecoded.isLine_statement? {i : Instruction} {s : String}
    (decoded : i.IsDecoded) (stated : i.statement? = some s) : IsLine s := by
  obtain ⟨image, offset, base, h⟩ := decoded
  exact (Instruction.isLine_statement? h stated).1

namespace Listing

/-- There is no line break in the pseudo-code of decoded instructions. -/
theorem newline_not_mem_pseudoCode (decoded : ∀ i ∈ l.instructions, i.IsDecoded) :
    ∀ line ∈ l.pseudoCode.lines, '\n' ∉ line.toList := by
  refine PseudoCode.newline_not_mem_lines fun s mem => ?_
  obtain ⟨i, listed, stated⟩ := List.mem_filterMap.1 mem
  exact ((decoded i listed).isLine_statement? stated).unbroken

/-- There is no line break in the lines of decoded instructions, which are in columns. -/
theorem newline_not_mem_assembly (decoded : ∀ i ∈ l.instructions, i.IsDecoded) :
    ∀ line ∈ l.assembly, '\n' ∉ line.toList := by
  rw [assembly, List.forall_mem_map]
  exact fun i listed => (decoded i listed).inColumns.unbroken

/-- **The text of a listing is cut into its lines again** at the newlines; behind the last one
nothing is left. -/
theorem splitOn_plainText (decoded : ∀ i ∈ l.instructions, i.IsDecoded) (view : View) :
    (l.plainText view).toList.splitOn '\n' = (l.textLines view).map String.toList ++ [[]] := by
  have title : ∀ line ∈ assemblyTitle, '\n' ∉ line.toList :=
    newline_not_mem_titleBox (by decide) 20
  have title' : ∀ line ∈ pseudoCodeTitle, '\n' ∉ line.toList :=
    newline_not_mem_titleBox (by decide) 19
  have assembly := newline_not_mem_assembly decoded
  have pseudoCode := newline_not_mem_pseudoCode decoded
  rw [plainText_eq]
  refine splitOn_join ?_
  cases view with
  | assembly => exact List.forall_mem_append.2 ⟨title, assembly⟩
  | pseudoCode => exact List.forall_mem_append.2 ⟨title', pseudoCode⟩
  | both =>
    have below := List.forall_mem_append.2 ⟨title', pseudoCode⟩
    exact List.forall_mem_append.2 ⟨List.forall_mem_append.2 ⟨title, assembly⟩,
      List.forall_mem_cons.2 ⟨by decide, below⟩⟩

/-- **Texts that are the same have the same lines**, if all instructions of both listings were
decoded. -/
theorem textLines_of_plainText (decoded : ∀ i ∈ l.instructions, i.IsDecoded)
    (decoded' : ∀ i ∈ l'.instructions, i.IsDecoded) (eq : l.plainText view = l'.plainText view) :
    l.textLines view = l'.textLines view := by
  have split := splitOn_plainText decoded view
  rw [eq, splitOn_plainText decoded' view] at split
  have lines_eq := List.append_cancel_right split
  exact ((List.map_inj_right fun _ _ => String.toList_injective).1 lines_eq).symm

end Listing

/-! ### What the lines say -/

/-- **The lines of some decoded instructions are those of no others**: `line` is injective along the
lists. -/
theorem Instruction.eq_of_map_line : ∀ {first second : List Instruction},
    (∀ i ∈ first, i.IsDecoded) → (∀ i ∈ second, i.IsDecoded) →
      first.map line = second.map line → first = second
  | [], [], _, _, _ => rfl
  | i :: first, j :: second, decoded, decoded', eq => by
    rw [List.forall_mem_cons] at decoded decoded'
    obtain ⟨line_eq, behind_eq⟩ := List.cons.inj eq
    -- one line in columns holds one instruction
    have shown := decoded'.1.inColumns
    rw [← line_eq] at shown
    rw [decoded.1.eq_of_inColumns decoded'.1 decoded.1.inColumns shown,
      eq_of_map_line decoded.2 decoded'.2 behind_eq]

namespace Listing

/-- The line of a decoded instruction is not empty: it begins with `0x`. -/
theorem empty_not_mem_assembly (decoded : ∀ i ∈ l.instructions, i.IsDecoded) :
    "" ∉ l.assembly := by
  intro mem
  obtain ⟨i, listed, empty⟩ := List.mem_map.1 mem
  obtain ⟨digits, raw, mnemonic, fields⟩ := (decoded i listed).inColumns.fields
  have line_eq := fields.line_eq
  rw [empty] at line_eq
  simp at line_eq

/-- **The lines of both views are told apart** by the empty line between them. -/
theorem lines_of_textLines_both (decoded : ∀ i ∈ l.instructions, i.IsDecoded)
    (decoded' : ∀ i ∈ l'.instructions, i.IsDecoded) (eq : l.textLines .both = l'.textLines .both) :
    l.assembly = l'.assembly ∧ l.pseudoCode.lines = l'.pseudoCode.lines := by
  rw [textLines, textLines, List.append_assoc, List.append_assoc] at eq
  -- no line of the assembly view is empty, so the first empty line is the one between the views
  have split := congrArg (List.splitOn "") (List.append_cancel_left eq)
  rw [List.splitOn_append_cons_self_of_not_mem (empty_not_mem_assembly decoded),
    List.splitOn_append_cons_self_of_not_mem (empty_not_mem_assembly decoded')] at split
  have assembly_eq := List.head_eq_of_cons_eq split
  rw [assembly_eq] at eq
  have below := List.append_cancel_left (List.append_cancel_left eq)
  exact ⟨assembly_eq, List.append_cancel_left (List.tail_eq_of_cons_eq below)⟩

/-- **The first line of the pseudo-code tells the start address** by the name of the function. -/
theorem startAddress_of_lines (eq : l.pseudoCode.lines = l'.pseudoCode.lines) :
    l.startAddress = l'.startAddress := by
  have head_eq : "void " ++ functionName l.startAddress ++ "() \x7b" =
      "void " ++ functionName l'.startAddress ++ "() \x7b" := List.head_eq_of_cons_eq eq
  -- what stands around the two names is the same
  rw [String.append_left_inj, String.append_right_inj] at head_eq
  exact functionName_injective head_eq

end Listing

/-- **The assembly view loses nothing.** Every session that starts in the image has a listing, each
line of whose assembly view holds its instruction in fixed columns. Sessions that give the same
text in the assembly view have listed the same instructions, and if both views are the same they
have started at the same address too. -/
theorem Session.run_assembly_lossless :
    (∀ (s : Session) (image : Image), image.size < 2 ^ 64 → s.start ≤ image.size →
      ∃ l, s.run decode image = .ok l ∧
        List.Forall₂ (fun i line => i.InColumns line.toList) l.instructions l.assembly) ∧
    ∀ (s s' : Session) (image image' : Image) (l l' : Listing),
      image.size < 2 ^ 64 → image'.size < 2 ^ 64 →
      s.run decode image = .ok l → s'.run decode image' = .ok l' →
        (l.plainText .assembly = l'.plainText .assembly → l.instructions = l'.instructions) ∧
        (l.plainText .both = l'.plainText .both →
          l.instructions = l'.instructions ∧ l.startAddress = l'.startAddress) := by
  constructor
  · intro s image short h
    obtain ⟨l, ran⟩ := exists_run_eq_ok_iff.2 h
    refine ⟨l, ran, ?_⟩
    rw [Listing.assembly, List.forall₂_map_right_iff]
    exact List.forall₂_same.2 fun i listed => (isDecoded_of_run short ran i listed).inColumns
  · intro s s' image image' l l' short short' ran ran'
    have decoded := isDecoded_of_run short ran
    have decoded' := isDecoded_of_run short' ran'
    constructor
    · intro eq
      have lines_eq := Listing.textLines_of_plainText decoded decoded' eq
      exact Instruction.eq_of_map_line decoded decoded' (List.append_cancel_left lines_eq)
    · intro eq
      have lines_eq := Listing.textLines_of_plainText decoded decoded' eq
      obtain ⟨assembly_eq, code_eq⟩ := Listing.lines_of_textLines_both decoded decoded' lines_eq
      exact ⟨Instruction.eq_of_map_line decoded decoded' assembly_eq,
        Listing.startAddress_of_lines code_eq⟩

/-- Two sessions that list the jump back over the top of the address space. They have different
offsets and bases, and one of them skips a byte behind the jump. -/
theorem Session.run_assembly_lossless_backward :
    ∃ l l', Session.run ⟨1, 0xFFFFFFFE, 512⟩ decode #[0x90, 0x74, 0xFD] = .ok l ∧
      Session.run ⟨0, 0xFFFFFFFFFFFFFFFF, 512⟩ decode #[0x74, 0xFD, 0xE8] = .ok l' ∧
      l.assembly = ["0xFFFFFFFF  74 FD              jz       0xFFFFFFFE"] ∧
      List.Forall₂ (fun i line => i.InColumns line.toList) l.instructions l.assembly ∧
      l.skipped ≠ l'.skipped ∧ l.plainText .both = l'.plainText .both ∧
      l.instructions = l'.instructions ∧ l.startAddress = l'.startAddress := by
  let l : Listing := ⟨1, 0xFFFFFFFE, [.recognized .backward], 3⟩
  let l' : Listing := ⟨0, 0xFFFFFFFFFFFFFFFF, [.recognized .backward, .skipped 1 0xE8], 3⟩
  have ran : Session.run ⟨1, 0xFFFFFFFE, 512⟩ decode #[0x90, 0x74, 0xFD] = .ok l := by
    decide +kernel
  have ran' : Session.run ⟨0, 0xFFFFFFFFFFFFFFFF, 512⟩ decode #[0x74, 0xFD, 0xE8] = .ok l' := by
    decide +kernel
  have text_eq : l.plainText .both = l'.plainText .both := by
    have code_eq : l.pseudoCode = l'.pseudoCode := by decide +kernel
    rw [Listing.plainText, Listing.pseudoCodeText, code_eq]
    rfl
  obtain ⟨listed, determined⟩ := run_assembly_lossless
  obtain ⟨other, again, shown⟩ :=
    listed ⟨1, 0xFFFFFFFE, 512⟩ #[0x90, 0x74, 0xFD] (by decide) (by decide)
  -- both listings are those of one session
  obtain rfl : l = other := Except.ok.inj (ran.symm.trans again)
  obtain ⟨-, whole⟩ := determined _ _ _ _ l l' (by decide) (by decide) ran ran'
  obtain ⟨instructions_eq, start_eq⟩ := whole text_eq
  exact ⟨l, l', ran, ran', by decide +kernel, shown, by decide, text_eq, instructions_eq, start_eq⟩

end LinearSweep
