import LinearSweep.Entry

/-! # Flat pseudo-code

Each instruction becomes at most one statement. Jumps stay jumps and nothing is nested: the
statements stand one level deep in a single function, which is named after the address where it
begins.

* **`Instruction.statement?`** is the statement of an instruction.
* **`PseudoCode`** is a function with its statements, **`PseudoCode.ofEntries`** the one of a
  sequence of entries.
* **`PseudoCode.lines`** and **`PseudoCode.text`** write it out. -/

namespace LinearSweep

open Text

/-! ### Statements -/

/-- **The first `, ` of a text becomes ` = `.** -/
def assignment : List Char → List Char
  | [] => []
  | ',' :: ' ' :: rest => ' ' :: '=' :: ' ' :: rest
  | c :: rest => c :: assignment rest

/-- The name of the function that begins at an address: `function_` with the digits of the address.
-/
def functionName (start : Address) : String := "function_" ++ Hex.upper start.toNat

/-- **The label of a target**: its digits, or nothing where there is no target. -/
def targetLabel (target : Option Address) : String :=
  (target.map fun t => Hex.upper t.toNat).getD ""

/-- **The statement of an instruction**; `push`, `pop` and `nop` have none. What has no form of its
own passes through as a comment behind `//`. -/
def Instruction.statement? (i : Instruction) : Option String :=
  match i.mnemonic with
  | "push" | "pop" | "nop" => none
  | "mov" => some (String.ofList (assignment i.operands.toList) ++ ";")
  | "call" => some ("function_" ++ targetLabel i.target ++ "();")
  | "jmp" => some ("goto loc_" ++ targetLabel i.target ++ ";")
  | "jz" | "jnz" | "jl" | "jle" | "jg" | "jge" =>
    some ("if (condition_" ++ i.mnemonic ++ ") goto loc_" ++ targetLabel i.target ++ ";")
  | "ret" => some "return;"
  | "int" => some ("interrupt(" ++ i.operands ++ ");")
  | "cli" => some "disable_interrupts();"
  | "sti" => some "enable_interrupts();"
  | "hlt" => some "halt();"
  | other => some ("// " ++ other ++ " " ++ i.operands)

/-! ### Functions -/

/-- **One function of pseudo-code.** -/
structure PseudoCode where
  /-- The address that the function is named after. -/
  start : Address
  /-- The statements in the order of the instructions, not indented. -/
  body : List String
deriving DecidableEq, Repr

namespace PseudoCode

/-- **The statements of the instructions** among some entries, without those for which
`Instruction.statement?` is `none`; skipped bytes have none. -/
def statements (entries : List Entry) : List String :=
  (entries.filterMap Entry.instruction?).filterMap Instruction.statement?

/-- The statements of `first ++ second` are those of `first` and behind them those of `second`. -/
@[simp] theorem statements_append (first second : List Entry) :
    statements (first ++ second) = statements first ++ statements second := by
  simp [statements]

/-- **The function of a sequence of entries**, named after `start`. -/
def ofEntries (start : Address) (entries : List Entry) : PseudoCode :=
  ⟨start, statements entries⟩

/-- The name of the function, `functionName code.start`. -/
def name (code : PseudoCode) : String := functionName code.start

/-- The spaces in front of a statement, one level deep in `lines`. -/
def indent : String := "    "

/-- **The lines of the function**: its head, an empty line, the indented statements, and the
closing brace. -/
def lines (code : PseudoCode) : List String :=
  ("void " ++ code.name ++ "() \x7b") :: "" :: code.body.map (indent ++ ·) ++ ["\x7d"]

/-- **The text of the function**: its lines, each with a newline at its end. -/
def text (code : PseudoCode) : String := String.join (code.lines.map (· ++ "\n"))

end PseudoCode

end LinearSweep
