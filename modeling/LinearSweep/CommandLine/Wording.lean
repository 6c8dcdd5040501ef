import LinearSweep.CommandLine.Arguments

/-! # What the program says about its options

* **`Key.purpose`** is what an option is for, **`Key.shown`** how it stands in messages.
* **`helpText`** is the text of help, short or with more room.
* **`Mistake.message`** is the wording of a mistake, **`Mistake.text`** all that is said about it
  but for hints at names that are alike. -/

namespace LinearSweep.CommandLine

open Text

/-! ### Options -/

namespace Key

/-- **What an option is for.** -/
def purpose : Key → String
  | .offset => "Start offset in hex (e.g. 7c or 0x7c). Repeat to decode several sessions"
  | .base => "Address of file offset 0, in hex"
  | .ceiling => "Maximum number of bytes decoded per session"
  | .format => "Output format"
  | .view => "Views shown by the text format"
  | .locateCode =>
    "Treat offsets as relative to the first executable section of an ELF, PE or Mach-O file"
  | .verbose => "Enable verbose (debug-level) logging output"
  | .help => "Print help"
  | .version => "Print version"

/-- What stands for the value of an option, if `key.takesValue`. -/
def valueName? : Key → Option String
  | .offset | .base => some "HEX"
  | .ceiling => some "MAX_BYTES"
  | .format => some "FORMAT"
  | .view => some "VIEW"
  | .locateCode | .verbose | .help | .version => none

/-- **How an option stands in messages**, such as `--base <HEX>`. -/
def shown (key : Key) : String :=
  "--" ++ key.long ++ match key.valueName? with
    | some name => " <" ++ name ++ ">"
    | none => ""

/-- The value of an option that is not given, where help tells it. -/
def standard? : Key → Option String
  | .base => some "0"
  | .ceiling => some (toString Session.defaultCeiling)
  | .format => some Format.standard.name
  | .view => some View.standard.name
  | .offset | .locateCode | .verbose | .help | .version => none

/-- The names that may be a value of an option, each with what it is for; any text may be where
there are none. -/
def choices : Key → List (String × String)
  | .format => Format.all.map fun f => (f.name, f.purpose)
  | .view => View.all.map fun v => (v.name, v.purpose)
  | .offset | .base | .ceiling | .locateCode | .verbose | .help | .version => []

/-- The names that may be a value, in one row: `[possible values: text, json, ...]`. -/
def choicesNote (key : Key) : String :=
  "[possible values: " ++ ", ".intercalate (key.choices.map Prod.fst) ++ "]"

/-- The letter of an option with a comma, as in `-o, `, or as much room. -/
def lead (key : Key) : String :=
  match key.short? with
  | some letter => String.ofList ['-', letter, ',', ' ']
  | none => "    "

end Key

/-! ### Help -/

/-- How the program is called. -/
def usageText : String := "Usage: pseudodis [OPTIONS] <FILE>\n"

/-- The name of the program and its version. -/
def versionText : String := "pseudodis 0.1.0\n"

/-- The width of the column of options. -/
def optionWidth : Nat := 25

/-- **The line of short help for an option**, as `-h` shows it. -/
def Key.summary (key : Key) : String :=
  let more := if key = .help then " (see more with '--help')" else ""
  let standard := match key.standard? with
    | some value => " [default: " ++ value ++ "]"
    | none => ""
  let choices := if key.choices.isEmpty then "" else " " ++ key.choicesNote
  "  " ++ key.lead ++ alignLeft optionWidth key.shown ++ key.purpose ++ more ++ standard ++
    choices ++ "\n"

/-- The column of long help. -/
def detailIndent : String := String.ofList (List.replicate 10 ' ')

/-- The line of long help for a name of a value, where names are up to `width` long. -/
def choiceLine (width : Nat) (choice : String × String) : String :=
  detailIndent ++ "- " ++ alignLeft (width + 2) (choice.1 ++ ":") ++ choice.2 ++ "\n"

/-- **The lines of long help for an option**, as `--help` shows them. -/
def Key.details (key : Key) : String :=
  -- the hint refers to the other kind of help, so it is the reverse of that in `summary`
  let more := if key = .help then " (see a summary with '-h')" else ""
  let width := (key.choices.map (·.1.length)).foldl max 0
  let choices :=
    if key.choices.isEmpty then ""
    else "\n" ++ detailIndent ++ "Possible values:\n" ++
      String.join (key.choices.map (choiceLine width))
  let standard := match key.standard? with
    | some value => detailIndent ++ "\n" ++ detailIndent ++ "[default: " ++ value ++ "]\n"
    | none => ""
  "  " ++ key.lead ++ key.shown ++ "\n" ++ detailIndent ++ key.purpose ++ more ++ "\n" ++ choices ++
    standard

/-- **The text of help**, with more room if it is `detailed`. -/
def helpText (detailed : Bool) : String :=
  let file := "Binary file to decode\n"
  "A table-driven 16-bit x86 subset disassembler with a pseudo-code view\n\n" ++ usageText ++
    "\nArguments:\n  <FILE>" ++ (if detailed then "\n" ++ detailIndent else "  ") ++ file ++
    "\nOptions:\n" ++
    if detailed then "\n".intercalate (Key.all.map Key.details)
    else String.join (Key.all.map Key.summary)

/-! ### Mistakes -/

/-- Why a text is no byte ceiling, that is, why `ceiling?` refuses it. -/
def ceilingCause (text : String) : String :=
  if text = "" then "cannot parse integer from empty string"
  else if (Decimal.value? text.toList).isSome then "number too large to fit in target type"
  else "invalid digit found in string"

/-- The wording for an option without its value. -/
def Key.valueMissing (key : Key) : String :=
  "a value is required for '" ++ key.shown ++ "' but none was supplied" ++
    if key.choices.isEmpty then "" else "\n  " ++ key.choicesNote

/-- **The wording of a mistake.** For an option with `choices`, an empty value is taken for none. -/
def Mistake.message : Mistake → String
  | .unknownOption name => "unexpected argument '" ++ name ++ "' found"
  | .missingValue key => key.valueMissing
  | .unexpectedValue key value =>
    "unexpected value '" ++ value ++ "' for '" ++ key.shown ++ "' found; no more were expected"
  | .invalidValue key value =>
    if key.choices.isEmpty then
      "invalid value '" ++ value ++ "' for '" ++ key.shown ++ "': " ++ ceilingCause value
    else if value = "" then key.valueMissing
    else "invalid value '" ++ value ++ "' for '" ++ key.shown ++ "'\n  " ++ key.choicesNote
  | .repeated key => "the argument '" ++ key.shown ++ "' cannot be used multiple times"
  | .unexpectedArgument argument => "unexpected argument '" ++ argument ++ "' found"
  | .emptyFile => "a value is required for '<FILE>' but none was supplied"
  | .missingFile => "the following required arguments were not provided:\n  <FILE>"

/-- Whether a mistake is about which arguments there are, and not about the value of one. -/
def Mistake.showsUsage : Mistake → Bool
  | .unknownOption _ | .unexpectedValue _ _ | .repeated _ | .unexpectedArgument _ | .missingFile =>
    true
  | .missingValue _ | .invalidValue _ _ | .emptyFile => false

/-- **The text of a mistake.** -/
def Mistake.text (m : Mistake) : String :=
  "error: " ++ m.message ++ "\n\n" ++ (if m.showsUsage then usageText ++ "\n" else "") ++
    "For more information, try '--help'.\n"

end LinearSweep.CommandLine
