import LinearSweep.Text.Fold

/-! # Names of formats and views

* **`Format`** is how a listing is reported, **`View`** which parts of the plain text are shown.
* **`Format.parseBy`** looks a text up that is lowered as a whole, and **`Format.ofNameBy?`** goes
  through the names one by one; both rest on a `Casing`.
* **`Format.parse`**, **`Format.ofName?`** and **`Format.ofNameAscii?`** are these readers with the
  casing at hand; **`View.ofName?`** and **`View.ofNameAscii?`** do the same for views. -/

namespace LinearSweep

open Text

/-! ### Formats -/

/-- **How a listing is reported.** -/
inductive Format where
  /-- Plain text with titles. -/
  | text
  /-- One JSON document. -/
  | json
  /-- One JSON object for each instruction, each on a line. -/
  | jsonLines
  /-- A table of comma-separated values. -/
  | csv
deriving DecidableEq, Repr

namespace Format

/-- All formats, in the order in which they are offered. -/
def all : List Format := [.text, .json, .jsonLines, .csv]

/-- Every format is offered. -/
theorem mem_all (f : Format) : f ∈ all := by cases f <;> decide

/-- The format that is used where none is asked for, `.text`. -/
def standard : Format := .text

/-- **The name of a format.** -/
def name : Format → String
  | .text => "text"
  | .json => "json"
  | .jsonLines => "jsonl"
  | .csv => "csv"

/-- What a format is for. -/
def purpose : Format → String
  | .text => "Plain text assembly and pseudo-code views (default)"
  | .json => "JSON format (one document per session)"
  | .jsonLines => "JSON Lines format (one JSON object per instruction)"
  | .csv => "CSV format (comma-separated values)"

/-- **The first format whose name a text is taken for**, with the case of letters ignored or not. -/
def ofNameBy? (k : Casing) (ignoring : Bool) (text : String) : Option Format :=
  k.choose? ignoring name all text

/-- **The format of an exact name**: `ofName? f.name = some f`, and no other text is taken. -/
def ofName? (text : String) : Option Format := ofNameBy? .atHand false text

/-- The format of a name in ASCII letters of either case, so `JSON` is taken and `jsonlines` is not.
-/
def ofNameAscii? (text : String) : Option Format := ofNameBy? .atHand true text

/-- The wording for a text that names no format, which quotes `text` as it is. -/
def unknownMessage (text : String) : String := "Unknown output format: " ++ text

/-- **Look up a text that is lowered as a whole**, where `jsonlines` stands for JSON lines too. A
text that is not found is quoted as it was given. -/
def parseBy (k : Casing) (text : String) : Except String Format :=
  match k.lower text with
  | "text" => .ok .text
  | "json" => .ok .json
  | "jsonl" | "jsonlines" => .ok .jsonLines
  | "csv" => .ok .csv
  | _ => .error (unknownMessage text)

/-- **Read the name of a format** in letters of either case: `parseBy` with the casing at hand. -/
def parse (text : String) : Except String Format := parseBy .atHand text

end Format

/-! ### Views -/

/-- **Which parts of the plain text are shown.** -/
inductive View where
  /-- The assembly view alone. -/
  | assembly
  /-- The pseudo-code view alone. -/
  | pseudoCode
  /-- The assembly view and below it the pseudo-code view. -/
  | both
deriving DecidableEq, Repr

namespace View

/-- All views, in the order in which they are offered. -/
def all : List View := [.assembly, .pseudoCode, .both]

/-- Every view is offered. -/
theorem mem_all (v : View) : v ∈ all := by cases v <;> decide

/-- The view that is shown where none is asked for, `.both`. -/
def standard : View := .both

/-- **The name of a view.** -/
def name : View → String
  | .assembly => "asm"
  | .pseudoCode => "pseudo"
  | .both => "both"

/-- What a view is for. -/
def purpose : View → String
  | .assembly => "Assembly listing only"
  | .pseudoCode => "Pseudo-code only"
  | .both => "Assembly listing followed by pseudo-code"

/-- **The view of an exact name.** -/
def ofName? (text : String) : Option View := Casing.atHand.choose? false name all text

/-- The view of a name in ASCII letters of either case. -/
def ofNameAscii? (text : String) : Option View := Casing.atHand.choose? true name all text

end View

/-- The wording for a text that is no name among those offered. -/
def invalidNameMessage (text : String) : String := "invalid variant: " ++ text

end LinearSweep
