import LinearSweep.Offset
import LinearSweep.Report.Format
import LinearSweep.Sweep
import LinearSweep.Text.Decimal

/-! # Arguments of the command line

Arguments are read from left to right, and the first that ends the reading decides: a mistake,
or a question for the version or for help.

* **`Key`** is an option, **`Key.ofLong?`** and **`Key.ofShort?`** know its names.
* **`Settings`** are the values of all options, **`Invocation`** adds the file.
* **`Ending`** is why the reading ends before its time.
* **`Reader.step`** takes one argument, **`Invocation.ofArguments`** all of them. -/

namespace LinearSweep.CommandLine

open Text

/-! ### Options -/

/-- **An option.** -/
inductive Key where
  /-- An offset where a session starts, `--offset`; may be given several times. -/
  | offset
  /-- The address of offset 0, `--base`. -/
  | base
  /-- The byte ceiling of each session, `--max-bytes`. -/
  | ceiling
  /-- The format of the report, `--format`. -/
  | format
  /-- The views of plain text, `--view`. -/
  | view
  /-- Whether offsets count from the first region of code, `--locate-code`. -/
  | locateCode
  /-- Whether to tell what is going on, `--verbose`. -/
  | verbose
  /-- A question for help. -/
  | help
  /-- A question for the version. -/
  | version
deriving DecidableEq, Repr

namespace Key

/-- All options, in the order in which `helpText` lists them. -/
def all : List Key :=
  [.offset, .base, .ceiling, .format, .view, .locateCode, .verbose, .help, .version]

/-- The long name of an option. -/
def long : Key → String
  | .offset => "offset"
  | .base => "base"
  | .ceiling => "max-bytes"
  | .format => "format"
  | .view => "view"
  | .locateCode => "locate-code"
  | .verbose => "verbose"
  | .help => "help"
  | .version => "version"

/-- The letter of an option, if it has one. -/
def short? : Key → Option Char
  | .offset => some 'o'
  | .base => some 'b'
  | .ceiling => some 'n'
  | .format => some 'f'
  | .view => none
  | .locateCode => none
  | .verbose => some 'v'
  | .help => some 'h'
  | .version => some 'V'

/-- **Whether an option takes a value.** -/
def takesValue : Key → Bool
  | .offset | .base | .ceiling | .format | .view => true
  | .locateCode | .verbose | .help | .version => false

/-- **Whether an option may be given more than once.** -/
def repeats : Key → Bool
  | .offset => true
  | _ => false

/-- The option whose name is `name`; a beginning of a name, such as `off`, is none. -/
def ofLong? (name : String) : Option Key := all.find? (·.long = name)

/-- The option of a letter. -/
def ofShort? (letter : Char) : Option Key := all.find? (·.short? = some letter)

end Key

/-! ### Outcomes of the reading -/

/-- **The values of the options.** -/
structure Settings where
  /-- The texts of the start offsets, in the order given. -/
  offsets : List String := []
  /-- The text of the address of offset 0. -/
  base : String := "0"
  /-- The byte ceiling of each session, `512` if none is given. -/
  ceiling : Nat := Session.defaultCeiling
  /-- The format of the report. -/
  format : Format := .standard
  /-- The views of plain text. -/
  view : View := .standard
  /-- Whether offsets count from the first region of code. -/
  locateCode : Bool := false
  /-- Whether to tell what is going on. -/
  verbose : Bool := false
deriving DecidableEq, Repr

/-- **A call of the program**: a file and the values of the options. -/
structure Invocation where
  /-- The name of the file. -/
  path : String
  /-- The values of the options. -/
  settings : Settings
deriving DecidableEq, Repr

/-- **A mistake in the arguments.** -/
inductive Mistake where
  /-- There is no option of this name, which is given with its dashes. -/
  | unknownOption (name : String)
  /-- The option needs a value. -/
  | missingValue (key : Key)
  /-- The option takes no value. -/
  | unexpectedValue (key : Key) (value : String)
  /-- The value is none for the option, so `Settings.assign` refuses it. -/
  | invalidValue (key : Key) (value : String)
  /-- The option may be given only once. -/
  | repeated (key : Key)
  /-- There is a second file. -/
  | unexpectedArgument (argument : String)
  /-- The name of the file is empty. -/
  | emptyFile
  /-- There is no file. -/
  | missingFile
deriving DecidableEq, Repr

/-- **Why the reading of arguments ends before its time.** -/
inductive Ending where
  /-- The version is asked for. -/
  | version
  /-- Help is asked for, `detailed` by the long name of the option. -/
  | help (detailed : Bool)
  /-- There is a mistake. -/
  | mistake (cause : Mistake)
deriving DecidableEq, Repr

/-! ### Reading -/

/-- **What was read so far.** The reading begins with `{}`. -/
structure Reader where
  /-- The file. -/
  path? : Option String := none
  /-- The options that were given, against which `note` tells a second time. -/
  given : List Key := []
  /-- The values of the options. -/
  settings : Settings := {}
  /-- The option whose value the next argument must be. -/
  awaiting : Option Key := none
  /-- Whether the rest of the arguments are files, whatever they begin with; so it is behind `--`.
  -/
  filesOnly : Bool := false
deriving DecidableEq, Repr

/-- The byte ceiling that a text denotes in decimal, if it is at most `Offset.largest`. -/
def ceiling? (text : String) : Option Nat :=
  (Decimal.value? text.toList).filter (· ≤ Offset.largest)

/-- **The settings with the value of one option changed**, or `none` if the text is no value of the
option. For `.offset` the value comes behind those before. -/
def Settings.assign (s : Settings) (key : Key) (value : String) : Option Settings :=
  match key with
  | .offset => some { s with offsets := s.offsets ++ [value] }
  | .base => some { s with base := value }
  | .ceiling => (ceiling? value).map fun n => { s with ceiling := n }
  | .format => (Format.ofName? value).map fun f => { s with format := f }
  | .view => (View.ofName? value).map fun v => { s with view := v }
  | .locateCode | .verbose | .help | .version => none

namespace Reader

/-- Note that an option is given, which must not be a second time unless `key.repeats`. -/
def note (r : Reader) (key : Key) : Except Ending Reader :=
  if key ∈ r.given && !key.repeats then .error (.mistake (.repeated key))
  else .ok { r with given := key :: r.given, awaiting := none }

/-- **Take an option with its value.** -/
def assign (r : Reader) (key : Key) (value : String) : Except Ending Reader := do
  let r ← r.note key
  match r.settings.assign key value with
  | some settings => return { r with settings }
  | none => throw (.mistake (.invalidValue key value))

/-- **Take an option without a value**, given by its long name or by its letter. If the option needs
one, then the reader is `awaiting` it. -/
def raise (r : Reader) (byName : Bool) (key : Key) : Except Ending Reader := do
  match key with
  | .version => throw .version
  | .help => throw (.help byName)
  | .locateCode =>
    let r ← r.note key
    return { r with settings := { r.settings with locateCode := true } }
  | .verbose =>
    let r ← r.note key
    return { r with settings := { r.settings with verbose := true } }
  | .offset | .base | .ceiling | .format | .view => return { r with awaiting := some key }

/-- **Take a file.** -/
def file (r : Reader) (argument : String) : Except Ending Reader :=
  -- a second file is noticed before an empty one
  if r.path?.isSome then .error (.mistake (.unexpectedArgument argument))
  else if argument = "" then .error (.mistake .emptyFile)
  else .ok { r with path? := some argument }

/-- **Take a long option**, given without `--`; a value may be attached behind `=`. -/
def long (r : Reader) (option : List Char) : Except Ending Reader :=
  let name := String.ofList (option.takeWhile (· ≠ '='))
  match Key.ofLong? name, option.dropWhile (· ≠ '=') with
  | none, _ => .error (.mistake (.unknownOption ("--" ++ name)))
  | some key, [] => r.raise true key
  | some key, _ :: value =>
    if key.takesValue then r.assign key (String.ofList value)
    else .error (.mistake (.unexpectedValue key (String.ofList value)))

/-- **Take a row of letters**, given without `-`. Behind an option that takes a value stands that
value, with or without `=` in front; if nothing stands there, the value is the next argument. -/
def letters (r : Reader) : List Char → Except Ending Reader
  | [] => .ok r
  | letter :: rest =>
    match Key.ofShort? letter with
    | none => .error (.mistake (.unknownOption (String.ofList ['-', letter])))
    | some key =>
      -- the value may stand behind the letter, with or without a sign between them
      if key.takesValue then
        match rest with
        | [] => r.raise false key
        | '=' :: value => r.assign key (String.ofList value)
        | value => r.assign key (String.ofList value)
      else do letters (← r.raise false key) rest

/-- **Take one argument.** A lone `-` is a file or a value, and no value of its own argument begins
with a dash otherwise. -/
def step (r : Reader) (argument : String) : Except Ending Reader :=
  if r.filesOnly then r.file argument
  else match r.awaiting, argument.toList with
    -- nothing that looks like an option is taken for a value
    | some key, '-' :: _ :: _ => .error (.mistake (.missingValue key))
    | some key, _ => r.assign key argument
    | none, ['-', '-'] => .ok { r with filesOnly := true }
    | none, '-' :: '-' :: option => r.long option
    | none, '-' :: letter :: rest => r.letters (letter :: rest)
    | none, _ => r.file argument

/-- **The call that was read**, at the end of the arguments. -/
def finish (r : Reader) : Except Ending Invocation :=
  match r.awaiting, r.path? with
  | some key, _ => .error (.mistake (.missingValue key))
  | none, none => .error (.mistake .missingFile)
  | none, some path => .ok { path, settings := r.settings }

end Reader

/-- **Read all arguments**: a `Reader.step` for each, and `Reader.finish` behind them. -/
def Invocation.ofArguments (arguments : List String) : Except Ending Invocation := do
  (← arguments.foldlM Reader.step {}).finish

end LinearSweep.CommandLine
