import LinearSweep.Json
import LinearSweep.Proofs.Machine
import LinearSweep.Text.Decimal
import Mathlib

/-! # A reader of JSON

Reads any JSON text, whoever wrote it: all kinds of values, with any space between the tokens, all
escapes of strings, and numbers with sign, fraction and power of ten. The reader is a machine. A
value that is still open waits on a stack while the values in it are read.

* **`Json.Value`** is any JSON value, **`Json.value`** the one that a value of a report stands for.
* **`Json.Numeral`** and **`Json.Quotation`** are a number and a string, as far as they were read.
* **`Json.Reader`** is the state of the machine, **`Json.reader`** the machine. -/

namespace LinearSweep.Json

open Text

/-! ### Values -/

/-- **Any JSON value.** -/
inductive Value where
  /-- The value `null`. -/
  | null
  /-- A truth value. -/
  | boolean (value : Bool)
  /-- A number, `significand * 10 ^ exponent`. -/
  | number (significand exponent : Int)
  /-- A string. -/
  | string (text : String)
  /-- An array of values. -/
  | array (items : List Value)
  /-- An object, with its fields in the order in which they stand. -/
  | object (fields : List (String × Value))

namespace Value

/-- The keys of an object in their order; other values have `[]`. -/
def keys : Value → List String
  | .object fields => fields.map Prod.fst
  | _ => []

/-- The first field of an object with some key, and `none` of any other value. -/
def field? (key : String) : Value → Option Value
  | .object fields => (fields.find? (·.1 = key)).map Prod.snd
  | _ => none

end Value

mutual

/-- **The JSON value that a value of a report stands for.** Reports have no truth values, no `null`,
and only whole numbers. -/
def value : Json → Value
  | .number n => .number n 0
  | .string text => .string text
  | .array items => .array (values items)
  | .object fields => .object (fieldValues fields)

/-- The values of the items of an array. -/
def values : List Json → List Value
  | [] => []
  | item :: items => value item :: values items

/-- The values of the fields of an object. -/
def fieldValues : List (String × Json) → List (String × Value)
  | [] => []
  | (key, item) :: fields => (key, value item) :: fieldValues fields

end

/-- The values of items are those of each: `values` is `value` along the list. -/
theorem values_eq_map (items : List Json) : values items = items.map value := by
  induction items with
  | nil => rw [values, List.map_nil]
  | cons item items ih => rw [values, List.map_cons, ih]

/-! ### Numbers -/

/-- **Where in a number the reader stands.** -/
inductive NumeralPart where
  /-- In front of the first digit, behind the sign if there is one. -/
  | front
  /-- Behind a zero that begins the number; no digit may follow, so `01` is no number. -/
  | zero
  /-- Behind a digit of the whole part. -/
  | whole
  /-- Behind the point. -/
  | point
  /-- Behind a digit of the fraction. -/
  | fraction
  /-- Behind the letter `e` or `E`, which announces a power of ten. -/
  | letter
  /-- Behind the sign of the power. -/
  | powerSign
  /-- Behind a digit of the power. -/
  | power
deriving DecidableEq

/-- **A number that was read so far.** -/
structure Numeral where
  /-- Where the reader stands. -/
  part : NumeralPart := .front
  /-- Whether there is a minus sign in front. -/
  negative : Bool := false
  /-- The value of the digits, without regard to the point: `125` for `1.25`. -/
  digits : Nat := 0
  /-- The number of digits behind the point. -/
  places : Nat := 0
  /-- Whether the power is negative. -/
  lowered : Bool := false
  /-- The value of the digits of the power. -/
  power : Nat := 0

namespace Numeral

/-- **The value of a number**, if the number may end here. Each of the `places` behind the point
takes one off the exponent. -/
def value? (n : Numeral) : Option Value :=
  match n.part with
  | .zero | .whole | .fraction | .power =>
    let significand : Int := if n.negative then -n.digits else n.digits
    let power : Int := if n.lowered then -n.power else n.power
    some (.number significand (power - n.places))
  | .front | .point | .letter | .powerSign => none

/-- Take a digit of the whole part. -/
def wholeDigit (n : Numeral) (c : Char) : Option Numeral :=
  (Decimal.accumulate n.digits c).map fun digits => { n with part := .whole, digits }

/-- Take a digit of the fraction. -/
def fractionDigit (n : Numeral) (c : Char) : Option Numeral :=
  (Decimal.accumulate n.digits c).map fun digits =>
    { n with part := .fraction, digits, places := n.places + 1 }

/-- Take a digit of the power. -/
def powerDigit (n : Numeral) (c : Char) : Option Numeral :=
  (Decimal.accumulate n.power c).map fun power => { n with part := .power, power }

/-- Take the letter that announces a power. -/
def powerLetter (n : Numeral) (c : Char) : Option Numeral :=
  if c = 'e' ∨ c = 'E' then some { n with part := .letter } else none

/-- Take what may follow the whole part. -/
def behindWhole (n : Numeral) (c : Char) : Option Numeral :=
  if c = '.' then some { n with part := .point } else n.powerLetter c

/-- **Take one more character into a number**, if it may stand there. -/
def step (n : Numeral) (c : Char) : Option Numeral :=
  match n.part with
  | .front => if c = '0' then some { n with part := .zero } else n.wholeDigit c
  | .zero => n.behindWhole c
  | .whole => n.wholeDigit c <|> n.behindWhole c
  | .point => n.fractionDigit c
  | .fraction => n.fractionDigit c <|> n.powerLetter c
  | .letter =>
    if c = '+' then some { n with part := .powerSign }
    else if c = '-' then some { n with part := .powerSign, lowered := true }
    else n.powerDigit c
  | .powerSign | .power => n.powerDigit c

end Numeral

/-! ### Strings -/

/-- **Where in a string the reader stands.** A character beyond the first 65536 is escaped as two
units, of which the leading one waits for the other. -/
inductive QuotationPart where
  /-- Between two characters. -/
  | between
  /-- Behind a backslash. -/
  | backslash (leading : Option Nat)
  /-- Behind some of the four digits of a unit. -/
  | digits (leading : Option Nat) (digits : List Char)
  /-- Behind a leading unit. -/
  | leading (code : Nat)
deriving DecidableEq

/-- **A string that was read so far**, without its quotes. -/
structure Quotation where
  /-- Where the reader stands. -/
  part : QuotationPart := .between
  /-- The characters. -/
  text : List Char := []

namespace Quotation

/-- The character that a letter behind a backslash stands for; `u` is none of them. -/
def character? : Char → Option Char
  | '\"' => some '\"'
  | '\\' => some '\\'
  | '/' => some '/'
  | 'b' => some '\x08'
  | 'f' => some '\x0c'
  | 'n' => some '\n'
  | 'r' => some '\r'
  | 't' => some '\t'
  | _ => none

/-- Add a character to a string. -/
def push (q : Quotation) (c : Char) : Quotation := ⟨.between, q.text ++ [c]⟩

/-- **Add the character of a unit**, or wait for the trailing unit of a pair, from `0xDC00` to
`0xDFFF`; neither may stand alone. -/
def unit (q : Quotation) (leading : Option Nat) (code : Nat) : Option Quotation :=
  match leading with
  | none =>
    -- a unit alone is a character unless it is one half of a pair
    if code < 0xD800 ∨ 0xDFFF < code then some (q.push (Char.ofNat code))
    else if code < 0xDC00 then some { q with part := .leading code }
    else none
  | some high =>
    if 0xDC00 ≤ code ∧ code ≤ 0xDFFF then
      some (q.push (Char.ofNat (0x10000 + 0x400 * (high - 0xD800) + (code - 0xDC00))))
    else none

/-- **Take one more character into a string**, if it may stand there. The quote that ends the string
is not among them, and neither are control characters. -/
def step (q : Quotation) (c : Char) : Option Quotation :=
  match q.part with
  | .between =>
    if c = '\\' then some { q with part := .backslash none }
    else if c.toNat < 0x20 then none
    else some (q.push c)
  | .backslash leading =>
    -- a trailing unit must come as a unit, so no letter stands for one
    if c = 'u' then some { q with part := .digits leading [] }
    else if leading.isNone then (character? c).map q.push
    else none
  | .digits leading digits =>
    -- the fourth digit completes the unit
    if digits.length < 3 then some { q with part := .digits leading (digits ++ [c]) }
    else (Hex.value? (digits ++ [c])).bind (q.unit leading)
  | .leading code => if c = '\\' then some { q with part := .backslash (some code) } else none

end Quotation

/-! ### Values inside values -/

/-- **A value that is still open**, with what was read of it. -/
inductive Frame where
  /-- An array with the items before the one that is read now. -/
  | array (items : List Value)
  /-- An object with the fields before the one that is read now, and the key of that one. -/
  | object (fields : List (String × Value)) (key : String)

/-- **What a string is read for.** -/
inductive Purpose where
  /-- It is a value. -/
  | value
  /-- It is a key of an object that has some fields already. -/
  | key (fields : List (String × Value))

/-- **What the reader expects or is about to read.** -/
inductive Place where
  /-- A value comes next. -/
  | value
  /-- The first item of an array, or the end of the array, comes next. -/
  | firstItem
  /-- The first key of an object, or the end of the object, comes next. -/
  | firstKey
  /-- A further key of an object with some fields comes next. -/
  | key (fields : List (String × Value))
  /-- The colon behind a key comes next. -/
  | colon (fields : List (String × Value)) (key : String)
  /-- A string is read. -/
  | text (purpose : Purpose) (read : Quotation)
  /-- A number is read. -/
  | numeral (read : Numeral)
  /-- The rest of a word is read, which is the name of a value. -/
  | word (rest : List Char) (value : Value)
  /-- A value is complete. -/
  | behind (value : Value)

/-- The place behind a string: a key is followed by a colon. -/
def Purpose.behind (text : String) : Purpose → Place
  | .value => .behind (.string text)
  | .key fields => .colon fields text

/-- The value that is complete at a place; a number is, wherever it may end. -/
def Place.value? : Place → Option Value
  | .behind v => some v
  | .numeral n => n.value?
  | .word [] v => some v
  | _ => none

/-- **The state of the reader**: where it stands, and the values that are open around it, the
innermost first. -/
structure Reader where
  /-- Where the reader stands. -/
  place : Place
  /-- The open values. -/
  frames : List Frame

/-- The characters that may stand between tokens: no others than these four. -/
def isSpace (c : Char) : Bool := c = ' ' || c = '\t' || c = '\n' || c = '\r'

namespace Reader

/-- **Begin a value** with its first character, which tells its kind. -/
def begin (frames : List Frame) (c : Char) : Option Reader :=
  match c with
  | '\"' => some ⟨.text .value {}, frames⟩
  | '[' => some ⟨.firstItem, .array [] :: frames⟩
  | '\x7b' => some ⟨.firstKey, frames⟩
  | 'n' => some ⟨.word ['u', 'l', 'l'] .null, frames⟩
  | 't' => some ⟨.word ['r', 'u', 'e'] (.boolean true), frames⟩
  | 'f' => some ⟨.word ['a', 'l', 's', 'e'] (.boolean false), frames⟩
  | '-' => some ⟨.numeral { negative := true }, frames⟩
  | c => (Numeral.step {} c).map fun n => ⟨.numeral n, frames⟩

/-- Begin a key. -/
def beginKey (fields : List (String × Value)) (frames : List Frame) (c : Char) :
    Option Reader :=
  if c = '\"' then some ⟨.text (.key fields) {}, frames⟩ else none

/-- **Take the character behind a complete value**: a space, a comma, or the end of the innermost
open value. That value, which is the first of `frames`, takes in `v`. -/
def leave (v : Value) (frames : List Frame) (c : Char) : Option Reader :=
  if isSpace c then some ⟨.behind v, frames⟩
  else match c, frames with
    | ',', .array items :: outer => some ⟨.value, .array (items ++ [v]) :: outer⟩
    | ']', .array items :: outer => some ⟨.behind (.array (items ++ [v])), outer⟩
    | ',', .object fields key :: outer => some ⟨.key (fields ++ [(key, v)]), outer⟩
    | '\x7d', .object fields key :: outer =>
      some ⟨.behind (.object (fields ++ [(key, v)])), outer⟩
    | _, _ => none

/-- **Take one more character**, if it may stand there. A number is complete only with the character
behind it, which is then taken by `leave`. -/
def step (r : Reader) (c : Char) : Option Reader :=
  match r.place with
  | .value => if isSpace c then some r else begin r.frames c
  | .firstItem =>
    if isSpace c then some r
    else if c = ']' then some ⟨.behind (.array []), r.frames.tail⟩
    else begin r.frames c
  | .firstKey =>
    if isSpace c then some r
    else if c = '\x7d' then some ⟨.behind (.object []), r.frames⟩
    else beginKey [] r.frames c
  | .key fields => if isSpace c then some r else beginKey fields r.frames c
  | .colon fields key =>
    if isSpace c then some r
    else if c = ':' then some ⟨.value, .object fields key :: r.frames⟩
    else none
  | .text purpose q =>
    if q.part = .between ∧ c = '\"' then some ⟨purpose.behind (String.ofList q.text), r.frames⟩
    else (q.step c).map fun q => ⟨.text purpose q, r.frames⟩
  | .numeral n =>
    match n.step c with
    | some n => some ⟨.numeral n, r.frames⟩
    -- the character does not belong to the number, so it ends in front of it
    | none => n.value?.bind (leave · r.frames c)
  | .word (expected :: rest) v => if c = expected then some ⟨.word rest v, r.frames⟩ else none
  | .word [] v => leave v r.frames c
  | .behind v => leave v r.frames c

/-- What was read, if no value is open and the one that was read is complete. -/
def result? (r : Reader) : Option Value :=
  if r.frames.isEmpty then r.place.value? else none

end Reader

/-- **The reader of JSON text**: one value, with any space around it. -/
def reader : Machine Reader Value where
  start := ⟨.value, []⟩
  step := Reader.step
  result? := Reader.result?

end LinearSweep.Json
