import LinearSweep.Proofs.JsonReader
import LinearSweep.Proofs.Numeral

/-! # Written JSON reads back

Whatever the layout, the text of a value reads back as that value, as long as the layout puts only
spaces between the tokens.

* **`Json.Layout.IsBlank`** says so of a layout.
* **`Json.leads_write`**: the text of a value leads the reader from a place where a value may come
  to one where that value is complete, whatever is open around it.
* **`Json.read_write`**: a text that is one written value reads back. -/

namespace LinearSweep.Json

open Text

variable {c : Char} {cs : List Char} {n : Numeral} {v : Value} {place : Place}
  {frames : List Frame} {r : Reader} {layout : Layout}

/-! ### Strings -/

/-- The letter of a short escape stands for the escaped character, and is not the `u` of a long one.
-/
theorem character?_of_letter? {letter : Char} (h : letter? c = some letter) :
    letter ≠ 'u' ∧ Quotation.character? letter = some c := by
  unfold letter? at h
  split at h <;> cases h
  all_goals exact ⟨by decide, rfl⟩

/-- A character without a short escape is neither quote nor backslash. -/
theorem ne_of_letter?_eq_none (h : letter? c = none) : c ≠ '\"' ∧ c ≠ '\\' := by
  constructor <;> rintro rfl <;> cases h

/-- Four digits behind a backslash and the letter `u` are read as the character of that number,
which is no half of a pair. -/
theorem leads_unit (purpose : Purpose) (text : List Char) (frames : List Frame)
    {digits : List Char} {code : Nat} (length : digits.length = 4)
    (is : Hex.value? digits = some code) (small : code < 0xD800) :
    reader.Leads ⟨.text purpose ⟨.between, text⟩, frames⟩ (['\\', 'u'] ++ digits)
      ⟨.text purpose ⟨.between, text ++ [Char.ofNat code]⟩, frames⟩ := by
  obtain ⟨a, b, d, e, rfl⟩ := List.length_eq_four.1 length
  refine .cons rfl (.cons rfl (.cons rfl (.cons rfl (.cons rfl (.singleton ?_)))))
  simp [reader, Reader.step, Quotation.step, is, Quotation.unit, small, Quotation.push]

/-- **The written form of a character is read as the character**, in any of the three forms that
`escape` has. -/
theorem leads_escape (purpose : Purpose) (text : List Char) (c : Char) :
    reader.Leads ⟨.text purpose ⟨.between, text⟩, frames⟩ (escape c)
      ⟨.text purpose ⟨.between, text ++ [c]⟩, frames⟩ := by
  unfold escape
  split
  · next letter h =>
    -- a backslash and a letter
    obtain ⟨ne, is⟩ := character?_of_letter? h
    refine .cons (t := ⟨.text purpose ⟨.backslash none, text⟩, frames⟩) rfl (.singleton ?_)
    simp [reader, Reader.step, Quotation.step, ne, is, Quotation.push]
  · next h =>
    split
    · next small =>
      -- a backslash, the letter `u` and four digits
      have length : ((Hex.digits .lower c.toNat).leftpad 4 '0').length = 4 := by
        have le : (Hex.digits .lower c.toNat).length ≤ 4 :=
          Hex.length_digits_le .lower (by decide) (by omega)
        rw [List.length_leftpad]
        omega
      have unit := leads_unit purpose text frames length
        (Hex.value?_leftpad_digits .lower 4 c.toNat) (by omega)
      rwa [Char.ofNat_toNat] at unit
    · next large =>
      -- the character itself
      obtain ⟨quote, backslash⟩ := ne_of_letter?_eq_none h
      refine .singleton ?_
      simp [reader, Reader.step, Quotation.step, quote, backslash, large, Quotation.push]

/-- Written characters are read one after the other, behind those that were read before. -/
theorem leads_escapes (purpose : Purpose) (before cs : List Char) :
    reader.Leads ⟨.text purpose ⟨.between, before⟩, frames⟩ (cs.flatMap escape)
      ⟨.text purpose ⟨.between, before ++ cs⟩, frames⟩ := by
  induction cs generalizing before with
  | nil => rw [List.append_nil]; exact .nil _
  | cons c cs ih =>
    have onward := ih (before ++ [c])
    rw [List.append_assoc, List.singleton_append] at onward
    exact (leads_escape purpose before c).append onward

/-- **A written string is read as the string**, up to its last quote. -/
theorem leads_quotation (purpose : Purpose) (text : String) :
    reader.Leads ⟨.text purpose {}, frames⟩ (text.toList.flatMap escape ++ ['\"'])
      ⟨purpose.behind text, frames⟩ := by
  refine (leads_escapes purpose [] text.toList).append (.singleton ?_)
  simp [reader, Reader.step]

/-! ### Numbers -/

/-- A place where a value may begin, `.value` or the front of an array. -/
def Place.AwaitsValue (place : Place) : Prop := place = .value ∨ place = .firstItem

/-- **A written positive number is read digit by digit**, and does not begin with a zero. -/
theorem leads_toDigits (awaits : place.AwaitsValue) {n : Nat} (pos : 0 < n) :
    reader.Leads ⟨place, frames⟩ (Nat.toDigits 10 n)
      ⟨.numeral { part := .whole, digits := n }, frames⟩ := by
  induction n using Nat.strongRecOn with
  | ind n ih =>
    by_cases one : n < 10
    · rw [Nat.toDigits_of_lt_base one]
      refine .singleton ?_
      rcases awaits with rfl | rfl <;> interval_cases n <;> rfl
    · -- the last digit comes behind those of the tenth part
      rw [Nat.toDigits_of_base_le (by decide) (by omega)]
      refine (ih (n / 10) (by omega) (by omega)).append (.singleton ?_)
      have taken := Decimal.accumulate_digitChar (n / 10) (Nat.mod_lt n (by decide : 10 > 0))
      rw [Nat.div_add_mod] at taken
      simp [reader, Reader.step, Numeral.step, Numeral.wholeDigit, taken]

/-- **A written number is read as the number**, which is complete in so far as it may end there. -/
theorem leads_writeNumber (awaits : place.AwaitsValue) (n : Nat) :
    ∃ read : Numeral, read.value? = some (.number n 0) ∧
      reader.Leads ⟨place, frames⟩ (writeNumber n) ⟨.numeral read, frames⟩ := by
  rcases Nat.eq_zero_or_pos n with rfl | pos
  · refine ⟨{ part := .zero }, rfl, .singleton ?_⟩
    rcases awaits with rfl | rfl <;> rfl
  · exact ⟨{ part := .whole, digits := n }, rfl, leads_toDigits awaits pos⟩

/-! ### Spaces and the ends of values -/

/-- Spaces in front of a value change nothing. -/
theorem leads_spaces (awaits : place.AwaitsValue) (spaces : ∀ c ∈ cs, isSpace c) :
    reader.Leads ⟨place, frames⟩ cs ⟨place, frames⟩ := by
  refine .of_unchanged fun c mem => ?_
  rcases awaits with rfl | rfl <;> simp [reader, Reader.step, spaces c mem]

/-- A number that may end is not continued by what is neither digit, point nor letter. -/
theorem Numeral.step_eq_none (complete : n.value? = some v) (digit : c.isDigit = false)
    (other : c ≠ '.' ∧ c ≠ 'e' ∧ c ≠ 'E') : n.step c = none := by
  obtain ⟨point, small, capital⟩ := other
  obtain ⟨part, negative, digits, places, lowered, power⟩ := n
  cases part <;>
    simp_all [value?, step, wholeDigit, behindWhole, fractionDigit, powerLetter, powerDigit,
      Decimal.accumulate_eq_none]

/-- The characters that may stand behind a value, in any text that a layout makes. -/
def mayFollow (c : Char) : Bool := isSpace c || c = ',' || c = ']' || c = '\x7d'

/-- **Behind a complete value**, however it was read, the reader leaves it: the next step is that of
`Reader.leave`. -/
theorem step_of_value? (complete : place.value? = some v) (follows : mayFollow c) :
    reader.step ⟨place, frames⟩ c = Reader.leave v frames c := by
  cases place with
  | behind w =>
    cases complete
    rfl
  | numeral n =>
    -- a number has no end of its own: it ends at the first character that does not belong to it
    have ends : n.step c = none := by
      apply n.step_eq_none complete
      · simp only [mayFollow, isSpace, Bool.or_eq_true, decide_eq_true_eq] at follows
        rcases follows with (((((rfl | rfl) | rfl) | rfl) | rfl) | rfl) | rfl <;> rfl
      · refine ⟨?_, ?_, ?_⟩ <;> rintro rfl <;> cases follows
    have is : n.value? = some v := complete
    simp [reader, Reader.step, ends, is]
  | word rest w =>
    cases rest with
    | nil =>
      cases complete
      rfl
    | cons => cases complete
  | _ => cases complete

/-- **Spaces and the character that ends a value** lead on behind it. -/
theorem leads_leave (complete : place.value? = some v) (spaces : ∀ c ∈ cs, isSpace c)
    (follows : mayFollow c) (leaves : Reader.leave v frames c = some r) :
    reader.Leads ⟨place, frames⟩ (cs ++ [c]) r := by
  cases cs with
  | nil => exact .singleton ((step_of_value? complete follows).trans leaves)
  | cons d cs =>
    rw [List.forall_mem_cons] at spaces
    -- the first space completes a number or a word; the others change nothing any more
    have stay : ∀ d, isSpace d → Reader.leave v frames d = some ⟨.behind v, frames⟩ := by
      intro d space
      unfold Reader.leave
      rw [if_pos space]
    have first : reader.step ⟨place, frames⟩ d = some ⟨.behind v, frames⟩ := by
      rw [step_of_value? complete (by rw [mayFollow, spaces.1]; rfl), stay d spaces.1]
    have others : reader.Leads ⟨.behind v, frames⟩ cs ⟨.behind v, frames⟩ :=
      .of_unchanged fun e mem => stay e (spaces.2 e mem)
    exact .cons first (others.append (.singleton leaves))

/-! ### Values -/

/-- **A layout puts only spaces between tokens**, in the sense of `isSpace`. -/
structure Layout.IsBlank (layout : Layout) : Prop where
  /-- Behind the colon of a field. -/
  afterColon : ∀ c ∈ layout.afterColon, isSpace c
  /-- In front of items and closing brackets. -/
  newLine : ∀ depth, ∀ c ∈ layout.newLine depth, isSpace c

/-- No space at all is blank, so `Layout.compact` is. -/
theorem Layout.isBlank_compact : Layout.compact.IsBlank where
  afterColon := List.forall_mem_nil _
  newLine _ := List.forall_mem_nil _

/-- Line breaks and indentation are blank, so `Layout.indented` is. -/
theorem Layout.isBlank_indented : Layout.indented.IsBlank where
  afterColon c mem := by
    rw [List.mem_singleton.1 mem]
    rfl
  newLine depth c mem := by
    rcases List.mem_cons.1 mem with rfl | mem
    · rfl
    · rw [List.eq_of_mem_replicate mem]
      rfl

/-- A place where a key may begin, of an object that has some fields already; the first key may also
come at `.firstKey`. -/
def Place.AwaitsKey (place : Place) (fields : List (String × Value)) : Prop :=
  place = .key fields ∨ place = .firstKey ∧ fields = []

/-- **A key and its colon lead to the value of the field**, with the object open around it. -/
theorem leads_key (blank : layout.IsBlank) {fields : List (String × Value)}
    (awaits : place.AwaitsKey fields) (depth : Nat) (key : String) (frames : List Frame) :
    reader.Leads ⟨place, frames⟩
      (layout.newLine depth ++ writeString key ++ ':' :: layout.afterColon)
      ⟨.value, .object fields key :: frames⟩ := by
  have spaces : reader.Leads ⟨place, frames⟩ (layout.newLine depth) ⟨place, frames⟩ := by
    refine .of_unchanged fun c mem => ?_
    rcases awaits with rfl | ⟨rfl, -⟩ <;>
      simp [reader, Reader.step, blank.newLine depth c mem]
  have quote : reader.step ⟨place, frames⟩ '\"' = some ⟨.text (.key fields) {}, frames⟩ := by
    rcases awaits with rfl | ⟨rfl, rfl⟩ <;> rfl
  have colon : reader.step ⟨.colon fields key, frames⟩ ':' =
      some ⟨.value, .object fields key :: frames⟩ := rfl
  exact (spaces.append (.cons quote (leads_quotation (.key fields) key))).append
    (.cons colon (leads_spaces (.inl rfl) blank.afterColon))

mutual

/-- **A written value is read as that value**, `j.value`, where a value may come and whatever is
open around it. -/
theorem leads_write (blank : layout.IsBlank) : ∀ (j : Json) (depth : Nat) {place : Place}
    (_ : place.AwaitsValue) (frames : List Frame), ∃ behind : Place,
      behind.value? = some j.value ∧
        reader.Leads ⟨place, frames⟩ (write layout depth j) ⟨behind, frames⟩
  | .number n, depth, place, awaits, frames => by
    obtain ⟨read, is, leads⟩ := leads_writeNumber awaits n
    exact ⟨.numeral read, is, by rw [write]; exact leads⟩
  | .string text, depth, place, awaits, frames => by
    have quote : reader.step ⟨place, frames⟩ '\"' = some ⟨.text .value {}, frames⟩ := by
      rcases awaits with rfl | rfl <;> rfl
    refine ⟨.behind (.string text), rfl, ?_⟩
    rw [write]
    exact .cons quote (leads_quotation .value text)
  | .array [], depth, place, awaits, frames => by
    refine ⟨.behind (.array []), rfl, ?_⟩
    rw [write]
    rcases awaits with rfl | rfl <;> exact .cons rfl (.singleton rfl)
  | .array (item :: items), depth, place, awaits, frames => by
    have bracket : reader.step ⟨place, frames⟩ '[' = some ⟨.firstItem, .array [] :: frames⟩ := by
      rcases awaits with rfl | rfl <;> rfl
    obtain ⟨behind, is, first⟩ := leads_write blank item (depth + 1) (.inr rfl)
      (.array [] :: frames)
    refine ⟨.behind (.array (value item :: values items)), by rw [value, values]; rfl, ?_⟩
    rw [write, List.append_assoc, List.append_assoc]
    refine .append (.append (.cons bracket (leads_spaces (.inr rfl) (blank.newLine _))) first) ?_
    exact leads_writeItems blank items depth is [] frames
  | .object [], depth, place, awaits, frames => by
    refine ⟨.behind (.object []), rfl, ?_⟩
    rw [write]
    rcases awaits with rfl | rfl <;> exact .cons rfl (.singleton rfl)
  | .object ((key, item) :: fields), depth, place, awaits, frames => by
    have brace : reader.step ⟨place, frames⟩ '\x7b' = some ⟨.firstKey, frames⟩ := by
      rcases awaits with rfl | rfl <;> rfl
    obtain ⟨behind, is, first⟩ := leads_write blank item (depth + 1) (.inl rfl)
      (.object [] key :: frames)
    refine ⟨.behind (.object ((key, value item) :: fieldValues fields)),
      by rw [value, fieldValues]; rfl, ?_⟩
    have opens := leads_key blank (.inr ⟨rfl, rfl⟩) (depth + 1) key frames
    rw [write, List.append_assoc, List.append_assoc]
    refine .append (.append (.cons brace opens) first) ?_
    exact leads_writeFields blank fields depth is [] key frames

/-- The items behind the first of an array lead to its end. Here `v` is the item that is complete,
and `before` are those in front of it. -/
theorem leads_writeItems (blank : layout.IsBlank) : ∀ (items : List Json) (depth : Nat)
    {place : Place} {v : Value} (_ : place.value? = some v) (before : List Value)
    (frames : List Frame),
      reader.Leads ⟨place, .array before :: frames⟩
        (writeItems layout depth items ++ (layout.newLine depth ++ [']']))
        ⟨.behind (.array (before ++ v :: values items)), frames⟩
  | [], depth, place, v, complete, before, frames => by
    rw [writeItems, List.nil_append, values]
    exact leads_leave complete (blank.newLine depth) rfl rfl
  | item :: items, depth, place, v, complete, before, frames => by
    have comma : reader.step ⟨place, .array before :: frames⟩ ',' =
        some ⟨.value, .array (before ++ [v]) :: frames⟩ := step_of_value? complete rfl
    -- the comma closes the item in front, and this one is read in its place
    obtain ⟨behind, is, next⟩ := leads_write blank item (depth + 1) (.inl rfl)
      (.array (before ++ [v]) :: frames)
    have others := leads_writeItems blank items depth is (before ++ [v]) frames
    rw [List.append_assoc, List.singleton_append] at others
    rw [writeItems, values, List.append_assoc]
    exact .append (.append (.cons comma (leads_spaces (.inl rfl) (blank.newLine _))) next) others

/-- The fields behind the first of an object lead to its end. Here `key` and `v` are the field that
is complete. -/
theorem leads_writeFields (blank : layout.IsBlank) : ∀ (fields : List (String × Json))
    (depth : Nat) {place : Place} {v : Value} (_ : place.value? = some v)
    (before : List (String × Value)) (key : String) (frames : List Frame),
      reader.Leads ⟨place, .object before key :: frames⟩
        (writeFields layout depth fields ++ (layout.newLine depth ++ ['\x7d']))
        ⟨.behind (.object (before ++ (key, v) :: fieldValues fields)), frames⟩
  | [], depth, place, v, complete, before, key, frames => by
    rw [writeFields, List.nil_append, fieldValues]
    exact leads_leave complete (blank.newLine depth) rfl rfl
  | (name, item) :: fields, depth, place, v, complete, before, key, frames => by
    have comma : reader.step ⟨place, .object before key :: frames⟩ ',' =
        some ⟨.key (before ++ [(key, v)]), frames⟩ := step_of_value? complete rfl
    have awaits : Place.AwaitsKey (.key (before ++ [(key, v)])) (before ++ [(key, v)]) := .inl rfl
    have opens := leads_key blank awaits (depth + 1) name frames
    obtain ⟨behind, is, next⟩ := leads_write blank item (depth + 1) (.inl rfl)
      (.object (before ++ [(key, v)]) name :: frames)
    have others := leads_writeFields blank fields depth is (before ++ [(key, v)]) name frames
    rw [List.append_assoc, List.singleton_append] at others
    rw [writeFields, fieldValues, List.append_assoc]
    exact .append (.append (.cons comma opens) next) others

end

/-- **A text that is one written value reads back as that value.** -/
theorem read_write (blank : layout.IsBlank) (j : Json) :
    reader.read (String.ofList (write layout 0 j)) = some j.value := by
  obtain ⟨behind, is, leads⟩ := leads_write blank j 0 (.inl rfl) []
  rw [Machine.read_eq_of_leads leads]
  exact is

/-- A string with a quote, a backslash, a control character and a line break. -/
example : reader.read (compact (.array [.string "\"\\\x01\n", .number 10])) =
    some (.array [.string "\"\\\x01\n", .number 10 0]) := by
  cbv

end LinearSweep.Json
