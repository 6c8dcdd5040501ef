import LinearSweep.Report.Format
import Mathlib.Data.List.Forall2

/-! # Names of formats in letters of either case

Three readers take the name of a format. One knows the exact names, one disregards the case of ASCII
letters, and one lowers the whole text, letters beyond ASCII included, and looks it up. The last two
accept the same texts but for one more name. Lowering brings two characters beyond ASCII among the
ASCII letters, but one of them becomes `k`, which is in no name, and the other becomes `i` together
with a mark, which is no letter.

* **`Text.SameLetters`** is equality up to the case of ASCII letters.
* **`Text.LowerForm`** is what a character may become in lower case; by
  **`Text.LowerForm.eq_toLower`** only ASCII letters become letters of names.
* **`Text.Casing.Lawful`** is what is promised of the functions that readers rest on; the ones at
  hand keep it by **`Text.Casing.lawful_atHand`**.
* **`Format.parseBy_congr`** and **`Format.ofNameBy?_congr`**: for names it makes no difference
  which functions are taken.
* **`Format.Agree`** says how the three readers agree on a text, **`Format.readers_agree`** that
  they do. -/

namespace LinearSweep

namespace Text

/-! ### Letters of either case -/

/-- **Equality up to the case of ASCII letters**, character by character. -/
def SameLetters (s t : String) : Prop :=
  List.Forall₂ (fun c d => c.toLower = d.toLower) s.toList t.toList

/-- Texts are equal up to the case of ASCII letters if they are equal once `foldAscii` has lowered
these. -/
theorem sameLetters_iff {s t : String} : SameLetters s t ↔ foldAscii s = foldAscii t := by
  rw [SameLetters, foldAscii, foldAscii, ← String.toList_inj, String.toList_map, String.toList_map,
    ← List.forall₂_eq_eq_eq, List.forall₂_map_left_iff, List.forall₂_map_right_iff]

/-- Lowering ASCII letters changes no character behind the capitals, the last of which is number 90.
-/
theorem toLower_of_lt {c : Char} (behind : 90 < c.toNat) : c.toLower = c := by
  unfold Char.toLower
  rw [dif_neg]
  rintro ⟨-, le⟩
  have last : c.toNat ≤ 90 := le
  exact absurd last (Nat.not_le_of_lt behind)

/-- An ASCII letter is an ASCII character: `c.isAlpha` means no others. -/
theorem toNat_lt_of_isAlpha {c : Char} (letter : c.isAlpha) : c.toNat < 128 := by
  unfold Char.isAlpha Char.isUpper Char.isLower at letter
  rw [Bool.or_eq_true, Bool.and_eq_true, decide_eq_true_eq, decide_eq_true_eq,
    decide_eq_true_eq] at letter
  rcases letter with ⟨-, le⟩ | ⟨-, le⟩
  · have last : c.toNat ≤ 90 := le
    omega
  · have last : c.toNat ≤ 122 := le
    omega

/-! ### Lower-case forms -/

/-- **What a character may become in lower case.** The Kelvin sign and the dotted capital `I` become
an ASCII letter, the latter with a mark behind it. Other characters beyond ASCII become characters
that are no ASCII letters, and of them no more is said. -/
inductive LowerForm : Char → List Char → Prop where
  /-- ASCII capitals are lowered, and nothing else of ASCII is changed. -/
  | ascii {c : Char} (ascii : c.toNat < 128) : LowerForm c [c.toLower]
  /-- The Kelvin sign becomes a letter. -/
  | kelvin : LowerForm '\u212A' ['k']
  /-- The dotted capital becomes a letter and a mark. -/
  | dotted : LowerForm '\u0130' ['i', '\u0307']
  /-- No other character vanishes or becomes an ASCII letter. -/
  | other {c : Char} {form : List Char} (beyond : 128 ≤ c.toNat) (ne_kelvin : c ≠ '\u212A')
    (ne_dotted : c ≠ '\u0130') (some : form ≠ []) (none : ∀ d ∈ form, ¬ d.isAlpha) :
    LowerForm c form

/-- **A letter of names**: a lower-case ASCII letter other than `k`, which the Kelvin sign becomes.
-/
def IsNameLetter (c : Char) : Prop := c.isLower ∧ c ≠ 'k'

/-- A letter of names is an ASCII letter. -/
theorem IsNameLetter.isAlpha {c : Char} (letter : IsNameLetter c) : c.isAlpha := by
  unfold Char.isAlpha
  rw [letter.1, Bool.or_true]

/-- Lowering leaves the letters of names: `c.toLower` is `c`. -/
theorem IsNameLetter.toLower_eq {c : Char} (letter : IsNameLetter c) : c.toLower = c := by
  have lower := letter.1
  unfold Char.isLower at lower
  rw [Bool.and_eq_true, decide_eq_true_eq] at lower
  have first : 97 ≤ c.toNat := lower.1
  exact toLower_of_lt (by omega)

/-- Lowering ASCII letters makes no letter of names of a character beyond ASCII. -/
theorem IsNameLetter.toNat_lt {c : Char} (letter : IsNameLetter c.toLower) : c.toNat < 128 := by
  by_contra beyond
  rw [toLower_of_lt (by omega)] at letter
  exact beyond (toNat_lt_of_isAlpha letter.isAlpha)

/-- **Only ASCII letters become letters of names**: if a lower-case form of a character consists of
such letters, or if lowering ASCII letters makes the character one, then this is the form. -/
theorem LowerForm.eq_toLower {c : Char} {form : List Char} (becomes : LowerForm c form)
    (letters : (∀ d ∈ form, IsNameLetter d) ∨ IsNameLetter c.toLower) : form = [c.toLower] := by
  cases becomes with
  | ascii _ => rfl
  -- `k` is left out of the letters of names, and the mark behind `i` is none
  | kelvin => simp [IsNameLetter] at letters
  | dotted => simp [IsNameLetter] at letters
  | other beyond _ _ some none =>
    rcases letters with all | letter
    · obtain ⟨d, mem⟩ := List.exists_mem_of_ne_nil form some
      exact absurd (all d mem).isAlpha (none d mem)
    · exact absurd letter.toNat_lt (Nat.not_lt_of_le beyond)

/-- A text whose lower-case forms make up a name is lowered letter by letter: put together they are
`cs.map Char.toLower`. -/
theorem flatten_eq_map {cs : List Char} {forms : List (List Char)}
    (each : List.Forall₂ LowerForm cs forms)
    (letters : (∀ d ∈ forms.flatten, IsNameLetter d) ∨ ∀ c ∈ cs, IsNameLetter c.toLower) :
    forms.flatten = cs.map Char.toLower := by
  -- along both lists side by side: letters of names on one side leave each form one character
  induction each with
  | nil => rfl
  | cons becomes _ ih =>
    simp only [List.flatten_cons, List.forall_mem_append, List.forall_mem_cons] at letters
    rw [List.flatten_cons, List.map_cons, becomes.eq_toLower (letters.imp And.left And.left),
      ih (letters.imp And.right And.right), List.singleton_append]

/-- Lowering ASCII letters leaves a name, which has no capitals. -/
theorem foldAscii_of_letters {name : String} (letters : ∀ c ∈ name.toList, IsNameLetter c) :
    foldAscii name = name := by
  rw [foldAscii, ← String.toList_inj, String.toList_map]
  exact (List.map_congr_left fun c mem => (letters c mem).toLower_eq).trans (List.map_id' _)

/-- A text is equal to a name up to the case of ASCII letters if it is once these are lowered; the
name is lowered already. -/
theorem sameLetters_iff_map {text name : String} (letters : ∀ c ∈ name.toList, IsNameLetter c) :
    SameLetters text name ↔ text.toList.map Char.toLower = name.toList := by
  rw [sameLetters_iff, foldAscii_of_letters letters, foldAscii, ← String.toList_inj,
    String.toList_map]

/-- **A text with a character beyond ASCII is no name up to the case of ASCII letters.** -/
theorem not_sameLetters_of_beyond {text name : String} {c : Char} (mem : c ∈ text.toList)
    (beyond : 128 ≤ c.toNat) (letters : ∀ c ∈ name.toList, IsNameLetter c) :
    ¬ SameLetters text name := by
  intro same
  rw [← (sameLetters_iff_map letters).1 same, List.forall_mem_map] at letters
  exact absurd (letters c mem).toNat_lt (Nat.not_lt_of_le beyond)

/-! ### The functions that readers rest on -/

namespace Casing

/-- **What is promised of the functions that readers of names rest on.** -/
structure Lawful (k : Casing) : Prop where
  /-- The lower-case form of a text is put together from forms of its characters, which may depend
  on what stands around them. -/
  exists_forms : ∀ text, ∃ forms, List.Forall₂ LowerForm text.toList forms ∧
    (k.lower text).toList = forms.flatten
  /-- A text is taken for a name if it is the name. -/
  accepts_exact : ∀ name text, k.accepts false name text = true ↔ text = name
  /-- With case ignored, it may differ from the name in the case of ASCII letters. -/
  accepts_ascii : ∀ name text, k.accepts true name text = true ↔ SameLetters text name

/-- The forms that are at hand are lower-case forms: `foldLetter` knows the two exceptions. -/
theorem lowerForm_foldLetter (c : Char) : LowerForm c (foldLetter c) := by
  rw [foldLetter]
  split
  · next kelvin => exact kelvin ▸ .kelvin
  split
  · next dotted => exact dotted ▸ .dotted
  next ne_kelvin ne_dotted =>
    by_cases ascii : c.toNat < 128
    · exact .ascii ascii
    · have beyond := Nat.le_of_not_lt ascii
      refine .other beyond ne_kelvin ne_dotted (List.cons_ne_nil _ _) ?_
      rw [List.forall_mem_singleton, toLower_of_lt (by omega)]
      exact mt toNat_lt_of_isAlpha ascii

/-- **The functions at hand keep the promises**, so `Casing.Lawful` can be met. -/
theorem lawful_atHand : atHand.Lawful where
  exists_forms text := by
    refine ⟨text.toList.map foldLetter, ?_, ?_⟩
    · rw [List.forall₂_map_right_iff, List.forall₂_same]
      exact fun c _ => lowerForm_foldLetter c
    · show (foldLetters text).toList = _
      rw [foldLetters, String.toList_ofList, List.flatMap_def]
  accepts_exact name text := by simp [atHand]
  accepts_ascii name text := by simp [atHand, sameLetters_iff]

variable {k : Casing}

/-- **A text lowers to a name exactly if it is equal to it up to the case of ASCII letters**,
whatever `k` makes of other letters. -/
theorem Lawful.lower_eq_iff (lawful : k.Lawful) {text name : String}
    (letters : ∀ c ∈ name.toList, IsNameLetter c) :
    k.lower text = name ↔ SameLetters text name := by
  obtain ⟨forms, each, lower_eq⟩ := lawful.exists_forms text
  rw [sameLetters_iff_map letters, ← String.toList_inj, lower_eq]
  constructor
  · intro made
    rw [← flatten_eq_map each (.inl (made ▸ letters)), made]
  · intro same
    rw [← same, List.forall_mem_map] at letters
    rw [flatten_eq_map each (.inr letters), same]

end Casing

end Text

namespace Format

open Text

variable {k : Casing} {text : String} {f : Format}

/-! ### Readers of names -/

/-- Names are made of letters of names. -/
theorem isNameLetter_name (f : Format) : ∀ c ∈ f.name.toList, IsNameLetter c := by
  cases f <;> simp [name, IsNameLetter]

/-- So is `jsonlines`, the further name for JSON lines. -/
theorem isNameLetter_jsonLines : ∀ c ∈ "jsonlines".toList, IsNameLetter c := by
  simp [IsNameLetter]

/-- Different formats have different names: `Format.name` is injective. -/
theorem name_injective {f g : Format} (same : f.name = g.name) : f = g := by
  revert same
  cases f <;> cases g <;> decide

/-- **A reader that goes through the names finds the format whose name the text is taken for**, if
it is taken for one name at most. -/
theorem ofNameBy?_eq_some_iff {ignoring : Bool}
    (unique : ∀ g, k.accepts ignoring f.name text = true → k.accepts ignoring g.name text = true →
      g = f) :
    ofNameBy? k ignoring text = some f ↔ k.accepts ignoring f.name text = true := by
  rw [ofNameBy?, Casing.choose?]
  constructor
  · intro found
    have accepted := List.find?_some found
    exact accepted
  · intro accepted
    -- the reader may find another format first, but no other one takes the text
    cases found : all.find? fun g => k.accepts ignoring g.name text with
    | none => exact absurd accepted (List.find?_eq_none.1 found f f.mem_all)
    | some g =>
      have accepted' := List.find?_some found
      rw [unique g accepted accepted']

/-- **The exact reader takes the names**, and no other text. -/
theorem ofNameBy?_false_eq_some_iff (lawful : k.Lawful) :
    ofNameBy? k false text = some f ↔ text = f.name := by
  rw [ofNameBy?_eq_some_iff, lawful.accepts_exact]
  intro g named named'
  rw [lawful.accepts_exact] at named named'
  exact name_injective (named'.symm.trans named)

/-- **The reader that disregards the case of ASCII letters takes what is a name up to that**, and no
two names are the same up to that. -/
theorem ofNameBy?_true_eq_some_iff (lawful : k.Lawful) :
    ofNameBy? k true text = some f ↔ SameLetters text f.name := by
  rw [ofNameBy?_eq_some_iff, lawful.accepts_ascii]
  intro g named named'
  rw [lawful.accepts_ascii, sameLetters_iff, foldAscii_of_letters (isNameLetter_name _)]
    at named named'
  exact name_injective (named'.symm.trans named)

/-- **The look-up of a lowered text finds what is a name, or `jsonlines`**, up to the case of ASCII
letters. -/
theorem parseBy_eq_ok_iff (lawful : k.Lawful) :
    parseBy k text = .ok f ↔
      SameLetters text f.name ∨ SameLetters text "jsonlines" ∧ f = .jsonLines := by
  rw [← lawful.lower_eq_iff f.isNameLetter_name, ← lawful.lower_eq_iff isNameLetter_jsonLines,
    parseBy]
  -- what was lowered no longer matters, only what it became
  generalize k.lower text = lowered
  -- each row of the table is for one text, and the last row for all the others
  split <;> cases f <;> simp_all [name]

/-- **A text that is not found is quoted as it was given** in `unknownMessage text`, and not as it
was lowered. -/
theorem parseBy_eq_error_iff {message : String} :
    parseBy k text = .error message ↔
      (∀ f, parseBy k text ≠ .ok f) ∧ message = unknownMessage text := by
  rw [parseBy]
  split <;> simp [eq_comm]

/-! ### Functions that keep the promises -/

variable {k' : Casing}

/-- **The look-up of a lowered text may rest on any functions** that keep the promises. -/
theorem parseBy_congr (lawful : k.Lawful) (lawful' : k'.Lawful) (text : String) :
    parseBy k text = parseBy k' text := by
  cases read : parseBy k' text with
  | ok f => rwa [parseBy_eq_ok_iff lawful, ← parseBy_eq_ok_iff lawful']
  | error message =>
    -- both refuse the same texts, and the message quotes the text itself
    obtain ⟨refused, rfl⟩ := parseBy_eq_error_iff.1 read
    refine parseBy_eq_error_iff.2 ⟨fun f found => refused f ?_, rfl⟩
    rwa [parseBy_eq_ok_iff lawful', ← parseBy_eq_ok_iff lawful]

/-- So may the readers that go through the names. -/
theorem ofNameBy?_congr (lawful : k.Lawful) (lawful' : k'.Lawful) (ignoring : Bool)
    (text : String) : ofNameBy? k ignoring text = ofNameBy? k' ignoring text := by
  refine Option.ext fun f => ?_
  cases ignoring with
  | false => rw [ofNameBy?_false_eq_some_iff lawful, ofNameBy?_false_eq_some_iff lawful']
  | true => rw [ofNameBy?_true_eq_some_iff lawful, ofNameBy?_true_eq_some_iff lawful']

/-! ### Agreement -/

/-- **Three readers of names agree on a text**, in so far as they can: each has its own idea of a
name. -/
structure Agree (anyCase : String → Except String Format) (asciiCase exact : String → Option Format)
    (text : String) : Prop where
  /-- The exact reader takes the names of formats. -/
  exact_iff : ∀ f, exact text = some f ↔ text = f.name
  /-- The second takes what is equal to one up to the case of ASCII letters. -/
  asciiCase_iff : ∀ f, asciiCase text = some f ↔ SameLetters text f.name
  /-- The third takes the same, and one more name for JSON lines in such letters. -/
  anyCase_iff : ∀ f, anyCase text = .ok f ↔
    asciiCase text = some f ∨ SameLetters text "jsonlines" ∧ f = .jsonLines
  /-- What the exact reader takes, the others take for the same format. -/
  of_exact : ∀ f, exact text = some f → asciiCase text = some f ∧ anyCase text = .ok f
  /-- No reader takes a text with a character beyond ASCII. -/
  beyond : (∃ c ∈ text.toList, 128 ≤ c.toNat) →
    asciiCase text = none ∧ ∀ f, anyCase text ≠ .ok f
  /-- A text that the third refuses is quoted as it was given. -/
  quoted : (∀ f, anyCase text ≠ .ok f) →
    anyCase text = .error ("Unknown output format: " ++ text)

/-- **The three readers agree on every text**, if the functions that they rest on keep the promises.
-/
theorem agree_of_lawful (lawful : k.Lawful) (text : String) :
    Agree (parseBy k) (ofNameBy? k true) (ofNameBy? k false) text where
  exact_iff _ := ofNameBy?_false_eq_some_iff lawful
  asciiCase_iff _ := ofNameBy?_true_eq_some_iff lawful
  anyCase_iff f := by rw [parseBy_eq_ok_iff lawful, ofNameBy?_true_eq_some_iff lawful]
  of_exact f found := by
    obtain rfl := (ofNameBy?_false_eq_some_iff lawful).1 found
    have same : SameLetters f.name f.name := sameLetters_iff.2 rfl
    exact ⟨(ofNameBy?_true_eq_some_iff lawful).2 same, (parseBy_eq_ok_iff lawful).2 (.inl same)⟩
  beyond := by
    rintro ⟨c, mem, beyond⟩
    have unnamed (f : Format) : ¬ SameLetters text f.name :=
      not_sameLetters_of_beyond mem beyond f.isNameLetter_name
    constructor
    · rw [Option.eq_none_iff_forall_ne_some]
      exact fun f found => unnamed f ((ofNameBy?_true_eq_some_iff lawful).1 found)
    · intro f read
      rcases (parseBy_eq_ok_iff lawful).1 read with same | ⟨same, -⟩
      · exact unnamed f same
      · exact not_sameLetters_of_beyond mem beyond isNameLetter_jsonLines same
  quoted refused := parseBy_eq_error_iff.2 ⟨refused, rfl⟩

/-- **The readers of names agree on every text**, whatever functions they rest on. Although one of
them lowers letters beyond ASCII, too, it takes no text that the reader for ASCII letters refuses,
but for one more name for JSON lines. -/
theorem readers_agree {k : Casing} (lawful : k.Lawful) (text : String) :
    (parse text = parseBy k text ∧ ofNameAscii? text = ofNameBy? k true text ∧
      ofName? text = ofNameBy? k false text) ∧
    Agree parse ofNameAscii? ofName? text :=
  ⟨⟨parseBy_congr Casing.lawful_atHand lawful text,
    ofNameBy?_congr Casing.lawful_atHand lawful true text,
    ofNameBy?_congr Casing.lawful_atHand lawful false text⟩,
    agree_of_lawful Casing.lawful_atHand text⟩

/-- A text that lowers to a name but for a mark beyond ASCII is refused, and `JsonLines`, which
differs from the further name in the case of ASCII letters, is taken by one reader only. -/
theorem readers_agree_dotted :
    Casing.atHand.Lawful ∧
    Casing.atHand.lower "JSONL\u0130NES" = "jsonli\u0307nes" ∧
    parse "JSONL\u0130NES" = .error "Unknown output format: JSONL\u0130NES" ∧
    ofNameAscii? "JSONL\u0130NES" = none ∧
    parse "JsonLines" = .ok .jsonLines ∧ parseBy .atHand "JsonLines" = .ok .jsonLines ∧
    ofNameAscii? "JsonLines" = none ∧
    parse "csv" = .ok .csv ∧ ofNameAscii? "csv" = some .csv := by
  obtain ⟨-, dotted⟩ := readers_agree Casing.lawful_atHand "JSONL\u0130NES"
  obtain ⟨⟨same, -, -⟩, further⟩ := readers_agree Casing.lawful_atHand "JsonLines"
  obtain ⟨-, plain⟩ := readers_agree Casing.lawful_atHand "csv"
  obtain ⟨refused, refused'⟩ := dotted.beyond ⟨'\u0130', by decide, by decide⟩
  have cased : SameLetters "JsonLines" "jsonlines" :=
    (sameLetters_iff_map isNameLetter_jsonLines).2 (by decide)
  have read := (further.anyCase_iff .jsonLines).2 (.inr ⟨cased, rfl⟩)
  have unread : ofNameAscii? "JsonLines" = none := by
    rw [Option.eq_none_iff_forall_ne_some]
    intro f found
    have lowered := (sameLetters_iff_map f.isNameLetter_name).1 ((further.asciiCase_iff f).1 found)
    revert lowered
    cases f <;> decide
  obtain ⟨taken, taken'⟩ := plain.of_exact .csv (by decide)
  exact ⟨Casing.lawful_atHand, by decide, dotted.quoted refused', refused, read, same ▸ read,
    unread, taken', taken⟩

end Format

end LinearSweep
